import SignIn.Settings.Fault
import SignIn.Text.LowerCase

/-!
# Fields of settings

A field takes values of its own type, and others that can be taken for one: numbers and Booleans
serve as texts, texts and Booleans as numbers. A record is a table, or a list of all its fields in
order. A value of the wrong type is reported before a field that is missing.
-/

namespace SignIn

namespace Tree

/-- Reads a text. -/
def readText : Tree → Except SettingsFault String
  | .text value => .ok value
  | .bool value => .ok (toString value)
  | .integer value => .ok (toString value)
  | .floating value => .ok value.text
  | other => .error (.mismatch (.ofTree other) .text [])

def yesWords : List String := ["true", "on", "yes"]

def noWords : List String := ["false", "off", "no"]

/-- Reads the digits of a word, with or without a plus sign in front. -/
def word? (text : String) : Option UInt64 :=
  let digits := match text.toList with
    | '+' :: digits => digits
    | digits => digits
  if digits.isEmpty ∨ ¬digits.all Char.isDigit then none
  else
    let n := digits.foldl (fun n c => 10 * n + (c.toNat - 48)) 0
    if n < UInt64.size then some (UInt64.ofNat n) else none

/-- Reads a natural number of 64 bits. -/
def readWord64 : Tree → Except SettingsFault UInt64
  | .integer value =>
    if 0 ≤ value then .ok (UInt64.ofNat value.toNat)
    else .error (.mismatch (.signedWord value) .word64 [])
  | .floating value => .ok value.toWord
  | .bool value => .ok (if value then 1 else 0)
  | .text value =>
    if Text.lower value ∈ yesWords then .ok 1
    else if Text.lower value ∈ noWords then .ok 0
    else
      match word? value with
      | some word => .ok word
      | none => .error (.mismatch (.text value) .integer [])
  | other => .error (.mismatch (.ofTree other) .integer [])

/-- Reads a natural number of 32 bits. -/
def readWord32 (tree : Tree) : Except SettingsFault UInt32 := do
  let word ← tree.readWord64
  if word.toNat < UInt32.size then .ok word.toUInt32
  else .error (.mismatch (.unsignedWord word) .word32 [])

/-- Reads a Boolean. A number is true unless it is zero. -/
def readBool : Tree → Except SettingsFault Bool
  | .bool value => .ok value
  | .integer value => .ok (value ≠ 0)
  | .floating value => .ok (!value.isZero)
  | .text value =>
    let word := Text.lower value
    if word ∈ "1" :: yesWords then .ok true
    else if word ∈ "0" :: noWords then .ok false
    else .error (.mismatch (.text word) .boolean [])
  | other => .error (.mismatch (.ofTree other) .boolean [])

/-- Reads what may be absent. -/
def readOption {α : Type} (read : Tree → Except SettingsFault α) :
    Tree → Except SettingsFault (Option α)
  | .absent => .ok none
  | tree => (read tree).map some

/-- Reads the items of a list from an index on. -/
def readItems {α : Type} (read : Tree → Except SettingsFault α) (index : Nat) :
    List Tree → Except SettingsFault (List α)
  | [] => .ok []
  | item :: rest => do
    let a ← (read item).mapError (.under (.item index))
    return a :: (← readItems read (index + 1) rest)

/-- Reads a list. -/
def readList {α : Type} (read : Tree → Except SettingsFault α) :
    Tree → Except SettingsFault (List α)
  | .list items => readItems read 0 items
  | other => .error (.mismatch (.ofTree other) .sequence [])

end Tree

/-- How the fields of a record are written: under their names, or in order. -/
inductive Fields
  | named (entries : List (String × Tree))
  | ordered (items : List Tree)

/-- A record with a name and the names of its fields, as it is written. -/
structure Record where
  name : String
  fieldNames : List String
  fields : Fields

namespace Record

def ofTree (name : String) (fieldNames : List String) : Tree → Except SettingsFault Record
  | .table entries => .ok ⟨name, fieldNames, .named entries⟩
  | .list items => .ok ⟨name, fieldNames, .ordered items⟩
  | other => .error (.mismatch (.ofTree other) (.record name) [])

/-- What is written for a field, and the step to it. -/
def find? (record : Record) (field : String) : Option (Step × Tree) :=
  match record.fields with
  | .named entries => (entries.lookup field).map fun tree => (.key field, tree)
  | .ordered items =>
    let index := record.fieldNames.idxOf field
    items[index]?.map fun tree => (.item index, tree)

/-- Reads a field, if it is written. -/
def read? {α : Type} (record : Record) (read : Tree → Except SettingsFault α) (field : String) :
    Except SettingsFault (Option α) :=
  match record.find? field with
  | none => .ok none
  | some (step, tree) => ((read tree).map some).mapError (.under step)

/-- The fault where a field is not written. -/
def missing (record : Record) (field : String) : SettingsFault :=
  match record.fields with
  | .named _ => .missing [.key field]
  | .ordered _ =>
    .tooShort (record.fieldNames.idxOf field) record.name record.fieldNames.length []

/-- The value of a field that has to be written. -/
def require {α : Type} (record : Record) (field : String) (value : Option α) :
    Except SettingsFault α :=
  match value with
  | some a => .ok a
  | none => .error (record.missing field)

/-- The value of a field that may be left out, but only under names. -/
def optional {α : Type} (record : Record) (field : String) (value : Option (Option α)) :
    Except SettingsFault (Option α) :=
  match value, record.fields with
  | some a, _ => .ok a
  | none, .named _ => .ok none
  | none, .ordered _ => .error (record.missing field)

end Record

end SignIn
