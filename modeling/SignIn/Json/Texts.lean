import SignIn.Json.PassOver

/-!
# Records of texts

A record all of whose fields are texts is written as an object or as a list of its fields in order.
In an object the order is free and unknown keys are passed over with their values; a known key may
stand there once. Main statement: a reading has one text for each field, by its type.
-/

namespace SignIn.Json

/-- The names of a record and of its fields. -/
structure Shape (n : Nat) where
  name : String
  fields : Vector String n

/-- Refuses a value that is not what was expected. It is read as far as that takes to name it. -/
def refuseValue {α : Type} (expected : String) (s : List UInt8) : Except Fault α := do
  let wrong (found : Found) (rest : List UInt8) : Except Fault α :=
    .error ⟨.wrongType found expected, rest.length⟩
  match s with
  | [] => .error ⟨.endInValue, 0⟩
  | b :: rest =>
    if b = 0x6e then wrong .null (← readIdent [0x75, 0x6c, 0x6c] rest)
    else if b = 0x74 then wrong (.bool true) (← readIdent [0x72, 0x75, 0x65] rest)
    else if b = 0x66 then wrong (.bool false) (← readIdent [0x61, 0x6c, 0x73, 0x65] rest)
    else if b = 0x2d then
      let (found, rest) ← readNumber true rest
      wrong found rest
    else if isDigit b then
      let (found, rest) ← readNumber false s
      wrong found rest
    else if b = 0x22 then
      let (value, left) ← readText rest
      wrong (.text value) left.1
    else if b = 0x5b then wrong .list s
    else if b = 0x7b then wrong .object s
    else refuse .expectedValue s

/-- Reads a text where a value is expected. -/
def readTextValue (s : List UInt8) : Except Fault (String × Shorter s) :=
  match h : skipBlanks s with
  | [] => .error ⟨.endInValue, 0⟩
  | b :: rest =>
    if b = 0x22 then
      (readText rest).map fun (value, left) => (value, (afterBlanks h).trans left)
    else refuseValue "a string" (b :: rest)

/-- Where a record ends that is refused as a whole: after its closing bracket if that comes next. -/
def endOf (bracket : Bracket) (s : List UInt8) : Nat :=
  match skipBlanks s with
  | [] => 0
  | b :: rest => if b = bracket.closing then rest.length else rest.length + 1

/-- Reads what stands before the key of a member: nothing for the first one and a comma for the
others. Where the object ends there is no member. -/
def readMemberStart (isFirst : Bool) (s : List UInt8) : Except Fault (Option (Shorter s)) :=
  match h : skipBlanks s with
  | [] => .error ⟨.endInObject, 0⟩
  | b :: rest =>
    if b = 0x7d then .ok none
    else if isFirst then
      if b = 0x22 then .ok (some (afterBlanks h)) else refuse .keyNotText (b :: rest)
    else if b = 0x2c then
      match h' : skipBlanks rest with
      | [] => .error ⟨.endInValue, 0⟩
      | c :: rest' =>
        if c = 0x22 then .ok (some ((afterBlanks h).trans (afterBlanks h')))
        else if c = 0x7d then refuse .trailingComma (c :: rest')
        else refuse .keyNotText (c :: rest')
    else refuse .expectedObjectEnd (b :: rest)

/-- Reads the members of an object up to its end, and keeps those whose keys are known. -/
def readMembers (known : List String) (isFirst : Bool) (seen : List (String × String))
    (s : List UInt8) : Except Fault (List (String × String) × List UInt8) := do
  match ← readMemberStart isFirst s with
  | none => return (seen, s)
  | some start =>
    let (key, afterKey) ← readText start.1
    if known.contains key then
      if (seen.lookup key).isSome then
        .error ⟨.duplicateField key, endOf .object afterKey.1⟩
      else
        let colon ← readColon afterKey.1
        let (value, left) ← readTextValue colon.1
        readMembers known false ((key, value) :: seen) left.1
    else
      let colon ← readColon afterKey.1
      let left ← skipValue colon.1
      readMembers known false seen left.1
termination_by s.length
decreasing_by
  · have := start.2; have := afterKey.2; have := colon.2; have := left.2; omega
  · have := start.2; have := afterKey.2; have := colon.2; have := left.2; omega

/-- Reads the members of an object after its opening bracket as a record. -/
def readObject {n : Nat} (shape : Shape n) (s : List UInt8) :
    Except Fault (Vector String n × List UInt8) := do
  let (seen, left) ← readMembers shape.fields.toList true [] s
  let texts ← shape.fields.mapM fun name =>
    match seen.lookup name with
    | some value => .ok value
    | none => .error ⟨.missingField name, endOf .object left⟩
  return (texts, (skipBlanks left).drop 1)

/-- Reads what stands before an element of a list: nothing before the first one and a comma before
the others. Where the list ends there is no element. -/
def readElementStart (isFirst : Bool) (s : List UInt8) : Except Fault (Option (List UInt8)) :=
  match skipBlanks s with
  | [] => .error ⟨.endInList, 0⟩
  | b :: rest =>
    if b = 0x5d then .ok none
    else if isFirst then .ok (some (b :: rest))
    else if b = 0x2c then
      match skipBlanks rest with
      | [] => .error ⟨.endInValue, 0⟩
      | c :: rest' =>
        if c = 0x5d then refuse .trailingComma (c :: rest') else .ok (some (c :: rest'))
    else refuse .expectedListEnd (b :: rest)

/-- Reads as many texts of a list as are expected; `read` counts those before. -/
def readElements (expected : String) (read : Nat) :
    (n : Nat) → List UInt8 → Except Fault (Vector String n × List UInt8)
  | 0, s => .ok (#v[], s)
  | n + 1, s => do
    match ← readElementStart (read == 0) s with
    | none => .error ⟨.wrongLength read expected, endOf .list s⟩
    | some start =>
      let (value, left) ← readTextValue start
      let (texts, left) ← readElements expected (read + 1) n left.1
      return ((#v[value] ++ texts).cast (Nat.add_comm 1 n), left)

/-- Reads the end of a list. -/
def readListEnd (s : List UInt8) : Except Fault (List UInt8) :=
  match skipBlanks s with
  | [] => .error ⟨.endInList, 0⟩
  | b :: rest =>
    if b = 0x5d then .ok rest
    else if b = 0x2c then
      match skipBlanks rest with
      | 0x5d :: rest => refuse .trailingComma (0x5d :: rest)
      | rest => refuse .trailingCharacters rest
    else refuse .trailingCharacters (b :: rest)

/-- Reads a list after its opening bracket as texts. -/
def readList (expected : String) (n : Nat) (s : List UInt8) :
    Except Fault (Vector String n × List UInt8) := do
  let (texts, left) ← readElements expected 0 n s
  return (texts, ← readListEnd left)

/-- Refuses all but white space. -/
def readEnd (s : List UInt8) : Except Fault Unit :=
  match skipBlanks s with
  | [] => .ok ()
  | rest => refuse .trailingCharacters rest

/-- Reads a whole JSON text as a record. -/
def readRecord {n : Nat} (shape : Shape n) (s : List UInt8) : Except Fault (Vector String n) := do
  let (texts, left) ← match skipBlanks s with
    | 0x7b :: rest => readObject shape rest
    | 0x5b :: rest => readList s!"struct {shape.name} with {n} elements" n rest
    | rest => refuseValue s!"struct {shape.name}" rest
  readEnd left
  return texts

/-- Reads a whole JSON text as a list of so many texts. -/
def readTuple (n : Nat) (s : List UInt8) : Except Fault (Vector String n) := do
  let expected := s!"a tuple of size {n}"
  let (texts, left) ← match skipBlanks s with
    | 0x5b :: rest => readList expected n rest
    | rest => refuseValue expected rest
  readEnd left
  return texts

end SignIn.Json
