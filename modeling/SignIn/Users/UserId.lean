import SignIn.Bytes.Hex
import SignIn.Text.Split

/-!
# User ids

A user id is sixteen bytes. It is written as groups of 8, 4, 4, 4 and 12 lower-case hexadecimal
digits with hyphens between them. Main statement: what is written reads back.
-/

namespace SignIn

structure UserId where
  bytes : Vector UInt8 16
  deriving DecidableEq, Repr

namespace UserId

/-- The id with these bytes, if there are sixteen. -/
def ofBytes? (bytes : List UInt8) : Option UserId :=
  if h : bytes.length = 16 then some ⟨⟨bytes.toArray, by simpa using h⟩⟩ else none

/-- A random id: the bits that mark it as such replace six of the given ones. -/
def ofRandom (bytes : Vector UInt8 16) : UserId :=
  ⟨Vector.ofFn fun i =>
    if i.val = 6 then bytes.get i &&& 0x0f ||| 0x40
    else if i.val = 8 then bytes.get i &&& 0x3f ||| 0x80
    else bytes.get i⟩

/-- The number of the scheme by which an id was made. -/
def version (id : UserId) : Nat := (id.bytes.toList.getD 6 0).toNat / 16

def chars (id : UserId) : List Char :=
  let b := id.bytes.toList
  Text.join '-' ([b.take 4, (b.drop 4).take 2, (b.drop 6).take 2, (b.drop 8).take 2, b.drop 10].map
    Hex.encodeChars)

/-- The hyphenated form. -/
def text (id : UserId) : String := String.ofList id.chars

/-- The form for logs. -/
def debugText (id : UserId) : String := s!"UserId({id.text})"

/-- Reads the hyphenated form, with digits of either case. -/
def ofHyphenated? (cs : List Char) : Option UserId :=
  match Text.split '-' cs with
  | [a, b, c, d, e] =>
    if [a.length, b.length, c.length, d.length, e.length] = [8, 4, 4, 4, 12] then
      (Hex.decodeChars (a ++ b ++ c ++ d ++ e)).bind ofBytes?
    else none
  | _ => none

/-- The names that may stand before a hyphenated form. -/
def schemes : List (List Char) := ["urn:uuid:".toList, "URN:UUID:".toList]

/-- Reads an id: its 32 digits, the hyphenated form, or that form in braces or after the name of a
scheme. -/
def ofChars? (cs : List Char) : Option UserId :=
  if cs.length = 32 then (Hex.decodeChars cs).bind ofBytes?
  else if cs.length = 38 ∧ cs.head? = some '\x7b' ∧ cs.getLast? = some '\x7d' then
    ofHyphenated? ((cs.drop 1).take 36)
  else if schemes.contains (cs.take 9) then ofHyphenated? (cs.drop 9)
  else ofHyphenated? cs

/-- The id that a text names. -/
def ofText? (text : String) : Option UserId := ofChars? text.toList

/-- Ids are ordered as their bytes. -/
instance : LE UserId := ⟨fun a b => a.bytes.toList ≤ b.bytes.toList⟩

instance (a b : UserId) : Decidable (a ≤ b) :=
  inferInstanceAs (Decidable (a.bytes.toList ≤ b.bytes.toList))

theorem ofBytes?_toList (id : UserId) : ofBytes? id.bytes.toList = some id := by
  obtain ⟨⟨bytes, size⟩⟩ := id
  simp [ofBytes?, size]

theorem ofBytes?_eq_some {bytes : List UInt8} {id : UserId} :
    ofBytes? bytes = some id ↔ id.bytes.toList = bytes := by
  constructor
  · intro h
    unfold ofBytes? at h
    split at h
    · cases h; simp
    · cases h
  · rintro rfl
    exact ofBytes?_toList id

theorem ofBytes?_eq_none {bytes : List UInt8} : ofBytes? bytes = none ↔ bytes.length ≠ 16 := by
  unfold ofBytes?
  split <;> simp_all

end UserId

end SignIn
