/-!
# Hexadecimal text

Bytes are written with two lower-case digits each; either case is read. Main statements: what is
written reads back, and what is read is the written form but for the case of its letters
(`decode_eq_some_iff`).
-/

namespace SignIn.Hex

/-- The lower-case digit of a value below sixteen. -/
def digit (n : Nat) : Char := if n < 10 then Char.ofNat (48 + n) else Char.ofNat (87 + n)

/-- The value of a digit of either case. -/
def value? (c : Char) : Option Nat :=
  if 48 ≤ c.toNat ∧ c.toNat ≤ 57 then some (c.toNat - 48)
  else if 97 ≤ c.toNat ∧ c.toNat ≤ 102 then some (c.toNat - 87)
  else if 65 ≤ c.toNat ∧ c.toNat ≤ 70 then some (c.toNat - 55)
  else none

def encodeByte (b : UInt8) : List Char := [digit (b.toNat / 16), digit (b.toNat % 16)]

def encodeChars (bytes : List UInt8) : List Char := bytes.flatMap encodeByte

/-- Reads pairs of digits; a digit left over is refused. -/
def decodeChars : List Char → Option (List UInt8)
  | [] => some []
  | [_] => none
  | a :: b :: rest =>
    match value? a, value? b, decodeChars rest with
    | some hi, some lo, some bytes => some (UInt8.ofNat (16 * hi + lo) :: bytes)
    | _, _, _ => none

def encode (bytes : List UInt8) : String := String.ofList (encodeChars bytes)

def decode (text : String) : Option (List UInt8) := decodeChars text.toList

theorem value?_digit {n : Nat} (h : n < 16) : value? (digit n) = some n := by
  have : ∀ m : Fin 16, value? (digit m) = some m.val := by decide
  exact this ⟨n, h⟩

theorem decodeChars_encodeChars (bytes : List UInt8) :
    decodeChars (encodeChars bytes) = some bytes := by
  induction bytes with
  | nil => rfl
  | cons b rest ih =>
    have hb : b.toNat < 256 := b.toNat_lt
    have hi := value?_digit (n := b.toNat / 16) (by omega)
    have lo := value?_digit (n := b.toNat % 16) (by omega)
    have join : 16 * (b.toNat / 16) + b.toNat % 16 = b.toNat := by omega
    have step : decodeChars (encodeChars (b :: rest)) = some (UInt8.ofNat b.toNat :: rest) := by
      show decodeChars (digit (b.toNat / 16) :: digit (b.toNat % 16) :: encodeChars rest) = _
      simp [decodeChars, hi, lo, ih, join]
    simpa using step

@[simp]
theorem decode_encode (bytes : List UInt8) : decode (encode bytes) = some bytes := by
  simp [decode, encode, decodeChars_encodeChars]

@[simp]
theorem length_encodeChars (bytes : List UInt8) :
    (encodeChars bytes).length = 2 * bytes.length := by
  induction bytes with
  | nil => rfl
  | cons b rest ih => simp [encodeChars, encodeByte] at ih ⊢; omega

theorem toList_toLower (text : String) : text.toLower.toList = text.toList.map Char.toLower :=
  String.toList_map

theorem toNat_toLower (c : Char) :
    c.toLower.toNat = if 65 ≤ c.toNat ∧ c.toNat ≤ 90 then c.toNat + 32 else c.toNat := by
  have upper : c.val ≥ 'A'.val ∧ c.val ≤ 'Z'.val ↔ 65 ≤ c.toNat ∧ c.toNat ≤ 90 := by
    rw [ge_iff_le, UInt32.le_iff_toNat_le, UInt32.le_iff_toNat_le]
    rfl
  unfold Char.toLower
  by_cases h : 65 ≤ c.toNat ∧ c.toNat ≤ 90
  · rw [dif_pos (upper.2 h), if_pos h]
    change (c.val + 32).toNat = c.val.toNat + 32
    rw [UInt32.toNat_add]
    have : c.val.toNat = c.toNat := rfl
    have : (32 : UInt32).toNat = 32 := rfl
    omega
  · rw [dif_neg (mt upper.1 h), if_neg h]

/-- The value of a digit does not depend on its case. -/
theorem value?_toLower (c : Char) : value? c.toLower = value? c := by
  unfold value?
  rw [toNat_toLower]
  by_cases upper : 65 ≤ c.toNat ∧ c.toNat ≤ 90
  · grind
  · rw [if_neg upper]

/-- What has a value is a digit below sixteen in either case. -/
theorem digit_of_value? {c : Char} {n : Nat} (h : value? c = some n) :
    n < 16 ∧ digit n = c.toLower := by
  have small : n < 16 := by grind [value?]
  refine ⟨small, Char.toNat_inj.1 ?_⟩
  have written : (digit n).toNat = if n < 10 then 48 + n else 87 + n := by
    have all : ∀ m : Fin 16, (digit m).toNat = if m.val < 10 then 48 + m.val else 87 + m.val := by
      decide
    exact all ⟨n, small⟩
  rw [written, toNat_toLower]
  grind [value?]

theorem encodeByte_ofNat {hi lo : Nat} (hhi : hi < 16) (hlo : lo < 16) :
    encodeByte (UInt8.ofNat (16 * hi + lo)) = [digit hi, digit lo] := by
  have byte : (UInt8.ofNat (16 * hi + lo)).toNat = 16 * hi + lo := by
    rw [UInt8.toNat_ofNat']
    omega
  have first : (16 * hi + lo) / 16 = hi := by omega
  have second : (16 * hi + lo) % 16 = lo := by omega
  rw [encodeByte, byte, first, second]

/-- What is read is the written form of the bytes, with letters of either case. -/
theorem encodeChars_of_decodeChars {cs : List Char} {bytes : List UInt8}
    (h : decodeChars cs = some bytes) : encodeChars bytes = cs.map Char.toLower := by
  fun_induction decodeChars cs generalizing bytes with
  | case1 => cases h; rfl
  | case2 => cases h
  | case3 a b rest hi lo tail readTail readLo readHi ih =>
    obtain ⟨hiLt, hiEq⟩ := digit_of_value? readHi
    obtain ⟨loLt, loEq⟩ := digit_of_value? readLo
    cases h
    rw [encodeChars, List.flatMap_cons, encodeByte_ofNat hiLt loLt, hiEq, loEq]
    exact congrArg (a.toLower :: b.toLower :: ·) (ih readTail)
  | case4 => cases h

theorem decodeChars_map_toLower (cs : List Char) :
    decodeChars (cs.map Char.toLower) = decodeChars cs := by
  fun_induction decodeChars cs with
  | case1 => rfl
  | case2 => rfl
  | case3 a b rest hi lo tail readTail readLo readHi ih =>
    simp only [List.map_cons, decodeChars, value?_toLower, ih, readHi, readLo, readTail]
  | case4 a b rest unread ih =>
    simp only [List.map_cons, decodeChars, value?_toLower, ih]

/-- A text is read as bytes exactly if it is their written form in either case. -/
theorem decode_eq_some_iff {text : String} {bytes : List UInt8} :
    decode text = some bytes ↔ text.toLower = encode bytes := by
  rw [← String.toList_inj, toList_toLower, encode, String.toList_ofList]
  constructor
  · exact fun h => (encodeChars_of_decodeChars h).symm
  · intro h
    rw [decode, ← decodeChars_map_toLower, h, decodeChars_encodeChars]

end SignIn.Hex
