import SignIn.Bytes.Utf8

/-!
# The bytes of characters

The bytes of a text are those of its characters in order. One of the first 128 characters is one
byte, its number (`encodeChars_of_lt`), and all others have no byte among the first 128
(`utf8EncodeChar_ge`).
-/

namespace SignIn

namespace Utf8

/-- The UTF-8 bytes of characters. -/
def encodeChars (cs : List Char) : List UInt8 := cs.flatMap String.utf8EncodeChar

theorem encode_ofList (cs : List Char) : encode (String.ofList cs) = encodeChars cs := by
  simp [encode, List.utf8Encode, encodeChars]

theorem encode_eq (text : String) : encode text = encodeChars text.toList := by
  rw [← encode_ofList, String.ofList_toList]

@[simp]
theorem encodeChars_nil : encodeChars [] = [] := rfl

@[simp]
theorem encodeChars_append (a b : List Char) :
    encodeChars (a ++ b) = encodeChars a ++ encodeChars b := List.flatMap_append

theorem encodeChars_cons (c : Char) (cs : List Char) :
    encodeChars (c :: cs) = String.utf8EncodeChar c ++ encodeChars cs := List.flatMap_cons

theorem utf8EncodeChar_of_lt {c : Char} (h : c.toNat < 0x80) :
    String.utf8EncodeChar c = [UInt8.ofNat c.toNat] := if_pos (Nat.le_of_lt_succ h)

theorem encodeChars_of_lt {c : Char} (h : c.toNat < 0x80) (cs : List Char) :
    encodeChars (c :: cs) = UInt8.ofNat c.toNat :: encodeChars cs := by
  rw [encodeChars_cons, utf8EncodeChar_of_lt h]
  rfl

/-- A character beyond the first 128 has no byte below 0x80. -/
theorem utf8EncodeChar_ge {c : Char} (h : 0x80 ≤ c.toNat) {b : UInt8}
    (hb : b ∈ String.utf8EncodeChar c) : 0x80 ≤ b := by
  have first : ¬c.val.toNat ≤ 0x7f := by
    have : c.val.toNat = c.toNat := rfl
    omega
  simp only [String.utf8EncodeChar, if_neg first] at hb
  rw [UInt8.le_iff_toNat_le]
  split at hb
  · simp only [List.mem_cons, List.not_mem_nil, or_false] at hb
    rcases hb with rfl | rfl <;> simp <;> omega
  split at hb
  · simp only [List.mem_cons, List.not_mem_nil, or_false] at hb
    rcases hb with rfl | rfl | rfl <;> simp <;> omega
  · simp only [List.mem_cons, List.not_mem_nil, or_false] at hb
    rcases hb with rfl | rfl | rfl | rfl <;> simp <;> omega

end Utf8

end SignIn
