/-!
# Text as bytes

Main statement: the bytes of a text read back as that text.
-/

namespace SignIn.Utf8

/-- The UTF-8 bytes of a text. -/
def encode (text : String) : List UInt8 := text.toByteArray.data.toList

/-- The text whose UTF-8 bytes these are, if there is one. -/
def decode (bytes : List UInt8) : Option String := String.fromUTF8? ⟨bytes.toArray⟩

@[simp]
theorem decode_encode (text : String) : decode (encode text) = some text := by
  have h : (⟨(encode text).toArray⟩ : ByteArray) = text.toByteArray := by simp [encode]
  simp [decode, String.fromUTF8?, h, text.isValidUTF8]
  rfl

end SignIn.Utf8
