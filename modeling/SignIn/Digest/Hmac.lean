import SignIn.Digest.Sha256

/-!
# HMAC with SHA-256

Main statement: a code has thirty-two bytes, whatever the key's length.
-/

namespace SignIn.Hmac

/-- The key filled up to one block; a key longer than a block is digested first. -/
def blockKey (key : List UInt8) : List UInt8 :=
  Bytes.padTo 64 (if 64 < key.length then Sha256.digest key else key)

/-- The message authentication code of a message under a key. -/
def code (key message : List UInt8) : List UInt8 :=
  let inner := Sha256.digest ((blockKey key).map (· ^^^ 0x36) ++ message)
  Sha256.digest ((blockKey key).map (· ^^^ 0x5c) ++ inner)

@[simp]
theorem length_code (key message : List UInt8) : (code key message).length = 32 := rfl

end SignIn.Hmac
