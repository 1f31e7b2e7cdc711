import SignIn.Bytes.Hex
import SignIn.Bytes.Utf8

/-!
# Tokens

A session token names a session and is known to its holder only. A CSRF token is bound to one
session token. Both are shown in logs by their first six characters.
-/

namespace SignIn

structure SessionToken where
  text : String
  deriving DecidableEq, Repr

structure CsrfToken where
  text : String
  deriving DecidableEq, Repr

/-- What a token shows of itself in a log. -/
def tokenHint (text : String) : String := String.ofList (text.toList.take 6) ++ ".."

namespace SessionToken

/-- A new token, from 32 random bytes. -/
def ofRandom (bytes : Vector UInt8 32) : SessionToken := ⟨Hex.encode bytes.toList⟩

/-- The form for logs. -/
def debugText (token : SessionToken) : String := s!"SessionToken({tokenHint token.text})"

@[simp]
theorem ofRandom_inj {a b : Vector UInt8 32} : ofRandom a = ofRandom b ↔ a = b := by
  constructor
  · intro h
    have : Hex.encode a.toList = Hex.encode b.toList := congrArg SessionToken.text h
    have := congrArg Hex.decode this
    simp only [Hex.decode_encode, Option.some.injEq] at this
    exact Vector.toList_inj.1 this
  · rintro rfl; rfl

end SessionToken

namespace CsrfToken

/-- The form for logs. -/
def debugText (token : CsrfToken) : String := s!"CsrfToken({tokenHint token.text})"

end CsrfToken

end SignIn
