import SignIn.Digest.Hmac
import SignIn.Session.Token

/-!
# Binding tokens to sessions

The CSRF token of a session is the keyed code of its session token in hexadecimal digits. Nothing
more is stored for it: whoever has the key can make it again.
-/

namespace SignIn

/-- The key under which CSRF tokens are made. -/
structure CsrfKey where
  bytes : List UInt8
  deriving DecidableEq, Repr

namespace CsrfKey

def ofText (text : String) : CsrfKey := ⟨Utf8.encode text⟩

/-- The code of a session token. -/
def code (key : CsrfKey) (session : SessionToken) : List UInt8 :=
  Hmac.code key.bytes (Utf8.encode session.text)

/-- The CSRF token of a session. -/
def bind (key : CsrfKey) (session : SessionToken) : CsrfToken := ⟨Hex.encode (key.code session)⟩

/-- Whether a token is the one of a session, in digits of either case. -/
def verify (key : CsrfKey) (session : SessionToken) (csrf : CsrfToken) : Bool :=
  Hex.decode csrf.text = some (key.code session)

theorem verify_bind (key : CsrfKey) (session : SessionToken) :
    key.verify session (key.bind session) = true := by
  simp [verify, bind]

end CsrfKey

end SignIn
