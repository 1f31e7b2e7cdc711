import SignIn.Calendar.InstantText
import SignIn.Text.Quoted
import SignIn.Users.UserId

/-!
# Credentials

What is kept about a user who may sign in, and what is presented to sign in.
-/

namespace SignIn

/-- A user's name, the hash of the password, and whether signing in is allowed. -/
structure Credential where
  userId : UserId
  username : String
  passwordHash : String
  isActive : Bool
  createdAt : Instant
  deriving DecidableEq, Repr

namespace Credential

/-- The form for logs. -/
def debugText (c : Credential) : String :=
  Text.record "CredentialRecord" [("user_id", c.userId.debugText),
    ("username", Text.quoted c.username), ("password_hash", Text.quoted c.passwordHash),
    ("is_active", toString c.isActive), ("created_at", c.createdAt.text)]

end Credential

/-- A username and a password as they were entered. -/
structure Login where
  username : String
  password : String
  deriving DecidableEq, Repr

namespace Login

/-- The form for logs, without the password. -/
def debugText (login : Login) : String :=
  Text.record "Credentials" [("username", Text.quoted login.username),
    ("password", Text.quoted "[REDACTED]")]

end Login

end SignIn
