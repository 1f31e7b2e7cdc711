import SignIn.Calendar.InstantText
import SignIn.Json.Texts
import SignIn.Json.Value
import SignIn.Text.Quoted
import SignIn.Users.UserId

/-!
# Sessions

What is kept about a session, and its stored form: a JSON object of four texts.
-/

namespace SignIn

/-- Whose session it is, since when, and until when. -/
structure Session where
  userId : UserId
  username : String
  createdAt : Instant
  expiresAt : Instant
  deriving DecidableEq, Repr

namespace Session

/-- A session is over from its last moment on. -/
def IsExpiredAt (session : Session) (now : Instant) : Prop := session.expiresAt ≤ now

instance (session : Session) (now : Instant) : Decidable (session.IsExpiredAt now) :=
  inferInstanceAs (Decidable (session.expiresAt ≤ now))

/-- The form for logs. -/
def debugText (session : Session) : String :=
  Text.record "SessionRecord" [("user_id", session.userId.debugText),
    ("username", Text.quoted session.username), ("created_at", session.createdAt.text),
    ("expires_at", session.expiresAt.text)]

def toJson (session : Session) : Json :=
  .object [("user_id", .text session.userId.text), ("username", .text session.username),
    ("created_at", .text session.createdAt.text), ("expires_at", .text session.expiresAt.text)]

/-- The stored form. -/
def stored (session : Session) : String := session.toJson.compact

/-- The names in the stored form. -/
def shape : Json.Shape 4 :=
  ⟨"SessionRecord", #v["user_id", "username", "created_at", "expires_at"]⟩

/-- Reads a stored form. -/
def ofStored? (text : String) : Option Session := do
  let fields ← (Json.readRecord shape (Utf8.encode text)).toOption
  let userId ← UserId.ofText? fields[0]
  let createdAt ← Instant.ofText? fields[2]
  let expiresAt ← Instant.ofText? fields[3]
  return ⟨userId, fields[1], createdAt, expiresAt⟩

end Session

end SignIn
