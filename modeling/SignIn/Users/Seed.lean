import SignIn.Password.Hasher
import SignIn.Users.Roster

/-!
# Seeding a roster

The users named in the settings are entered one after the other. A plain password is hashed on the
way in. The first user that cannot be entered ends it, and those before stay entered.
-/

namespace SignIn

/-- A user to enter, with a password or the hash of one. -/
structure SeedUser where
  username : String
  password : Option String
  passwordHash : Option String
  isActive : Bool
  deriving DecidableEq, Repr

namespace SeedUser

/-- The form for logs, without secrets. -/
def debugText (user : SeedUser) : String :=
  Text.record "SeedUser" [("username", Text.quoted user.username),
    ("password", Text.optional (fun _ => Text.quoted "[REDACTED]") user.password),
    ("password_hash", toString user.passwordHash.isSome), ("is_active", toString user.isActive)]

end SeedUser

inductive SeedError
  | needsOneSecret (username : String)
  | fault (error : AuthError)
  deriving DecidableEq, Repr

namespace SeedError

def message : SeedError → String
  | needsOneSecret username =>
    s!"seed user {Text.quoted username} needs exactly one of password or password_hash"
  | fault error => error.message

end SeedError

/-- What chance and the clock give to a user who is entered. -/
structure SeedDraw where
  userId : Vector UInt8 16
  salt : Vector UInt8 16
  now : Instant

namespace SeedUser

variable {σ : Type}

/-- The hash to enter for a user. -/
def secret (user : SeedUser) (hasher : PasswordHasher σ) (salt : Vector UInt8 16) (state : σ) :
    Except SeedError String × σ :=
  match user.password, user.passwordHash with
  | some password, none =>
    match (hasher.hash salt password).perform state with
    | (.ok hash, state) => (.ok hash, state)
    | (.error error, state) => (.error (.fault error), state)
  | none, some hash => (.ok hash, state)
  | _, _ => (.error (.needsOneSecret user.username), state)

/-- The credential of a user who is entered. -/
def credential (user : SeedUser) (draw : SeedDraw) (hash : String) : Credential :=
  ⟨.ofRandom draw.userId, user.username, hash, user.isActive, draw.now⟩

end SeedUser

namespace Roster

variable {σ : Type}

/-- Enters users one after the other, and counts them. -/
def seed (hasher : PasswordHasher σ) (roster : Roster) (state : σ) :
    List (SeedUser × SeedDraw) → Except SeedError Nat × Roster × σ
  | [] => (.ok 0, roster, state)
  | (user, draw) :: rest =>
    match user.secret hasher draw.salt state with
    | (.error error, state) => (.error error, roster, state)
    | (.ok hash, state) =>
      let (result, roster, state) :=
        seed hasher (roster.enter (user.credential draw hash)) state rest
      (result.map (· + 1), roster, state)

end Roster

end SignIn
