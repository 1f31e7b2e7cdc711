import SignIn.Password.Hasher
import SignIn.Session.Csrf
import SignIn.Session.Store
import SignIn.Users.Store

/-!
# The sign-in service

Signing in checks a password and opens a session, a session token tells whose session it is, and
with the CSRF token of the session it also ends it. A name that is not known costs a verification
like a wrong password: the password is verified against a decoy, the hash of a random text, that is
made once and kept.
-/

namespace SignIn

/-- Why credentials were refused. It never says which of the two was wrong. -/
inductive Rejection
  | invalid
  deriving DecidableEq, Repr

namespace Rejection

/-- The title of every message about a failure to sign in. -/
def title : String := "Error"

def message : Rejection → String
  | invalid => "Incorrect username or password."

/-- The name of a reason. -/
def name : Rejection → String
  | invalid => "Invalid"

end Rejection

/-- The message where the fault is the service's own. -/
def serverErrorMessage : String := "Server error"

/-- A session that was handed out. -/
structure IssuedSession where
  session : SessionToken
  csrf : CsrfToken
  userId : UserId
  username : String
  expiresAt : Instant
  deriving DecidableEq, Repr

namespace IssuedSession

/-- The form for logs. -/
def debugText (issued : IssuedSession) : String :=
  Text.record "IssuedSession" [("session_token", issued.session.debugText),
    ("csrf_token", issued.csrf.debugText), ("user_id", issued.userId.debugText),
    ("username", Text.quoted issued.username), ("expires_at", issued.expiresAt.text)]

end IssuedSession

/-- The answer to a request to sign in. -/
inductive SignInAnswer
  | authenticated (issued : IssuedSession)
  | rejected (reason : Rejection)
  deriving DecidableEq, Repr

namespace SignInAnswer

/-- The form for logs. -/
def debugText : SignInAnswer → String
  | authenticated issued => s!"Authenticated({issued.debugText})"
  | rejected reason => Text.record "Rejected" [("reason", reason.name)]

end SignInAnswer

/-- What the holder of a session token is told. -/
structure SessionInfo where
  userId : UserId
  username : String
  expiresAt : Instant
  deriving DecidableEq, Repr

namespace SessionInfo

/-- The form for logs. -/
def debugText (info : SessionInfo) : String :=
  Text.record "SessionInfo" [("user_id", info.userId.debugText),
    ("username", Text.quoted info.username), ("expires_at", info.expiresAt.text)]

end SessionInfo

def Session.info (session : Session) : SessionInfo :=
  ⟨session.userId, session.username, session.expiresAt⟩

def IssuedSession.info (issued : IssuedSession) : SessionInfo :=
  ⟨issued.userId, issued.username, issued.expiresAt⟩

namespace Duration

/-- A number of units with a fraction that has so many places, without zeros at its end. -/
def unitText (whole fraction places : Nat) (unit : String) : String :=
  let digits := (Text.padded places fraction).reverse.dropWhile (· == '0') |>.reverse
  let point := if digits.isEmpty then [] else '.' :: digits
  toString whole ++ String.ofList point ++ unit

/-- A span in the largest unit that it fills. -/
def text (d : Duration) : String :=
  if 0 < d.seconds then unitText d.seconds d.nanos 9 "s"
  else if 1000000 ≤ d.nanos then unitText (d.nanos / 1000000) (d.nanos % 1000000) 6 "ms"
  else if 1000 ≤ d.nanos then unitText (d.nanos / 1000) (d.nanos % 1000) 3 "µs"
  else s!"{d.nanos}ns"

end Duration

/-- What chance and the clock give to one request to sign in. -/
structure Draw where
  now : Instant
  token : Vector UInt8 32
  decoy : Vector UInt8 32
  salt : Vector UInt8 16

/-- What the service works with. -/
structure Service (σ : Type) where
  users : UserStore σ
  hasher : PasswordHasher σ
  sessions : SessionStore σ
  csrfKey : CsrfKey
  ttl : Duration

/-- The decoy, once it is made, and the state of what the service works with. -/
structure Service.State (σ : Type) where
  decoy : Option String
  world : σ

namespace Service

variable {σ : Type}

namespace State

/-- Nothing is made before the first request. -/
def fresh (world : σ) : State σ := ⟨none, world⟩

end State

/-- An attempt on what the service works with. -/
def onWorld {α : Type} (attempt : Attempt σ α) : Attempt (State σ) α :=
  attempt.within State.world fun world state => { state with world }

def keepDecoy (hash : String) : Attempt (State σ) Unit :=
  .of fun state => (.ok (), { state with decoy := some hash })

def keptDecoy : Attempt (State σ) (Option String) := .of fun state => (.ok state.decoy, state)

/-- The decoy, made now if it was not before. -/
def theDecoy (service : Service σ) (draw : Draw) : Attempt (State σ) String := do
  match ← keptDecoy with
  | some hash => return hash
  | none =>
    let hash ← onWorld (service.hasher.hash draw.salt (Hex.encode draw.decoy.toList))
    keepDecoy hash
    return hash

/-- Verifies a password for which there is no user. -/
def verifyDecoy (service : Service σ) (draw : Draw) (password : String) :
    Attempt (State σ) Unit := do
  let hash ← service.theDecoy draw
  let _ ← onWorld (service.hasher.verify password hash)

/-- When a session that begins now ends, if its length is more than nothing and can be counted. -/
def expiry? (ttl : Duration) (now : Instant) : Option Instant :=
  if 0 < ttl.totalNanos ∧ ttl.totalNanos ≤ Duration.largest.totalNanos then now.add? ttl else none

/-- The whole seconds for which a session is kept. -/
def ttlSeconds (ttl : Duration) : Nat := max 1 ttl.seconds

/-- Opens a session. -/
def issue (service : Service σ) (draw : Draw) (credential : Credential) :
    Attempt (State σ) IssuedSession := do
  let token := SessionToken.ofRandom draw.token
  match expiry? service.ttl draw.now with
  | none => .fail (.internal s!"unusable session ttl: {service.ttl.text}")
  | some expiresAt =>
    let session : Session := ⟨credential.userId, credential.username, draw.now, expiresAt⟩
    onWorld (service.sessions.save token session (ttlSeconds service.ttl))
    return ⟨token, service.csrfKey.bind token, credential.userId, credential.username, expiresAt⟩

/-- Checks a username and a password, and opens a session if they belong together. -/
def signIn (service : Service σ) (draw : Draw) (login : Login) :
    Attempt (State σ) SignInAnswer := do
  match ← onWorld (service.users.find login.username) with
  | none =>
    service.verifyDecoy draw login.password
    return .rejected .invalid
  | some credential =>
    let isRight ← onWorld (service.hasher.verify login.password credential.passwordHash)
    if isRight ∧ credential.isActive then
      return .authenticated (← service.issue draw credential)
    else return .rejected .invalid

/-- Tells whose session it is. A session that is over is removed when it is asked for. -/
def whoIs (service : Service σ) (now : Instant) (token : SessionToken) :
    Attempt (State σ) SessionInfo := do
  match ← onWorld (service.sessions.find token) with
  | none => .fail .invalidSession
  | some session =>
    if session.IsExpiredAt now then
      let _ ← onWorld (service.sessions.revoke token)
      .fail .invalidSession
    else return session.info

/-- Tells whose session it is if the CSRF token is the one of the session. -/
def authorize (service : Service σ) (now : Instant) (token : SessionToken) (csrf : CsrfToken) :
    Attempt (State σ) SessionInfo := do
  let info ← service.whoIs now token
  if service.csrfKey.verify token csrf then return info else .fail .csrfMismatch

/-- Ends a session. -/
def signOut (service : Service σ) (now : Instant) (token : SessionToken) (csrf : CsrfToken) :
    Attempt (State σ) Unit := do
  let _ ← service.authorize now token csrf
  let _ ← onWorld (service.sessions.revoke token)

end Service

end SignIn
