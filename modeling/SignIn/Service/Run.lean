import SignIn.Service.Basic

/-!
# Runs of the service

A run is a list of steps, each a call of the service or of its store of sessions. It leaves a
history, the steps with what each of them answered, and a state.
-/

namespace SignIn

namespace Service

variable {σ τ ρ : Type}

/-- The service over a state in two parts: one of users and passwords, and one of sessions. -/
def ofParts (users : UserStore τ) (hasher : PasswordHasher τ) (sessions : SessionStore ρ)
    (csrfKey : CsrfKey) (ttl : Duration) : Service (τ × ρ) where
  users := users.within Prod.fst fun part state => (part, state.2)
  hasher := hasher.within Prod.fst fun part state => (part, state.2)
  sessions := sessions.within Prod.snd fun part state => (state.1, part)
  csrfKey
  ttl

/-- A call of the service, or of its store of sessions. -/
inductive Step
  | signIn (draw : Draw) (login : Login)
  | whoIs (now : Instant) (token : SessionToken)
  | authorize (now : Instant) (token : SessionToken) (csrf : CsrfToken)
  | signOut (now : Instant) (token : SessionToken) (csrf : CsrfToken)
  | purge (now : Instant)
  | save (token : SessionToken) (session : Session) (seconds : Nat)
  | find (token : SessionToken)
  | revoke (token : SessionToken)

/-- What a step answers if there is no fault. -/
inductive Reply
  | signIn (answer : SignInAnswer)
  | info (info : SessionInfo)
  | done
  | purged (count : Nat)
  | found (session : Option Session)
  | revoked (existed : Bool)
  deriving DecidableEq, Repr

namespace Step

/-- The clock reading of a step that reads the clock. -/
def now? : Step → Option Instant
  | signIn draw _ => some draw.now
  | whoIs now _ | authorize now _ _ | signOut now _ _ | purge now => some now
  | save .. | find _ | revoke _ => none

/-- Whether a step saves, finds or revokes a session in the store itself, past the service. -/
def isDirect : Step → Bool
  | save .. | find _ | revoke _ => true
  | signIn .. | whoIs .. | authorize .. | signOut .. | purge _ => false

def isPurge : Step → Bool
  | purge _ => true
  | _ => false

end Step

/-- What became of a step. -/
abbrev Event : Type := Step × Except AuthError Reply

/-- Takes one step. -/
def take (service : Service σ) : Step → Attempt (State σ) Reply
  | .signIn draw login => return .signIn (← service.signIn draw login)
  | .whoIs now token => return .info (← service.whoIs now token)
  | .authorize now token csrf => return .info (← service.authorize now token csrf)
  | .signOut now token csrf => do service.signOut now token csrf; return .done
  | .purge now => return .purged (← onWorld (service.sessions.purge now))
  | .save token session seconds => do
    onWorld (service.sessions.save token session seconds)
    return .done
  | .find token => return .found (← onWorld (service.sessions.find token))
  | .revoke token => return .revoked (← onWorld (service.sessions.revoke token))

/-- Takes steps one after the other, whatever each of them answers. -/
def run (service : Service σ) : List Step → State σ → List Event × State σ
  | [], state => ([], state)
  | step :: steps, state =>
    let (reply, state) := (service.take step).perform state
    let (history, state) := run service steps state
    ((step, reply) :: history, state)

end Service

end SignIn
