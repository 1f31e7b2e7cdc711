import SignIn.Service.Basic

/-!
# Calls to what the service works with

Every call can be recorded, and any call can be made to fail instead of being carried out. A call
that fails is recorded as well.
-/

namespace SignIn

inductive Call
  | findUser (username : String)
  | hash (password : String)
  | verify (password hash : String)
  | save (token : SessionToken) (session : Session) (seconds : Nat)
  | find (token : SessionToken)
  | revoke (token : SessionToken)
  | purge
  deriving DecidableEq, Repr

namespace Attempt

variable {σ α : Type}

/-- The attempt, unless there is a fault. -/
def orFault (fault : Option AuthError) (attempt : Attempt σ α) : Attempt σ α :=
  match fault with
  | some error => .fail error
  | none => attempt

/-- The attempt, with a call added at the end of a record. -/
def logging (call : Call) (attempt : Attempt σ α) : Attempt (σ × List Call) α :=
  .of fun (state, calls) =>
    let (result, state) := attempt.perform state
    (result, state, calls ++ [call])

end Attempt

namespace Service

variable {σ : Type}

/-- The service over calls that fail where a fault is given for them. -/
def interrupted (faults : Call → Option AuthError) (service : Service σ) : Service σ :=
  { service with
    users :=
      { find username := .orFault (faults (.findUser username)) (service.users.find username) }
    hasher :=
      { hash salt password :=
          .orFault (faults (.hash password)) (service.hasher.hash salt password)
        verify password hash :=
          .orFault (faults (.verify password hash)) (service.hasher.verify password hash) }
    sessions :=
      { save token session seconds :=
          .orFault (faults (.save token session seconds))
            (service.sessions.save token session seconds)
        find token := .orFault (faults (.find token)) (service.sessions.find token)
        revoke token := .orFault (faults (.revoke token)) (service.sessions.revoke token)
        purge now := .orFault (faults .purge) (service.sessions.purge now) } }

/-- The service over calls that are recorded in order. -/
def recorded (service : Service σ) : Service (σ × List Call) :=
  { csrfKey := service.csrfKey
    ttl := service.ttl
    users := { find username := .logging (.findUser username) (service.users.find username) }
    hasher :=
      { hash salt password := .logging (.hash password) (service.hasher.hash salt password)
        verify password hash :=
          .logging (.verify password hash) (service.hasher.verify password hash) }
    sessions :=
      { save token session seconds :=
          .logging (.save token session seconds) (service.sessions.save token session seconds)
        find token := .logging (.find token) (service.sessions.find token)
        revoke token := .logging (.revoke token) (service.sessions.revoke token)
        purge now := .logging .purge (service.sessions.purge now) } }

end Service

end SignIn
