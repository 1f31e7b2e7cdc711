import SignIn.Proofs.Issuing

/-!
# Calls over either store of sessions

What one call gives and leaves where users and sessions are kept apart, in whichever store, and the
call may fail instead of being carried out.
-/

namespace SignIn

open Attempt

namespace Service

variable {τ ρ α : Type}

theorem perform_onUsers (fault : Option AuthError) (attempt : Attempt τ α) (world : τ × ρ) :
    (orFault fault (attempt.within Prod.fst fun part (state : τ × ρ) => (part, state.2))).perform
        world =
      fault.elim ((attempt.perform world.1).1, (attempt.perform world.1).2, world.2)
        fun error => (.error error, world) := by
  cases fault <;> rfl

theorem perform_onSessions (fault : Option AuthError) (attempt : Attempt ρ α) (world : τ × ρ) :
    (orFault fault (attempt.within Prod.snd fun part (state : τ × ρ) => (state.1, part))).perform
        world =
      fault.elim ((attempt.perform world.2).1, world.1, (attempt.perform world.2).2)
        fun error => (.error error, world) := by
  cases fault <;> rfl

section Backend

/-- The service over either store of sessions, where some calls may fail. -/
abbrev inBackend [Causes] (users : UserStore τ) (hasher : PasswordHasher τ) (name : String)
    (csrfKey : CsrfKey) (ttl : Duration) (faults : Call → Option AuthError) :
    Service (τ × SessionBackend) :=
  (ofBackend users hasher name csrfKey ttl).interrupted faults

variable [Causes] {users : UserStore τ} {hasher : PasswordHasher τ} {name : String}
  {csrfKey : CsrfKey} {ttl : Duration} {faults : Call → Option AuthError} {token : SessionToken}

theorem findUser_backend (username : String) (world : τ × SessionBackend) :
    ((inBackend users hasher name csrfKey ttl faults).users.find username).perform world =
      (faults (.findUser username)).elim (((users.find username).perform world.1).1,
          ((users.find username).perform world.1).2, world.2) fun error => (.error error, world) :=
  perform_onUsers _ _ _

theorem verify_backend (password hash : String) (world : τ × SessionBackend) :
    ((inBackend users hasher name csrfKey ttl faults).hasher.verify password hash).perform world =
      (faults (.verify password hash)).elim (((hasher.verify password hash).perform world.1).1,
          ((hasher.verify password hash).perform world.1).2, world.2)
        fun error => (.error error, world) :=
  perform_onUsers _ _ _

theorem find_backend (world : τ × SessionBackend) :
    ((inBackend users hasher name csrfKey ttl faults).sessions.find token).perform world =
      (faults (.find token)).elim ((((SessionBackend.store name).find token).perform world.2).1,
          world.1, (((SessionBackend.store name).find token).perform world.2).2)
        fun error => (.error error, world) :=
  perform_onSessions _ _ _

theorem save_backend (session : Session) (seconds : Nat) (world : τ × SessionBackend) :
    ((inBackend users hasher name csrfKey ttl faults).sessions.save token session seconds).perform
        world =
      (faults (.save token session seconds)).elim
        ((((SessionBackend.store name).save token session seconds).perform world.2).1, world.1,
          (((SessionBackend.store name).save token session seconds).perform world.2).2)
        fun error => (.error error, world) :=
  perform_onSessions _ _ _

theorem revoke_backend (world : τ × SessionBackend) :
    ((inBackend users hasher name csrfKey ttl faults).sessions.revoke token).perform world =
      (faults (.revoke token)).elim
        ((((SessionBackend.store name).revoke token).perform world.2).1, world.1,
          (((SessionBackend.store name).revoke token).perform world.2).2)
        fun error => (.error error, world) :=
  perform_onSessions _ _ _

end Backend

end Service

end SignIn
