import Mathlib.Tactic.SplitIfs
import SignIn.Proofs.Calls

/-!
# Calls that are recorded

A record changes nothing: what is recorded is answered and left as if it were not. The record shows
that a fault is never passed over: if any call that was made is at fault, that fault is the answer
(`perform_recorded`).
-/

namespace SignIn

open Attempt

namespace Service

variable {σ α β : Type} {faults : Call → Option AuthError}

/-- Recorded, an attempt gives and leaves the same, and a fault of any call that it made is what it
gives. -/
def Stops (faults : Call → Option AuthError) (attempt : Attempt (State σ) α)
    (recorded : Attempt (State (σ × List Call)) α) : Prop :=
  ∀ s calls, ∃ made,
    recorded.perform ⟨s.decoy, s.world, calls⟩ =
        ((attempt.perform s).1,
          ⟨(attempt.perform s).2.decoy, (attempt.perform s).2.world, calls ++ made⟩) ∧
      ∀ call ∈ made, ∀ error, faults call = some error → (attempt.perform s).1 = .error error

namespace Stops

/-- An attempt that makes no call. -/
theorem uncalled {attempt : Attempt (State σ) α} {recorded : Attempt (State (σ × List Call)) α}
    (h : ∀ s calls, recorded.perform ⟨s.decoy, s.world, calls⟩ =
      ((attempt.perform s).1, ⟨(attempt.perform s).2.decoy, (attempt.perform s).2.world, calls⟩)) :
    Stops faults attempt recorded :=
  fun s calls =>
    ⟨[], by rw [h s calls, List.append_nil], fun _ none => absurd none List.not_mem_nil⟩

theorem pure (a : α) :
    Stops faults (Pure.pure a : Attempt (State σ) α)
      (Pure.pure a : Attempt (State (σ × List Call)) α) :=
  uncalled fun _ _ => rfl

theorem fail (error : AuthError) :
    Stops faults (Attempt.fail error : Attempt (State σ) α)
      (Attempt.fail error : Attempt (State (σ × List Call)) α) :=
  uncalled fun _ _ => rfl

/-- One call, unless it is at fault. -/
theorem call (call : Call) (attempt : Attempt σ α) :
    Stops faults (onWorld (.orFault (faults call) attempt))
      (onWorld (.logging call (.orFault (faults call) attempt))) := by
  intro s calls
  refine ⟨[call], rfl, fun made hm error fault => ?_⟩
  rw [List.mem_singleton.1 hm] at fault
  rw [fault]
  rfl

/-- What is made first and meets a fault ends the whole, and nothing is made after it. -/
theorem bind {attempt : Attempt (State σ) α} {recorded : Attempt (State (σ × List Call)) α}
    {next : α → Attempt (State σ) β} {nextRecorded : α → Attempt (State (σ × List Call)) β}
    (h : Stops faults attempt recorded) (hn : ∀ a, Stops faults (next a) (nextRecorded a)) :
    Stops faults (attempt >>= next) (recorded >>= nextRecorded) := by
  intro s calls
  obtain ⟨made, eq, stops⟩ := h s calls
  rw [perform_bind, perform_bind, eq]
  generalize attempt.perform s = given at stops
  rcases given with ⟨error | a, s'⟩
  · refine ⟨made, rfl, fun call hc fault hf => ?_⟩
    cases stops call hc fault hf
    rfl
  · obtain ⟨more, eq', stops'⟩ := hn a s' (calls ++ made)
    refine ⟨made ++ more, ?_, fun call hc error fault => ?_⟩
    · simp only [eq', List.append_assoc]
    · rcases List.mem_append.1 hc with hc | hc
      · cases stops call hc error fault
      · exact stops' call hc error fault

end Stops

variable (service : Service σ)

theorem stops_verifyDecoy (draw : Draw) (password : String) :
    Stops faults ((service.interrupted faults).verifyDecoy draw password)
      ((service.interrupted faults).recorded.verifyDecoy draw password) := by
  unfold verifyDecoy theDecoy
  refine .bind (.bind (.uncalled fun _ _ => rfl) fun kept => ?_) fun hash => ?_
  · rcases kept with _ | hash
    · refine .bind (.call (.hash _) _) fun hash => ?_
      exact .bind (.uncalled fun _ _ => rfl) fun _ => .pure hash
    · exact .pure hash
  · exact .bind (.call (.verify password hash) _) fun _ => .pure ()

theorem stops_issue (draw : Draw) (credential : Credential) :
    Stops faults ((service.interrupted faults).issue draw credential)
      ((service.interrupted faults).recorded.issue draw credential) := by
  have ttl : (service.interrupted faults).ttl = service.ttl := rfl
  have ttlRecorded : (service.interrupted faults).recorded.ttl = service.ttl := rfl
  unfold issue
  simp only [ttl, ttlRecorded]
  rcases expiry? service.ttl draw.now with _ | expiresAt
  · exact .fail _
  · exact .bind (.call (.save _ _ _) _) fun _ => .pure _

theorem stops_signIn (draw : Draw) (login : Login) :
    Stops faults ((service.interrupted faults).signIn draw login)
      ((service.interrupted faults).recorded.signIn draw login) := by
  unfold signIn
  refine .bind (.call (.findUser login.username) _) fun found => ?_
  rcases found with _ | credential
  · exact .bind (service.stops_verifyDecoy draw login.password) fun _ => .pure _
  · refine .bind (.call (.verify login.password credential.passwordHash) _) fun isRight => ?_
    split_ifs
    · exact .bind (service.stops_issue draw credential) fun issued => .pure _
    · exact .pure _

theorem stops_whoIs (now : Instant) (token : SessionToken) :
    Stops faults ((service.interrupted faults).whoIs now token)
      ((service.interrupted faults).recorded.whoIs now token) := by
  unfold whoIs
  refine .bind (.call (.find token) _) fun found => ?_
  rcases found with _ | session
  · exact .fail _
  · dsimp only
    split_ifs
    · exact .bind (.call (.revoke token) _) fun _ => .fail _
    · exact .pure _

theorem stops_authorize (now : Instant) (token : SessionToken) (csrf : CsrfToken) :
    Stops faults ((service.interrupted faults).authorize now token csrf)
      ((service.interrupted faults).recorded.authorize now token csrf) := by
  unfold authorize
  refine .bind (service.stops_whoIs now token) fun info => ?_
  change Stops faults (if service.csrfKey.verify token csrf = true then _ else _)
    (if service.csrfKey.verify token csrf = true then _ else _)
  split_ifs
  · exact .pure info
  · exact .fail _

theorem stops_signOut (now : Instant) (token : SessionToken) (csrf : CsrfToken) :
    Stops faults ((service.interrupted faults).signOut now token csrf)
      ((service.interrupted faults).recorded.signOut now token csrf) := by
  unfold signOut
  exact .bind (service.stops_authorize now token csrf) fun _ =>
    .bind (.call (.revoke token) _) fun _ => .pure ()

/-- Whatever the step and the faults: a record changes nothing, and a fault of any call that the
step made is what it answers. -/
theorem perform_recorded (step : Step) :
    Stops faults ((service.interrupted faults).take step)
      ((service.interrupted faults).recorded.take step) := by
  cases step with
  | signIn draw login => exact .bind (service.stops_signIn draw login) fun _ => .pure _
  | whoIs now token => exact .bind (service.stops_whoIs now token) fun _ => .pure _
  | authorize now token csrf =>
    exact .bind (service.stops_authorize now token csrf) fun _ => .pure _
  | signOut now token csrf => exact .bind (service.stops_signOut now token csrf) fun _ => .pure _
  | purge now => exact .bind (.call .purge _) fun _ => .pure _
  | save token session seconds =>
    exact .bind (.call (.save token session seconds) _) fun _ => .pure _
  | find token => exact .bind (.call (.find token) _) fun _ => .pure _
  | revoke token => exact .bind (.call (.revoke token) _) fun _ => .pure _

end Service

end SignIn
