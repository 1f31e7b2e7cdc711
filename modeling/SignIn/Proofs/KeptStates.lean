import SignIn.Proofs.KeptSessions
import SignIn.Service.Run

/-!
# What stays true of a state

What every call to the stores and the hasher keeps true of what the service works with, every run of
the service keeps true, whichever calls fail (`Keeps.run`). Steps other than a sign-in only call the
store of sessions, so for these it is enough that those calls keep it (`SessionsKeep.take`); they
leave the decoy as it is.
-/

namespace SignIn

namespace Attempt

theorem Preserves.orFault {σ α : Type} {P : σ → Prop} {attempt : Attempt σ α}
    (h : attempt.Preserves P) (fault : Option AuthError) : (attempt.orFault fault).Preserves P := by
  rcases fault with _ | error
  · exact h
  · exact .fail error

end Attempt

namespace Service

open Attempt

variable {σ α : Type} {P : σ → Prop} {service : Service σ}

theorem preserves_onWorld {attempt : Attempt σ α} (h : attempt.Preserves P) :
    (onWorld attempt).Preserves fun s => P s.world := fun s hs => h s.world hs

theorem preserves_onWorld_kept {attempt : Attempt σ α} (h : attempt.Preserves P)
    (decoy : Option String) :
    (onWorld attempt).Preserves fun s => s.decoy = decoy ∧ P s.world :=
  fun s hs => ⟨hs.1, h s.world hs.2⟩

/-- No call to the store of sessions makes false what was true. -/
structure SessionsKeep (P : σ → Prop) (service : Service σ) : Prop where
  save : ∀ token session seconds, (service.sessions.save token session seconds).Preserves P
  find : ∀ token, (service.sessions.find token).Preserves P
  revoke : ∀ token, (service.sessions.revoke token).Preserves P
  purge : ∀ now, (service.sessions.purge now).Preserves P

/-- No call at all makes false what was true. -/
structure Keeps (P : σ → Prop) (service : Service σ) : Prop extends SessionsKeep P service where
  findUser : ∀ username, (service.users.find username).Preserves P
  hash : ∀ salt password, (service.hasher.hash salt password).Preserves P
  verify : ∀ password hash, (service.hasher.verify password hash).Preserves P

namespace SessionsKeep

variable (h : SessionsKeep P service) (decoy : Option String) {now : Instant}
  {token : SessionToken} {csrf : CsrfToken}

include h

theorem whoIs :
    (service.whoIs now token).Preserves fun s => s.decoy = decoy ∧ P s.world := by
  unfold Service.whoIs
  refine .bind (preserves_onWorld_kept (h.find token) decoy) fun found => ?_
  rcases found with _ | session
  · exact .fail _
  · dsimp only
    split
    · exact .bind (preserves_onWorld_kept (h.revoke token) decoy) fun _ => .fail _
    · exact .pure _

theorem authorize :
    (service.authorize now token csrf).Preserves fun s => s.decoy = decoy ∧ P s.world := by
  unfold Service.authorize
  refine .bind (h.whoIs decoy) fun info => ?_
  split
  · exact .pure info
  · exact .fail _

theorem signOut :
    (service.signOut now token csrf).Preserves fun s => s.decoy = decoy ∧ P s.world := by
  unfold Service.signOut
  exact .bind (h.authorize decoy) fun _ =>
    .bind (preserves_onWorld_kept (h.revoke token) decoy) fun _ => .pure ()

theorem issue (draw : Draw) (credential : Credential) :
    (service.issue draw credential).Preserves fun s => s.decoy = decoy ∧ P s.world := by
  unfold Service.issue
  dsimp only
  split
  · exact .fail _
  · exact .bind (preserves_onWorld_kept (h.save _ _ _) decoy) fun _ => .pure _

/-- A step that presents no credentials leaves the decoy as it is. -/
theorem take {step : Step} (hstep : ∀ draw login, step ≠ .signIn draw login) :
    (service.take step).Preserves fun s => s.decoy = decoy ∧ P s.world := by
  cases step with
  | signIn draw login => exact absurd rfl (hstep draw login)
  | whoIs => exact .bind (h.whoIs decoy) fun _ => .pure _
  | authorize => exact .bind (h.authorize decoy) fun _ => .pure _
  | signOut => exact .bind (h.signOut decoy) fun _ => .pure _
  | purge now => exact .bind (preserves_onWorld_kept (h.purge now) decoy) fun _ => .pure _
  | save token session seconds =>
    exact .bind (preserves_onWorld_kept (h.save token session seconds) decoy) fun _ => .pure _
  | find token => exact .bind (preserves_onWorld_kept (h.find token) decoy) fun _ => .pure _
  | revoke token => exact .bind (preserves_onWorld_kept (h.revoke token) decoy) fun _ => .pure _

end SessionsKeep

namespace Keeps

theorem interrupted (h : Keeps P service) (faults : Call → Option AuthError) :
    Keeps P (service.interrupted faults) where
  save token session seconds := (h.save token session seconds).orFault _
  find token := (h.find token).orFault _
  revoke token := (h.revoke token).orFault _
  purge now := (h.purge now).orFault _
  findUser username := (h.findUser username).orFault _
  hash salt password := (h.hash salt password).orFault _
  verify password hash := (h.verify password hash).orFault _

variable (h : Keeps P service)

include h

theorem signIn (draw : Draw) (login : Login) :
    (service.signIn draw login).Preserves fun s => P s.world := by
  unfold Service.signIn
  refine .bind (preserves_onWorld (h.findUser login.username)) fun found => ?_
  rcases found with _ | credential
  · unfold verifyDecoy theDecoy
    refine .bind (.bind (.bind (fun _ hs => hs) fun kept => ?_) fun hash => ?_) fun _ => .pure _
    · rcases kept with _ | hash
      · refine .bind (preserves_onWorld (h.hash _ _)) fun _ => ?_
        exact .bind (fun _ hs => hs) fun _ => .pure _
      · exact .pure hash
    · exact .bind (preserves_onWorld (h.verify login.password hash)) fun _ => .pure ()
  refine .bind (preserves_onWorld (h.verify login.password _)) fun isRight => ?_
  split
  · refine .bind (fun s hs => ?_) fun _ => .pure _
    exact (h.toSessionsKeep.issue s.decoy draw _ s ⟨rfl, hs⟩).2
  · exact .pure _

theorem take (step : Step) : (service.take step).Preserves fun s => P s.world := by
  by_cases hstep : ∃ draw login, step = .signIn draw login
  · obtain ⟨draw, login, rfl⟩ := hstep
    exact .bind (h.signIn draw login) fun _ => .pure _
  · intro s hs
    exact (h.toSessionsKeep.take s.decoy (fun draw login same => hstep ⟨draw, login, same⟩) s
      ⟨rfl, hs⟩).2

/-- What every call keeps true, every run keeps true. -/
theorem run : ∀ (steps : List Step) {s : State σ}, P s.world → P (service.run steps s).2.world
  | [], _, hs => hs
  | step :: steps, s, hs => run steps (h.take step s hs)

end Keeps

end Service

end SignIn
