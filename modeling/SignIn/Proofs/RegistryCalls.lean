import Mathlib.Tactic.SplitIfs
import SignIn.Proofs.Calls
import SignIn.Service.Run
import SignIn.Session.Registry

/-!
# What a call does to the sessions in memory

Over a registry, whatever the users and the hasher are and whichever calls fail, a session is put in
only by a sign-in that is granted (`signIn_registry`), and a session that is not over is taken out
only by a sign-out that is granted (`signOut_registry`). All else that a call may take out is over
at its clock reading (`Registry.LapsesTo`).
-/

namespace SignIn

namespace Registry

/-- Every session is kept as it is, or it is over and gone. -/
def LapsesTo (before after : Registry) (now : Instant) : Prop :=
  ∀ token, after.get? token = before.get? token ∨
    after.get? token = none ∧ ∃ session, before.get? token = some session ∧ session.IsExpiredAt now

variable {registry : Registry} {now : Instant} {token : SessionToken} {session : Session}

theorem LapsesTo.refl (registry : Registry) (now : Instant) : registry.LapsesTo registry now :=
  fun _ => .inl rfl

theorem lapsesTo_erase (found : registry.get? token = some session)
    (expired : session.IsExpiredAt now) : registry.LapsesTo (registry.erase token) now := by
  intro other
  rw [Table.get?_erase]
  split
  · rename_i h
    subst h
    exact .inr ⟨rfl, session, found, expired⟩
  · exact .inl rfl

theorem lapsesTo_live (registry : Registry) (now : Instant) :
    registry.LapsesTo (registry.live now) now := by
  intro token
  rw [get?_live]
  rcases registry.get? token with _ | session
  · exact .inl rfl
  · by_cases expired : session.IsExpiredAt now
    · exact .inr ⟨by simp [expired], session, rfl, expired⟩
    · exact .inl (by simp [expired])

/-- A session that is not over is still found. -/
theorem LapsesTo.get?_eq {after : Registry} (h : registry.LapsesTo after now)
    (found : registry.get? token = some session) (fresh : ¬session.IsExpiredAt now) :
    after.get? token = some session := by
  rcases h token with same | ⟨-, _, found', expired⟩
  · rw [same, found]
  · rw [found] at found'
    cases found'
    exact absurd expired fresh

end Registry

namespace Service

variable {τ : Type} (users : UserStore τ) (hasher : PasswordHasher τ) (csrfKey : CsrfKey)
  (ttl : Duration) (faults : Call → Option AuthError)

/-- The service over sessions in memory, where some calls may fail. -/
def inMemory : Service (τ × Registry) :=
  (ofParts users hasher Registry.store csrfKey ttl).interrupted faults

theorem inMemory_none :
    inMemory users hasher csrfKey ttl (fun _ => none) =
      ofParts users hasher Registry.store csrfKey ttl := rfl

section Effects

variable {users hasher csrfKey ttl faults} {s s' : State (τ × Registry)} {draw : Draw}
  {login : Login} {now : Instant} {token : SessionToken} {csrf : CsrfToken}

theorem perform_find (world : τ × Registry) :
    ((inMemory users hasher csrfKey ttl faults).sessions.find token).perform world =
      ((faults (.find token)).elim (.ok (world.2.get? token)) .error, world) := by
  simp only [inMemory, interrupted, Attempt.orFault]
  cases faults (.find token) <;> rfl

theorem perform_revoke (world : τ × Registry) :
    ((inMemory users hasher csrfKey ttl faults).sessions.revoke token).perform world =
      (faults (.revoke token)).elim
        (.ok (world.2.get? token).isSome, world.1, world.2.erase token)
        fun error => (.error error, world) := by
  simp only [inMemory, interrupted, Attempt.orFault]
  cases faults (.revoke token) <;> rfl

theorem perform_save {session : Session} {seconds : Nat} (world : τ × Registry) :
    ((inMemory users hasher csrfKey ttl faults).sessions.save token session seconds).perform world =
      (faults (.save token session seconds)).elim (.ok (), world.1, world.2.put token session)
        fun error => (.error error, world) := by
  simp only [inMemory, interrupted, Attempt.orFault]
  cases faults (.save token session seconds) <;> rfl

theorem issue_registry {credential : Credential} {result : Except AuthError IssuedSession}
    (h : ((inMemory users hasher csrfKey ttl faults).issue draw credential).perform s =
      (result, s')) :
    (∃ issued session, result = .ok issued ∧
        issued.session = .ofRandom draw.token ∧ issued.csrf = csrfKey.bind issued.session ∧
        session.info = issued.info ∧ s'.world.2 = s.world.2.put issued.session session) ∨
      (∃ error, result = .error error) ∧ s'.world.2 = s.world.2 := by
  rw [perform_issue] at h
  split at h
  · cases h
    exact .inr ⟨⟨_, rfl⟩, rfl⟩
  · simp only [perform_save] at h
    generalize faults (.save _ _ _) = fault at h
    rcases fault with _ | error <;> cases h
    · exact .inl ⟨_, _, rfl, rfl, rfl, rfl, rfl⟩
    · exact .inr ⟨⟨_, rfl⟩, rfl⟩

/-- A sign-in that is granted puts one session in, and any other changes nothing. -/
theorem signIn_registry {result : Except AuthError SignInAnswer}
    (h : ((inMemory users hasher csrfKey ttl faults).signIn draw login).perform s = (result, s')) :
    (∃ issued session, result = .ok (.authenticated issued) ∧
        issued.session = .ofRandom draw.token ∧ issued.csrf = csrfKey.bind issued.session ∧
        session.info = issued.info ∧ s'.world.2 = s.world.2.put issued.session session) ∨
      (∀ issued, result ≠ .ok (.authenticated issued)) ∧ s'.world.2 = s.world.2 := by
  rw [perform_signIn] at h
  split at h
  · rename_i hu
    cases h
    exact .inr ⟨by simp, (keeps_users _ _).eq hu⟩
  · rename_i hu
    have keptU := (keeps_users _ _).eq hu
    split at h <;> rename_i hd <;> cases h
    · exact .inr ⟨by simp, ((keeps_verifyDecoy _ _).eq hd).trans keptU⟩
    · exact .inr ⟨by simp, ((keeps_verifyDecoy _ _).eq hd).trans keptU⟩
  · rename_i hu
    have keptU := (keeps_users _ _).eq hu
    split at h
    · rename_i hv
      cases h
      exact .inr ⟨by simp, ((keeps_users _ _).eq hv).trans keptU⟩
    · rename_i hv
      have kept := ((keeps_users _ _).eq hv).trans keptU
      -- The sessions are still those of the start, and only `issue` may put one in.
      split_ifs at h
      · rw [← kept]
        split at h <;> rename_i hi <;> cases h <;>
          rcases issue_registry hi with ⟨issued, session, hr, rest⟩ | ⟨⟨error, hr⟩, same⟩ <;>
          cases hr
        · exact .inr ⟨by simp, same⟩
        · exact .inl ⟨_, session, rfl, rest⟩
      · cases h
        exact .inr ⟨by simp, kept⟩

theorem whoIs_registry {result : Except AuthError SessionInfo}
    (h : ((inMemory users hasher csrfKey ttl faults).whoIs now token).perform s = (result, s')) :
    (∃ session, s.world.2.get? token = some session ∧ ¬session.IsExpiredAt now ∧
        result = .ok session.info ∧ s'.world.2 = s.world.2) ∨
      ∃ error, result = .error error ∧ s.world.2.LapsesTo s'.world.2 now := by
  rw [perform_whoIs, perform_find] at h
  rcases hf : faults (.find token) with _ | error <;> simp only [hf, Option.elim] at h
  · rcases found : s.world.2.get? token with _ | session <;> simp only [found] at h
    · cases h
      exact .inr ⟨_, rfl, .refl _ _⟩
    · split_ifs at h with expired
      · rw [perform_revoke] at h
        rcases hr : faults (.revoke token) with _ | error <;> simp only [hr, Option.elim] at h <;>
          cases h
        · exact .inr ⟨_, rfl, Registry.lapsesTo_erase found expired⟩
        · exact .inr ⟨_, rfl, .refl _ _⟩
      · cases h
        exact .inl ⟨session, rfl, expired, rfl, rfl⟩
  · cases h
    exact .inr ⟨_, rfl, .refl _ _⟩

theorem authorize_registry {result : Except AuthError SessionInfo}
    (h : ((inMemory users hasher csrfKey ttl faults).authorize now token csrf).perform s =
      (result, s')) :
    (∃ session, s.world.2.get? token = some session ∧ ¬session.IsExpiredAt now ∧
        csrfKey.verify token csrf ∧ result = .ok session.info ∧ s'.world.2 = s.world.2) ∨
      ∃ error, result = .error error ∧ s.world.2.LapsesTo s'.world.2 now := by
  rw [perform_authorize] at h
  split at h <;> rename_i hw <;> cases h <;>
    rcases whoIs_registry hw with ⟨session, found, fresh, hr, same⟩ | ⟨error, hr, lapse⟩ <;>
    cases hr
  · exact .inr ⟨_, rfl, lapse⟩
  · split_ifs with verified
    · exact .inl ⟨session, found, fresh, verified, rfl, same⟩
    · exact .inr ⟨_, rfl, same ▸ .refl _ _⟩

/-- A sign-out that is granted takes its session out, and the session was not over and the CSRF
token was the one bound to it. -/
theorem signOut_registry {result : Except AuthError Unit}
    (h : ((inMemory users hasher csrfKey ttl faults).signOut now token csrf).perform s =
      (result, s')) :
    (∃ session, s.world.2.get? token = some session ∧ ¬session.IsExpiredAt now ∧
        csrfKey.verify token csrf ∧ result = .ok () ∧ s'.world.2 = s.world.2.erase token) ∨
      ∃ error, result = .error error ∧ s.world.2.LapsesTo s'.world.2 now := by
  rw [perform_signOut] at h
  split at h
  · rename_i ha
    cases h
    rcases authorize_registry ha with ⟨_, _, _, _, hr, _⟩ | ⟨error, -, lapse⟩
    · cases hr
    · exact .inr ⟨_, rfl, lapse⟩
  · rename_i ha
    rcases authorize_registry ha with ⟨session, found, fresh, verified, -, same⟩ | ⟨error, hr, -⟩
    · rw [perform_revoke, same] at h
      rcases hf : faults (.revoke token) with _ | error <;> simp only [hf, Option.elim] at h <;>
        cases h
      · exact .inl ⟨session, found, fresh, verified, rfl, rfl⟩
      · exact .inr ⟨_, rfl, same ▸ .refl _ _⟩
    · cases hr

end Effects

end Service

end SignIn
