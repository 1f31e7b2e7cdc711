import SignIn.Proofs.BackendCalls

/-!
# Sessions that are kept

What either store shows for a token, none or a session, is what it answers when asked
(`SessionBackend.find_shows`), and only a call for that very token changes it. So a session stays
through every call of the service, whichever calls to the stores and the hasher fail, until its
token is drawn again, it is over, or it is signed out (`keeps_signIn`, `keeps_whoIs`,
`keeps_signOut`).
-/

namespace SignIn

open Attempt

namespace Attempt

variable {σ ρ α β : Type} {P : σ → Prop}

/-- Whatever becomes of the attempt, what was true of the state stays true. -/
def Preserves (P : σ → Prop) (attempt : Attempt σ α) : Prop := ∀ s, P s → P (attempt.perform s).2

theorem Preserves.eq {attempt : Attempt σ α} (h : attempt.Preserves P) {s s' : σ}
    {result : Except AuthError α} (hr : attempt.perform s = (result, s')) (hs : P s) : P s' := by
  have := h s hs
  rwa [hr] at this

theorem Preserves.pure (a : α) : Preserves P (Pure.pure a : Attempt σ α) := fun _ h => h

theorem Preserves.fail (error : AuthError) : Preserves P (Attempt.fail error : Attempt σ α) :=
  fun _ h => h

theorem Preserves.bind {attempt : Attempt σ α} {next : α → Attempt σ β}
    (h : attempt.Preserves P) (hn : ∀ a, (next a).Preserves P) :
    (attempt >>= next).Preserves P := by
  intro s hs
  have left := h s hs
  rw [perform_bind]
  generalize attempt.perform s = given at left
  rcases given with ⟨error | a, s'⟩
  · exact left
  · exact hn a s' left

theorem Keeps.preserves {part : σ → ρ} {attempt : Attempt σ α} (h : attempt.Keeps part)
    (P : ρ → Prop) : attempt.Preserves fun s => P (part s) := fun s hs =>
  (congrArg P (h s)).mpr hs

end Attempt

namespace SessionBackend

/-- What a store keeps under a token. A key server carries commands out and has a text that reads as
that. -/
def Shows [Causes] (name : String) (token : SessionToken) (found : Option Session) :
    SessionBackend → Prop
  | memory registry => registry.get? token = found
  | keyServer server => server.forced = none ∧ server.ReadsAs name token found

/-- A session as a store keeps it. -/
def kept (session : Session) : SessionBackend → Session
  | memory _ => session
  | keyServer _ => session.carried

variable [Causes] {name : String} {token other : SessionToken} {found : Option Session}
  {sessions : SessionBackend}

theorem find_shows (h : sessions.Shows name token found) :
    (((store name).find token).perform sessions).1 = .ok found := by
  rcases sessions with registry | server
  · exact congrArg Except.ok h
  · simp only [store, either, perform_of, KeyServer.perform_find h.1]
    exact h.2

theorem find_keeps (asked : SessionToken) :
    ((store name).find asked).Preserves (Shows name token found) := by
  rintro (registry | server) h
  · exact h
  · simp only [store, either, perform_of, KeyServer.perform_find h.1]
    exact ⟨rfl, h.2⟩

theorem save_shows (unforced : sessions.IsUnforced) (session : Session) (seconds : Nat) :
    ∃ after, ((store name).save token session seconds).perform sessions = (.ok (), after) ∧
      after.Shows name token (some (sessions.kept session)) := by
  rcases sessions with registry | server
  · exact ⟨.memory (registry.put token session), rfl, by simp [Shows, kept, Table.get?_put]⟩
  · simp only [store, either, perform_of, KeyServer.perform_save unforced]
    exact ⟨_, rfl, rfl, KeyServer.readsAs_put_self.2 (KeyServer.readSession_stored session)⟩

theorem save_keeps (ne : token ≠ other) (session : Session) (seconds : Nat) :
    ((store name).save other session seconds).Preserves (Shows name token found) := by
  rintro (registry | server) h
  · change (registry.put other session).get? token = found
    rw [Table.get?_put, if_neg ne]
    exact h
  · simp only [store, either, perform_of, KeyServer.perform_save h.1]
    exact ⟨rfl, (KeyServer.readsAs_put_of_ne ne).2 h.2⟩

theorem revoke_shows (h : sessions.Shows name token found) :
    ∃ after, ((store name).revoke token).perform sessions = (.ok found.isSome, after) ∧
      after.Shows name token none := by
  rcases sessions with registry | server
  · cases h
    exact ⟨.memory (registry.erase token), rfl, by simp [Shows, Table.get?_erase]⟩
  · simp only [store, either, perform_of, KeyServer.perform_revoke h.1, h.2.isSome_eq]
    exact ⟨_, rfl, rfl, KeyServer.readsAs_erase_self⟩

/-- To revoke a token changes nothing about another one, or about one that has no session. -/
theorem revoke_keeps (spared : found = none ∨ token ≠ other) :
    ((store name).revoke other).Preserves (Shows name token found) := by
  intro sessions h
  by_cases same : token = other
  · subst same
    obtain rfl : found = none := spared.resolve_right (not_not_intro rfl)
    obtain ⟨after, revoked, gone⟩ := revoke_shows h
    rw [revoked]
    exact gone
  rcases sessions with registry | server
  · change (registry.erase other).get? token = found
    rw [Table.get?_erase, if_neg same]
    exact h
  · simp only [store, either, perform_of, KeyServer.perform_revoke h.1]
    exact ⟨rfl, (KeyServer.readsAs_erase_of_ne same).2 h.2⟩

end SessionBackend

namespace Service

open SessionBackend

section Kept

variable {τ : Type} {users : UserStore τ} {hasher : PasswordHasher τ} {name : String}
  {csrfKey : CsrfKey} {ttl : Duration} {faults : Call → Option AuthError} {draw : Draw}
  {now : Instant} {token other : SessionToken} {csrf : CsrfToken} {found : Option Session}
  {s : State (τ × SessionBackend)}

theorem preserves_onSessions {α : Type} {P : SessionBackend → Prop}
    {attempt : Attempt SessionBackend α} (h : attempt.Preserves P) (fault : Option AuthError) :
    (onWorld (orFault fault (attempt.within Prod.snd fun part (state : τ × SessionBackend) =>
      (state.1, part)))).Preserves fun s => P s.world.2 := by
  intro s hs
  rw [perform_onWorld, perform_onSessions]
  rcases fault with _ | error
  · exact h s.world.2 hs
  · exact hs

/-- What is told to who asks for a token. -/
def told (fault : Option AuthError) (found : Option Session) : Except AuthError SessionInfo :=
  match fault, found with
  | some error, _ => .error error
  | none, some session => .ok session.info
  | none, none => .error .invalidSession

theorem isSome_of_told {fault : Option AuthError} {info : SessionInfo}
    (h : told fault found = .ok info) : found.isSome := by
  rcases fault with _ | error
  · rcases found with _ | session
    · cases h
    · rfl
  · cases h

variable [Causes]

/-- To save a session is refused, or the session is kept. -/
theorem save_cases {world : τ × SessionBackend} (unforced : world.2.IsUnforced) (session : Session)
    (seconds : Nat) :
    (∃ error, ((inBackend users hasher name csrfKey ttl faults).sessions.save token session
        seconds).perform world = (.error error, world)) ∨
      ∃ after, ((inBackend users hasher name csrfKey ttl faults).sessions.save token session
          seconds).perform world = (.ok (), world.1, after) ∧
        after.Shows name token (some (world.2.kept session)) := by
  rw [save_backend]
  rcases faults (.save token session seconds) with _ | error
  · obtain ⟨after, saved, shown⟩ : ∃ after,
        ((store name).save token session seconds).perform world.2 = (.ok (), after) ∧
          after.Shows name token (some (world.2.kept session)) := save_shows unforced session seconds
    simp only [Option.elim, saved]
    exact .inr ⟨after, rfl, shown⟩
  · exact .inl ⟨error, rfl⟩

/-- Whoever is given a session has it kept under its token. -/
theorem signIn_shows (unforced : s.world.2.IsUnforced) {login : Login} {issued : IssuedSession}
    {s' : State (τ × SessionBackend)}
    (call : ((inBackend users hasher name csrfKey ttl faults).signIn draw login).perform s =
      (.ok (.authenticated issued), s')) :
    issued.session = .ofRandom draw.token ∧ issued.csrf = csrfKey.bind (.ofRandom draw.token) ∧
      ∃ session : Session, session.info = issued.info ∧
        expiry? ttl draw.now = some session.expiresAt ∧
        s'.world.2.Shows name (.ofRandom draw.token) (some (s.world.2.kept session)) := by
  obtain ⟨credential, expiresAt, known, verified, lookup, check, -, ends, saved, rfl⟩ :=
    signIn_authenticated _ call
  have same : verified.2 = s.world.2 :=
    ((keeps_users _ _).eq check).trans ((keeps_users _ _).eq lookup)
  refine ⟨rfl, rfl, ⟨credential.userId, credential.username, draw.now, expiresAt⟩, rfl, ends, ?_⟩
  rcases save_cases (same.symm ▸ unforced) _ _ with ⟨error, refused⟩ | ⟨after, kept, shown⟩
  · cases refused.symm.trans saved
  · rw [← (Prod.mk.inj (kept.symm.trans saved)).2, ← same]
    exact shown

theorem issue_refused (unforced : s.world.2.IsUnforced) {credential : Credential}
    {error : AuthError} {s' : State (τ × SessionBackend)}
    (call : ((inBackend users hasher name csrfKey ttl faults).issue draw credential).perform s =
      (.error error, s')) : s'.world.2 = s.world.2 := by
  rw [perform_issue] at call
  split at call
  · cases call
    rfl
  · dsimp only at call
    split at call <;> cases call
    rename_i saved
    rcases save_cases unforced _ _ with ⟨error, refused⟩ | ⟨after, kept, -⟩
    · rw [← (Prod.mk.inj (refused.symm.trans saved)).2]
    · cases kept.symm.trans saved

/-- No session is kept for who is given none. -/
theorem signIn_unopened (unforced : s.world.2.IsUnforced) {login : Login}
    {result : Except AuthError SignInAnswer} {s' : State (τ × SessionBackend)}
    (call : ((inBackend users hasher name csrfKey ttl faults).signIn draw login).perform s =
      (result, s')) (none : ∀ issued, result ≠ .ok (.authenticated issued)) :
    s'.world.2 = s.world.2 := by
  rw [perform_signIn] at call
  split at call <;> rename_i lookup
  · cases call
    exact (keeps_users _ _).eq lookup
  · have known := (keeps_users _ _).eq lookup
    split at call <;> rename_i made <;> cases call <;>
      exact ((keeps_verifyDecoy _ _).eq made).trans known
  have known := (keeps_users _ _).eq lookup
  split at call <;> rename_i check
  · cases call
    exact ((keeps_users _ _).eq check).trans known
  have verified := ((keeps_users _ _).eq check).trans known
  split at call
  · split at call <;> rename_i issue <;> cases call
    · exact (issue_refused (verified.symm ▸ unforced) issue).trans verified
    · exact absurd rfl (none _)
  · cases call
    exact verified

/-- A sign-in changes nothing about a token that it does not draw. -/
theorem keeps_signIn (login : Login) (ne : token ≠ .ofRandom draw.token) :
    ((inBackend users hasher name csrfKey ttl faults).signIn draw login).Preserves
      fun s => s.world.2.Shows name token found := by
  unfold signIn
  refine .bind (Keeps.preserves (Keeps.onWorld (keeps_users _ _)) _) fun known => ?_
  rcases known with _ | credential
  · exact .bind (Keeps.preserves (keeps_verifyDecoy draw login.password) _) fun _ => .pure _
  refine .bind (Keeps.preserves (Keeps.onWorld (keeps_users _ _)) _) fun isRight => ?_
  split
  · refine .bind ?_ fun _ => .pure _
    unfold issue
    dsimp only
    split
    · exact .fail _
    · exact .bind (preserves_onSessions (save_keeps ne _ _) _) fun _ => .pure _
  · exact .pure _

theorem keeps_whoIs (spared : found = none ∨ token ≠ other) :
    ((inBackend users hasher name csrfKey ttl faults).whoIs now other).Preserves
      fun s => s.world.2.Shows name token found := by
  unfold whoIs
  refine .bind (preserves_onSessions (find_keeps other) _) fun asked => ?_
  rcases asked with _ | session
  · exact .fail _
  · dsimp only
    split
    · exact .bind (preserves_onSessions (revoke_keeps spared) _) fun _ => .fail _
    · exact .pure _

theorem keeps_authorize (spared : found = none ∨ token ≠ other) :
    ((inBackend users hasher name csrfKey ttl faults).authorize now other csrf).Preserves
      fun s => s.world.2.Shows name token found := by
  unfold authorize
  refine .bind (keeps_whoIs spared) fun info => ?_
  split
  · exact .pure info
  · exact .fail _

theorem keeps_signOut (spared : found = none ∨ token ≠ other) :
    ((inBackend users hasher name csrfKey ttl faults).signOut now other csrf).Preserves
      fun s => s.world.2.Shows name token found := by
  unfold signOut
  exact .bind (keeps_authorize spared) fun _ =>
    .bind (preserves_onSessions (revoke_keeps spared) _) fun _ => .pure ()

variable (h : s.world.2.Shows name token found)
  (live : ∀ session, found = some session → ¬session.IsExpiredAt now)

include h live

/-- Who asks for a token is told what the store shows for it, and the store still shows it. -/
theorem whoIs_shown :
    ∃ after, ((inBackend users hasher name csrfKey ttl faults).whoIs now token).perform s =
        (told (faults (.find token)) found, ⟨s.decoy, s.world.1, after⟩) ∧
      after.Shows name token found := by
  rw [perform_whoIs, find_backend]
  rcases faults (.find token) with _ | error
  · refine ⟨_, ?_, find_keeps token s.world.2 h⟩
    simp only [Option.elim, find_shows h]
    rcases found with _ | session
    · rfl
    · simp only [if_neg (live session rfl)]
      rfl
  · exact ⟨_, rfl, h⟩

/-- Who asks to sign a token out has to have the other token, and the store shows what it did unless
the call is granted. If no call fails, it is granted for a session that is kept. -/
theorem signOut_shown :
    ∃ result after,
      ((inBackend users hasher name csrfKey ttl faults).signOut now token csrf).perform s =
          (result, ⟨s.decoy, s.world.1, after⟩) ∧
      (result ≠ .ok () → after.Shows name token found) ∧
      (result = .ok () →
        found.isSome ∧ csrfKey.verify token csrf = true ∧ after.Shows name token none) ∧
      (found.isSome → csrfKey.verify token csrf = true → faults (.find token) = none →
        faults (.revoke token) = none → result = .ok ()) := by
  obtain ⟨after, asked, shown⟩ : ∃ after,
      ((inBackend users hasher name csrfKey ttl faults).whoIs now token).perform s =
          (told (faults (.find token)) found, ⟨s.decoy, s.world.1, after⟩) ∧
        after.Shows name token found := whoIs_shown h live
  rw [perform_signOut, perform_authorize, asked]
  rcases answer : told (faults (.find token)) found with error | info
  · refine ⟨.error error, after, rfl, fun _ => shown, nofun, fun kept _ found' _ => ?_⟩
    obtain ⟨session, rfl⟩ := Option.isSome_iff_exists.1 kept
    rw [found'] at answer
    cases answer
  dsimp only
  have key : (inBackend users hasher name csrfKey ttl faults).csrfKey = csrfKey := rfl
  rw [key]
  by_cases verified : csrfKey.verify token csrf = true
  swap
  · rw [if_neg verified]
    exact ⟨_, after, rfl, fun _ => shown, nofun, fun _ right => absurd right verified⟩
  rw [if_pos verified]
  dsimp only
  rw [revoke_backend]
  rcases faults (.revoke token) with _ | error
  · obtain ⟨last, revoked, gone⟩ := SessionBackend.revoke_shows shown
    simp only [Option.elim, revoked]
    refine ⟨_, last, rfl, fun refused => absurd rfl refused, fun _ => ⟨?_, verified, gone⟩,
      fun _ _ _ _ => rfl⟩
    exact isSome_of_told answer
  · exact ⟨_, after, rfl, fun _ => shown, nofun, fun _ _ _ => nofun⟩

end Kept

end Service

end SignIn
