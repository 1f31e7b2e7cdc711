import SignIn.Proofs.KeptSessions
import SignIn.Proofs.TwoStores

/-!
# Who may act for a session

Over either store, and as long as no call fails, a token stands for the session that is kept under
it until that is over, and the CSRF token only matters if there is such a session
(`authorize_decides`). To ask leaves the store as it is, but for a session that is over and goes
(`Registry.asked`). To sign out is decided like this as well and takes the session away; from then
on the token stands for nothing, whatever is done and whichever calls fail, until a session is saved
under it again (`run_shows_none`).
-/

namespace SignIn

open Attempt

namespace Registry

/-- The session under a token, unless it is over. -/
def current? (registry : Registry) (now : Instant) (token : SessionToken) : Option Session :=
  (registry.get? token).filter fun session => ¬session.IsExpiredAt now

/-- What is left once a token was asked for: its session goes if it is over. -/
def asked (registry : Registry) (now : Instant) (token : SessionToken) : Registry :=
  match registry.get? token with
  | some session => if session.IsExpiredAt now then registry.erase token else registry
  | none => registry

variable {registry : Registry} {now : Instant} {token : SessionToken} {session : Session}

theorem current?_eq_some : registry.current? now token = some session ↔
    registry.get? token = some session ∧ ¬session.IsExpiredAt now := by
  simp [current?, Option.filter_eq_some_iff]

theorem current?_eq_none : registry.current? now token = none ↔
    ∀ session, registry.get? token = some session → session.IsExpiredAt now := by
  simp [current?, Option.filter_eq_none_iff]

theorem asked_of_current (h : registry.current? now token = some session) :
    registry.asked now token = registry := by
  obtain ⟨found, live⟩ := current?_eq_some.1 h
  rw [asked, found]
  exact if_neg live

theorem asked_of_expired (found : registry.get? token = some session)
    (expired : session.IsExpiredAt now) : registry.asked now token = registry.erase token := by
  rw [asked, found]
  exact if_pos expired

end Registry

namespace SessionBackend

/-- A store that keeps the sessions of a registry and nothing else: the registry itself, or a text for
each of them that reads as the session. -/
def Holds [Causes] (name : String) (registry : Registry) : SessionBackend → Prop
  | memory kept => kept = registry
  | keyServer server => server.Mirrors name registry

variable [Causes] {name : String} {registry : Registry} {sessions : SessionBackend}

theorem Holds.shows (h : sessions.Holds name registry) (token : SessionToken) :
    sessions.Shows name token (registry.get? token) := by
  rcases sessions with kept | server
  · exact congrArg (Table.get? · token) h
  · exact ⟨KeyServer.Mirrors.unforced h, KeyServer.Mirrors.reads h token⟩

theorem find_holds (h : sessions.Holds name registry) (token : SessionToken) :
    ∃ after, ((store name).find token).perform sessions = (.ok (registry.get? token), after) ∧
      after.Holds name registry := by
  refine ⟨(((store name).find token).perform sessions).2, ?_, ?_⟩
  · exact Prod.ext (find_shows (h.shows token)) rfl
  · rcases sessions with kept | server
    · exact h
    · exact ((KeyServer.store_agree name).find token h).2

theorem revoke_holds (h : sessions.Holds name registry) (token : SessionToken) :
    ∃ after, ((store name).revoke token).perform sessions =
        (.ok (registry.get? token).isSome, after) ∧ after.Holds name (registry.erase token) := by
  rcases sessions with kept | server
  · cases h
    exact ⟨.memory (registry.erase token), rfl, rfl⟩
  · obtain ⟨answer, mirrors⟩ := (KeyServer.store_agree name).revoke token h
    refine ⟨.keyServer (((KeyServer.store name).revoke token).perform server).2, ?_, mirrors⟩
    exact Prod.ext answer rfl

theorem purge_keeps {token : SessionToken} (now : Instant) :
    ((store name).purge now).Preserves (Shows name token none) := by
  rintro (kept | server) h
  · have gone : kept.get? token = none := h
    change (kept.live now).get? token = none
    rw [Registry.get?_live, gone]
    rfl
  · exact h

theorem Shows.isUnforced {token : SessionToken} {found : Option Session}
    (h : sessions.Shows name token found) : sessions.IsUnforced := by
  rcases sessions with kept | server
  · trivial
  · exact h.1

end SessionBackend

namespace Service

open SessionBackend

/-- The token under which an event put a session into the store. -/
def Event.saved? : Event → Option SessionToken
  | (.save token _ _, .ok _) => some token
  | event => event.issued?.map (·.session)

/-- What is told to who asks for a session with a CSRF token. -/
def permitted (csrfKey : CsrfKey) (token : SessionToken) (csrf : CsrfToken) :
    Option Session → Except AuthError SessionInfo
  | none => .error .invalidSession
  | some session => if csrfKey.verify token csrf then .ok session.info else .error .csrfMismatch

section Decisions

variable [Causes] {τ : Type} {users : UserStore τ} {hasher : PasswordHasher τ} {name : String}
  {csrfKey : CsrfKey} {ttl : Duration} {decoy : Option String} {world : τ}
  {sessions : SessionBackend} {registry : Registry} {now : Instant} {token : SessionToken}
  {csrf : CsrfToken}

section Calls

variable (h : sessions.Holds name registry)

include h

theorem whoIs_holds :
    ∃ after, ((ofBackend users hasher name csrfKey ttl).whoIs now token).perform
        ⟨decoy, world, sessions⟩ =
          (told none (registry.current? now token), ⟨decoy, world, after⟩) ∧
      after.Holds name (registry.asked now token) := by
  obtain ⟨found, asked, held⟩ := find_holds h token
  rw [perform_whoIs]
  simp only [ofBackend, ofParts, SessionStore.within, perform_within, asked]
  rcases under : registry.get? token with _ | session
  · refine ⟨found, ?_, ?_⟩
    · rw [Registry.current?, under]
      rfl
    · rwa [Registry.asked, under]
  dsimp only
  by_cases expired : session.IsExpiredAt now
  · obtain ⟨after, revoked, left⟩ := revoke_holds held token
    refine ⟨after, ?_, ?_⟩
    · have none : registry.current? now token = none := by
        refine Registry.current?_eq_none.2 fun other same => ?_
        exact Option.some.inj (under.symm.trans same) ▸ expired
      rw [if_pos expired, none, revoked]
      rfl
    · rwa [Registry.asked_of_expired under expired]
  · have current : registry.current? now token = some session :=
      Registry.current?_eq_some.2 ⟨under, expired⟩
    refine ⟨found, ?_, ?_⟩
    · rw [if_neg expired, current]
      rfl
    · rwa [Registry.asked_of_current current]

theorem authorize_holds :
    ∃ after, ((ofBackend users hasher name csrfKey ttl).authorize now token csrf).perform
        ⟨decoy, world, sessions⟩ =
          (permitted csrfKey token csrf (registry.current? now token), ⟨decoy, world, after⟩) ∧
      after.Holds name (registry.asked now token) := by
  obtain ⟨after, asked, held⟩ : ∃ after, ((ofBackend users hasher name csrfKey ttl).whoIs now
      token).perform ⟨decoy, world, sessions⟩ = _ ∧ _ := whoIs_holds h
  refine ⟨after, ?_, held⟩
  rw [perform_authorize, asked]
  rcases registry.current? now token with _ | session <;> rfl

theorem signOut_holds :
    ∃ after, ((ofBackend users hasher name csrfKey ttl).signOut now token csrf).perform
        ⟨decoy, world, sessions⟩ =
          ((permitted csrfKey token csrf (registry.current? now token)).map fun _ => (),
            ⟨decoy, world, after⟩) ∧
      match permitted csrfKey token csrf (registry.current? now token) with
      | .ok _ => after.Holds name (registry.erase token)
      | .error _ => after.Holds name (registry.asked now token) := by
  obtain ⟨found, asked, held⟩ : ∃ after, ((ofBackend users hasher name csrfKey ttl).authorize now
      token csrf).perform ⟨decoy, world, sessions⟩ = _ ∧ _ := authorize_holds h
  rw [perform_signOut, asked]
  rcases current : registry.current? now token with _ | session
  · exact ⟨found, rfl, held⟩
  by_cases bound : csrfKey.verify token csrf = true
  · have granted : permitted csrfKey token csrf (some session) = .ok session.info := if_pos bound
    rw [Registry.asked_of_current current] at held
    obtain ⟨after, revoked, left⟩ := revoke_holds held token
    simp only [granted, ofBackend, ofParts, SessionStore.within, perform_within, revoked]
    exact ⟨after, rfl, left⟩
  · have refused : permitted csrfKey token csrf (some session) = .error .csrfMismatch :=
      if_neg bound
    rw [refused]
    exact ⟨found, rfl, held⟩

theorem authorize_bound {session : Session}
    (current : registry.current? now token = some session) :
    (((ofBackend users hasher name csrfKey ttl).authorize now token (csrfKey.bind token)).perform
      ⟨decoy, world, sessions⟩).1 = .ok session.info := by
  obtain ⟨after, asked, -⟩ : ∃ after, ((ofBackend users hasher name csrfKey ttl).authorize now
      token (csrfKey.bind token)).perform ⟨decoy, world, sessions⟩ = _ ∧ _ := authorize_holds h
  rw [asked, current]
  exact if_pos (csrfKey.verify_bind token)

end Calls

section Gone

variable {faults : Call → Option AuthError} {s : State (τ × SessionBackend)}

theorem refused_of_shows_none (h : s.world.2.Shows name token none) (now : Instant)
    (csrf : CsrfToken) :
    let service := ofBackend users hasher name csrfKey ttl
    ((service.whoIs now token).perform s).1 = .error .invalidSession ∧
      ((service.authorize now token csrf).perform s).1 = .error .invalidSession ∧
      ((service.signOut now token csrf).perform s).1 = .error .invalidSession := by
  intro service
  obtain ⟨after, asked, -⟩ : ∃ after,
      ((inBackend users hasher name csrfKey ttl fun _ => none).whoIs now token).perform s =
        (.error .invalidSession, ⟨s.decoy, s.world.1, after⟩) ∧ after.Shows name token none :=
    whoIs_shown h fun _ kept => nomatch kept
  change (service.whoIs now token).perform s = _ at asked
  rw [perform_signOut, perform_authorize, asked]
  exact ⟨rfl, rfl, rfl⟩

theorem signIn_shows_none (h : s.world.2.Shows name token none) {draw : Draw} {login : Login}
    {result : Except AuthError SignInAnswer} {s' : State (τ × SessionBackend)}
    (call : ((inBackend users hasher name csrfKey ttl faults).signIn draw login).perform s =
      (result, s'))
    (unsaved : ∀ issued, result = .ok (.authenticated issued) → issued.session ≠ token) :
    s'.world.2.Shows name token none := by
  -- A sign-in that draws this very token and is refused must not have saved under it.
  by_cases drawn : token = .ofRandom draw.token
  · have refused : ∀ issued, result ≠ .ok (.authenticated issued) := by
      rintro issued rfl
      obtain ⟨same, -⟩ := signIn_shows h.isUnforced call
      exact unsaved issued rfl (same.trans drawn.symm)
    rwa [signIn_unopened h.isUnforced call refused]
  · exact (keeps_signIn login drawn).eq call h

/-- A step gives a token a session only by saving one. -/
theorem take_shows_none (h : s.world.2.Shows name token none) (step : Step)
    (unsaved : Event.saved? (step, (((inBackend users hasher name csrfKey ttl faults).take
      step).perform s).1) ≠ some token) :
    (((inBackend users hasher name csrfKey ttl faults).take
      step).perform s).2.world.2.Shows name token none := by
  cases step with
  | signIn draw login =>
    rw [take, perform_bind_pure] at unsaved ⊢
    rcases call : ((inBackend users hasher name csrfKey ttl faults).signIn draw login).perform s
      with ⟨result, s'⟩
    rw [call] at unsaved
    refine signIn_shows_none h call fun issued granted same => unsaved ?_
    rw [granted]
    exact congrArg some same
  | whoIs now other => exact Preserves.bind (keeps_whoIs (.inl rfl)) (fun _ => .pure _) s h
  | authorize now other csrf =>
    exact Preserves.bind (keeps_authorize (.inl rfl)) (fun _ => .pure _) s h
  | signOut now other csrf =>
    exact Preserves.bind (keeps_signOut (.inl rfl)) (fun _ => .pure _) s h
  | purge now =>
    exact Preserves.bind (preserves_onSessions (purge_keeps now) _) (fun _ => .pure _) s h
  | save other session seconds =>
    by_cases same : token = other
    · subst same
      rw [take, perform_bind_pure, perform_onWorld] at unsaved ⊢
      rcases save_cases h.isUnforced session seconds with ⟨error, refused⟩ | ⟨after, saved, -⟩
      · rwa [refused]
      · rw [saved] at unsaved
        exact absurd rfl unsaved
    · exact Preserves.bind (preserves_onSessions (save_keeps same session seconds) _)
        (fun _ => .pure _) s h
  | find other =>
    exact Preserves.bind (preserves_onSessions (find_keeps other) _) (fun _ => .pure _) s h
  | revoke other =>
    exact Preserves.bind (preserves_onSessions (revoke_keeps (.inl rfl)) _) (fun _ => .pure _) s h

theorem run_shows_none (steps : List Step) (h : s.world.2.Shows name token none)
    (unsaved : ∀ event ∈ ((inBackend users hasher name csrfKey ttl faults).run steps s).1,
      event.saved? ≠ some token) :
    ((inBackend users hasher name csrfKey ttl faults).run steps s).2.world.2.Shows
      name token none := by
  induction steps generalizing s with
  | nil => exact h
  | cons step steps ih =>
    obtain ⟨first, rest⟩ := List.forall_mem_cons.1 unsaved
    exact ih (take_shows_none h step first) rest

end Gone

/-- If no call fails, a session that is not kept under the token or is over is invalid, whatever the
CSRF token; otherwise the CSRF token decides alone. Nothing changes, but for a session that is over
and goes. A sign-out is decided alike and takes away the session if it is granted, and no more than
to ask does if it is not. After a wrong CSRF token the right one still serves. After a granted
sign-out the session is invalid for every call, at any time and whatever happens in between, as long
as nothing is saved under the token. -/
theorem authorize_decides (users : UserStore τ) (hasher : PasswordHasher τ) (name : String)
    (csrfKey : CsrfKey) (ttl : Duration) (decoy : Option String) (world : τ)
    (sessions : SessionBackend) (registry : Registry) (now : Instant) (token : SessionToken)
    (csrf : CsrfToken) (h : sessions.Holds name registry) :
    let service := ofBackend users hasher name csrfKey ttl
    let asked := (service.authorize now token csrf).perform ⟨decoy, world, sessions⟩
    let ended := (service.signOut now token csrf).perform ⟨decoy, world, sessions⟩
    let isBound := Hex.decode csrf.text = some (Hmac.code csrfKey.bytes (Utf8.encode token.text))
    (asked.1 = .error .invalidSession ↔
        ∀ session, registry.get? token = some session → session.IsExpiredAt now) ∧
      (∀ session, registry.get? token = some session → ¬session.IsExpiredAt now →
        asked.1 = if isBound then .ok session.info else .error .csrfMismatch) ∧
      (∃ after, asked.2 = ⟨decoy, world, after⟩ ∧ after.Holds name (registry.asked now token)) ∧
      ended.1 = asked.1.map (fun _ => ()) ∧
      (∃ after, ended.2 = ⟨decoy, world, after⟩ ∧
        (ended.1 = .ok () → after.Holds name (registry.erase token)) ∧
        (ended.1 ≠ .ok () → after.Holds name (registry.asked now token))) ∧
      (asked.1 = .error .csrfMismatch → ∀ s ∈ [asked.2, ended.2],
        ∃ session, registry.get? token = some session ∧
          ((service.authorize now token (csrfKey.bind token)).perform s).1 = .ok session.info) ∧
      (ended.1 = .ok () → ∀ faults steps,
        let run := (service.interrupted faults).run steps ended.2
        (∀ event ∈ run.1, event.saved? ≠ some token) → ∀ later presented,
          ((service.whoIs later token).perform run.2).1 = .error .invalidSession ∧
            ((service.authorize later token presented).perform run.2).1 =
              .error .invalidSession ∧
            ((service.signOut later token presented).perform run.2).1 =
              .error .invalidSession) := by
  intro service asked ended isBound
  obtain ⟨left, askedEq, held⟩ : ∃ after, asked =
    (permitted csrfKey token csrf (registry.current? now token), ⟨decoy, world, after⟩) ∧ _ :=
      authorize_holds h
  obtain ⟨after, endedEq, kept⟩ : ∃ after, ended = ((permitted csrfKey token csrf
    (registry.current? now token)).map fun _ => (), ⟨decoy, world, after⟩) ∧ _ := signOut_holds h
  have bound : isBound ↔ csrfKey.verify token csrf = true := decide_eq_true_iff.symm
  rw [askedEq, endedEq]
  -- The session decides first, and the CSRF token only where there is one that is not expired.
  rcases current : registry.current? now token with _ | session <;> rw [current] at kept
  · have expired := Registry.current?_eq_none.1 current
    refine ⟨iff_of_true rfl expired, fun session found live => absurd (expired session found) live,
      ⟨left, rfl, held⟩, rfl, ⟨after, rfl, nofun, fun _ => kept⟩, nofun, nofun⟩
  obtain ⟨found, live⟩ := Registry.current?_eq_some.1 current
  have notOver : ¬∀ session, registry.get? token = some session → session.IsExpiredAt now :=
    fun expired => live (expired session found)
  rw [Registry.asked_of_current current] at held ⊢
  by_cases verified : csrfKey.verify token csrf = true
  · have granted : permitted csrfKey token csrf (some session) = .ok session.info :=
      if_pos verified
    rw [granted] at kept ⊢
    have gone : after.Shows name token none := by
      simpa [Table.get?_erase] using kept.shows token
    refine ⟨iff_of_false nofun notOver, ?_, ⟨left, rfl, held⟩, rfl,
      ⟨after, rfl, fun _ => kept, fun refused => absurd rfl refused⟩, nofun, ?_⟩
    · intro other same _
      cases found.symm.trans same
      exact (if_pos (bound.2 verified)).symm
    · intro _ faults steps run unsaved later presented
      exact refused_of_shows_none (run_shows_none steps gone unsaved) later presented
  · have refused : permitted csrfKey token csrf (some session) = .error .csrfMismatch :=
      if_neg verified
    rw [refused] at kept ⊢
    rw [Registry.asked_of_current current] at kept
    refine ⟨iff_of_false nofun notOver, ?_, ⟨left, rfl, held⟩, rfl,
      ⟨after, rfl, nofun, fun _ => kept⟩, fun _ s hs => ⟨session, found, ?_⟩, nofun⟩
    · intro other same _
      cases found.symm.trans same
      exact (if_neg fun right => verified (bound.1 right)).symm
    · rcases List.mem_pair.1 hs with rfl | rfl
      · exact authorize_bound held current
      · exact authorize_bound kept current

end Decisions

section Sample

attribute [local instance] Causes.plain

/-- A session in a key server. -/
def keptSession : Session := ⟨⟨.replicate 16 7⟩, "alice", sampleMoment 0, sampleMoment 10⟩

def keptServer : KeyServer :=
  ⟨Table.empty.put (KeyServer.key "s" ⟨"t"⟩) keptSession.stored, none, []⟩

def keptService : Service (Roster × SessionBackend) :=
  ofBackend Roster.store (plainHasher Roster) "s" ⟨[]⟩ (.ofSeconds 10)

def keptStart : State (Roster × SessionBackend) :=
  ⟨none, .ofCredentials [sampleUser], .keyServer keptServer⟩

/-- The right CSRF token serves before the end of its session and not from then on, and a wrong one
does not serve. A session that is saved under another token does not bring back one that was signed
out. -/
theorem authorize_decides_keyServer :
    SessionBackend.Holds "s" (.put .empty ⟨"t"⟩ keptSession) (.keyServer keptServer) ∧
      ((keptService.authorize (sampleMoment 9) ⟨"t"⟩ (CsrfKey.bind ⟨[]⟩ ⟨"t"⟩)).perform
        keptStart).1 = .ok keptSession.info ∧
      ((keptService.authorize (sampleMoment 9) ⟨"t"⟩ ⟨"x"⟩).perform keptStart).1 =
        .error .csrfMismatch ∧
      ((keptService.authorize (sampleMoment 10) ⟨"t"⟩ (CsrfKey.bind ⟨[]⟩ ⟨"t"⟩)).perform
        keptStart).1 = .error .invalidSession ∧
      ((keptService.whoIs (sampleMoment 9) ⟨"t"⟩).perform
        ((keptService.interrupted fun _ => none).run [.save ⟨"u"⟩ keptSession 10]
          ((keptService.signOut (sampleMoment 9) ⟨"t"⟩ (CsrfKey.bind ⟨[]⟩ ⟨"t"⟩)).perform
            keptStart).2).2).1 = .error .invalidSession := by
  have holds : SessionBackend.Holds "s" (.put .empty ⟨"t"⟩ keptSession) (.keyServer keptServer) :=
    KeyServer.mirrors_empty.put ⟨"t"⟩ (KeyServer.readSession_stored keptSession) []
  have decides := fun now csrf => authorize_decides Roster.store (plainHasher Roster) "s" ⟨[]⟩
    (.ofSeconds 10) none (.ofCredentials [sampleUser]) (.keyServer keptServer)
    (.put .empty ⟨"t"⟩ keptSession) now ⟨"t"⟩ csrf holds
  have found : (Table.empty.put (⟨"t"⟩ : SessionToken) keptSession).get? ⟨"t"⟩ =
    some keptSession := rfl
  obtain ⟨-, granted, -, alike, -, -, last⟩ := decides (sampleMoment 9) (CsrfKey.bind ⟨[]⟩ ⟨"t"⟩)
  obtain ⟨-, refused, -⟩ := decides (sampleMoment 9) ⟨"x"⟩
  obtain ⟨expired, -⟩ := decides (sampleMoment 10) (CsrfKey.bind ⟨[]⟩ ⟨"t"⟩)
  have live : ¬keptSession.IsExpiredAt (sampleMoment 9) := by decide
  have first := (granted keptSession found live).trans (if_pos (Hex.decode_encode _))
  have out := alike.trans (congrArg (Except.map fun _ => ()) first)
  refine ⟨holds, first, (refused keptSession found live).trans (if_neg (by decide)), expired.2 ?_,
    (last out (fun _ => none) [.save ⟨"u"⟩ keptSession 10] ?_ (sampleMoment 9) ⟨"x"⟩).1⟩
  · intro session same
    cases found.symm.trans same
    decide
  · rintro ⟨step, reply⟩ mem
    obtain rfl : step = .save ⟨"u"⟩ keptSession 10 := List.mem_singleton.1 (mem_of_mem_run mem)
    rcases reply with error | reply
    · exact nofun
    · change some (⟨"u"⟩ : SessionToken) ≠ some ⟨"t"⟩
      decide

end Sample

end Service

end SignIn
