import SignIn.Proofs.Calls
import SignIn.Proofs.History
import SignIn.Proofs.StoredSession
import SignIn.Service.World

/-!
# Who is given a session

If no call fails, a session is handed out exactly to who gives the name and the password of an
active user, as long as a session has a length that can be used. One entry is put into the store of
sessions then, and otherwise none (`signIn_iff`). This holds for any users, any hasher, either store
of sessions with any content, and whether or not the decoy was made before.
-/

namespace SignIn

namespace SessionBackend

/-- Commands to a key server are carried out. -/
def IsUnforced : SessionBackend → Prop
  | memory _ => True
  | keyServer server => server.forced = none

/-- One store is another one with a session under a token and no other difference. In a key server
it is the stored form of the session under the key of the token. -/
def Gains (name : String) (token : SessionToken) (session : Session) :
    SessionBackend → SessionBackend → Prop
  | memory registry, memory after =>
    ∀ other, after.get? other = if other = token then some session else registry.get? other
  | keyServer server, keyServer after =>
    ∀ key, after.values.get? key =
      if key = KeyServer.key name token then some session.stored else server.values.get? key
  | _, _ => False

variable [Causes] {sessions : SessionBackend}

theorem save_gains (name : String) (unforced : sessions.IsUnforced) (token : SessionToken)
    (session : Session) (seconds : Nat) :
    ∃ after, ((store name).save token session seconds).perform sessions = (.ok (), after) ∧
      Gains name token session sessions after := by
  rcases sessions with registry | server
  · exact ⟨.memory (registry.put token session), rfl, registry.get?_put token session⟩
  · refine ⟨.keyServer ⟨server.values.put (KeyServer.key name token) session.stored, none,
      .setFor (KeyServer.key name token) seconds session.stored :: server.received⟩, ?_,
      server.values.get?_put (KeyServer.key name token) session.stored⟩
    simp only [store, either, Attempt.perform_of]
    rw [KeyServer.perform_save unforced]

end SessionBackend

namespace Service

variable {τ : Type}

/-- The service over users of any kind and either store of sessions. -/
def ofBackend [Causes] (users : UserStore τ) (hasher : PasswordHasher τ) (name : String)
    (csrfKey : CsrfKey) (ttl : Duration) : Service (τ × SessionBackend) :=
  ofParts users hasher (SessionBackend.store name) csrfKey ttl

/-- The fault of a service whose sessions have a length that cannot be used. -/
def unusableTtl (ttl : Duration) : AuthError := .internal s!"unusable session ttl: {ttl.text}"

section Outcomes

variable [Causes] {users : UserStore τ} {hasher : PasswordHasher τ} {name : String}
  {csrfKey : CsrfKey} {ttl : Duration} {draw : Draw} {login : Login} {decoy : Option String}
  {world world' : τ} {sessions : SessionBackend} {credential : Credential}

theorem perform_findUser {username : String} {found : Option Credential}
    (hfind : (users.find username).perform world = (.ok found, world')) :
    ((ofBackend users hasher name csrfKey ttl).users.find username).perform (world, sessions) =
      (.ok found, world', sessions) := by
  simp [ofBackend, ofParts, UserStore.within, hfind]

theorem perform_verify {password hash : String} {isRight : Bool}
    (hverify : ((hasher.verify password hash).perform world').1 = .ok isRight) :
    ((ofBackend users hasher name csrfKey ttl).hasher.verify password hash).perform
        (world', sessions) =
      (.ok isRight, ((hasher.verify password hash).perform world').2, sessions) := by
  simp [ofBackend, ofParts, PasswordHasher.within, hverify]

/-- A name for which nothing is found is refused. -/
theorem signIn_unknown
    (hfind : (users.find login.username).perform world = (.ok none, world'))
    (hdecoy : hasher.AnswersDecoy draw login.password world' decoy) :
    ∃ s, ((ofBackend users hasher name csrfKey ttl).signIn draw login).perform
        ⟨decoy, world, sessions⟩ = (.ok (.rejected .invalid), s) ∧ s.world.2 = sessions := by
  have keeps : ((ofBackend users hasher name csrfKey ttl).verifyDecoy draw login.password).Keeps
      fun s => s.world.2 :=
    (keeps_verifyDecoy draw login.password : (((ofParts users hasher (SessionBackend.store name)
      csrfKey ttl).interrupted fun _ => none).verifyDecoy draw login.password).Keeps _)
  have answers : (((ofBackend users hasher name csrfKey ttl).verifyDecoy draw
      login.password).perform ⟨decoy, world', sessions⟩).1 = .ok () :=
    verifyDecoy_answers _ _ (hdecoy.within fun _ _ => rfl)
  rcases hd : ((ofBackend users hasher name csrfKey ttl).verifyDecoy draw login.password).perform
    ⟨decoy, world', sessions⟩ with ⟨result, s⟩
  have kept := keeps.eq hd
  rw [hd] at answers
  dsimp only at answers
  subst answers
  refine ⟨s, ?_, kept⟩
  rw [perform_signIn, perform_findUser hfind]
  dsimp only
  rw [hd]

variable (hfind : (users.find login.username).perform world = (.ok (some credential), world'))
  {isRight : Bool}
  (hverify : ((hasher.verify login.password credential.passwordHash).perform world').1 =
    .ok isRight)

include hfind hverify

/-- After the user is found and the password verified, a session is opened or not. -/
theorem signIn_known :
    ((ofBackend users hasher name csrfKey ttl).signIn draw login).perform ⟨decoy, world, sessions⟩ =
      let world := ((hasher.verify login.password credential.passwordHash).perform world').2
      if isRight ∧ credential.isActive then
        match ((ofBackend users hasher name csrfKey ttl).issue draw credential).perform
          ⟨decoy, world, sessions⟩ with
        | (.error error, s) => (.error error, s)
        | (.ok issued, s) => (.ok (.authenticated issued), s)
      else (.ok (.rejected .invalid), ⟨decoy, world, sessions⟩) := by
  rw [perform_signIn, perform_findUser hfind]
  dsimp only
  rw [perform_verify hverify]
  dsimp only
  by_cases granted : isRight ∧ credential.isActive
  · rw [if_pos granted, if_pos granted]
    rcases ((ofBackend users hasher name csrfKey ttl).issue draw credential).perform _ with
      ⟨_ | issued, s⟩ <;> rfl
  · rw [if_neg granted, if_neg granted]

theorem signIn_refused (refused : ¬(isRight ∧ credential.isActive)) :
    ∃ s, ((ofBackend users hasher name csrfKey ttl).signIn draw login).perform
        ⟨decoy, world, sessions⟩ = (.ok (.rejected .invalid), s) ∧ s.world.2 = sessions := by
  rw [signIn_known hfind hverify]
  dsimp only
  rw [if_neg refused]
  exact ⟨_, rfl, rfl⟩

theorem signIn_unusable (granted : isRight ∧ credential.isActive)
    (unusable : expiry? ttl draw.now = none) :
    ∃ s, ((ofBackend users hasher name csrfKey ttl).signIn draw login).perform
        ⟨decoy, world, sessions⟩ = (.error (unusableTtl ttl), s) ∧ s.world.2 = sessions := by
  rw [signIn_known hfind hverify]
  dsimp only
  rw [if_pos granted, perform_issue]
  simp only [ofBackend, ofParts, unusable]
  exact ⟨_, rfl, rfl⟩

theorem signIn_granted (hsessions : sessions.IsUnforced) (granted : isRight ∧ credential.isActive)
    {expiresAt : Instant} (usable : expiry? ttl draw.now = some expiresAt) :
    ∃ s, ((ofBackend users hasher name csrfKey ttl).signIn draw login).perform
        ⟨decoy, world, sessions⟩ =
          (.ok (.authenticated ⟨.ofRandom draw.token, csrfKey.bind (.ofRandom draw.token),
            credential.userId, credential.username, expiresAt⟩), s) ∧
      sessions.Gains name (.ofRandom draw.token)
        ⟨credential.userId, credential.username, draw.now, expiresAt⟩ s.world.2 := by
  obtain ⟨after, saved, gains⟩ := SessionBackend.save_gains name hsessions
    (.ofRandom draw.token) ⟨credential.userId, credential.username, draw.now, expiresAt⟩
    (ttlSeconds ttl)
  rw [signIn_known hfind hverify]
  dsimp only
  rw [if_pos granted, perform_issue]
  simp only [ofBackend, ofParts, usable, SessionStore.within, Attempt.perform_within, saved]
  exact ⟨_, rfl, gains⟩

end Outcomes

/-- If no call fails, a session is handed out exactly if there is an active user with the name, the
password belongs to the user's hash, and the length of sessions can be used. Who is refused has the
wrong name or password or is not active, and the length of sessions is all that can go wrong
otherwise. The store gains the session that is handed out, and is left as it is if none is. -/
theorem signIn_iff [Causes] (users : UserStore τ) (hasher : PasswordHasher τ) (name : String)
    (csrfKey : CsrfKey) (ttl : Duration) (draw : Draw) (login : Login) (decoy : Option String)
    (world world' : τ) (sessions : SessionBackend) (found : Option Credential) (isRight : Bool)
    (hsessions : sessions.IsUnforced)
    (hfind : (users.find login.username).perform world = (.ok found, world'))
    (hverify : ∀ credential, found = some credential →
      ((hasher.verify login.password credential.passwordHash).perform world').1 = .ok isRight)
    (hdecoy : found = none → hasher.AnswersDecoy draw login.password world' decoy) :
    let result := ((ofBackend users hasher name csrfKey ttl).signIn draw login).perform
      ⟨decoy, world, sessions⟩
    ((∃ issued, result.1 = .ok (.authenticated issued)) ↔
        ∃ credential, found = some credential ∧ isRight = true ∧ credential.isActive = true ∧
          (expiry? ttl draw.now).isSome) ∧
      (result.1 = .ok (.rejected .invalid) ↔ found = none ∨
        ∃ credential, found = some credential ∧
          (isRight = false ∨ credential.isActive = false)) ∧
      ((∃ issued, result.1 = .ok (.authenticated issued)) ∨
        result.1 = .ok (.rejected .invalid) ∨
        result.1 = .error (unusableTtl ttl) ∧ expiry? ttl draw.now = none) ∧
      (∀ issued, result.1 = .ok (.authenticated issued) →
        issued.session = .ofRandom draw.token ∧ issued.csrf = csrfKey.bind issued.session ∧
        ∃ credential session, found = some credential ∧ session.userId = credential.userId ∧
          session.username = credential.username ∧ session.expiresAt = issued.expiresAt ∧
          sessions.Gains name issued.session session result.2.world.2) ∧
      ((∀ issued, result.1 ≠ .ok (.authenticated issued)) → result.2.world.2 = sessions) := by
  intro result
  rcases found with _ | credential
  · obtain ⟨s, eq, same⟩ : ∃ s, result = (.ok (.rejected .invalid), s) ∧ s.world.2 = sessions :=
      signIn_unknown hfind (hdecoy rfl)
    simp [eq, same]
  · have hverify' := hverify credential rfl
    by_cases granted : isRight ∧ credential.isActive
    · rcases usable : expiry? ttl draw.now with _ | expiresAt
      · obtain ⟨s, eq, same⟩ : ∃ s, result = (.error (unusableTtl ttl), s) ∧ s.world.2 = sessions :=
          signIn_unusable hfind hverify' granted usable
        simp [eq, same, granted]
      · obtain ⟨s, eq, gains⟩ : ∃ s, result = (.ok (.authenticated _), s) ∧ _ :=
          signIn_granted hfind hverify' hsessions granted usable
        have given : ∀ issued, result.1 = .ok (.authenticated issued) →
            issued = ⟨.ofRandom draw.token, csrfKey.bind (.ofRandom draw.token),
              credential.userId, credential.username, expiresAt⟩ := by
          intro issued h
          simpa [eq] using h.symm
        refine ⟨by simp [eq, granted], by simp [eq, granted], .inl ⟨_, by rw [eq]⟩, ?_, ?_⟩
        · intro issued h
          obtain rfl := given issued h
          refine ⟨rfl, rfl, credential, ⟨credential.userId, credential.username, draw.now, expiresAt⟩,
            rfl, rfl, rfl, rfl, ?_⟩
          rw [eq]
          exact gains
        · exact fun none => absurd (by rw [eq]) (none _)
    · obtain ⟨s, eq, same⟩ : ∃ s, result = (.ok (.rejected .invalid), s) ∧ s.world.2 = sessions :=
        signIn_refused hfind hverify' granted
      have refused : isRight = false ∨ credential.isActive = false := by grind
      refine ⟨?_, ?_, .inr (.inl (by rw [eq])), by simp [eq], fun _ => by rw [eq, same]⟩
      · simp only [eq, Except.ok.injEq, reduceCtorEq, exists_false, false_iff]
        rintro ⟨_, ⟨⟩, right, active, -⟩
        exact granted ⟨right, active⟩
      · simp [eq, refused]

section Sample

attribute [local instance] Causes.plain

/-- An active user with the right password is given a session in a key server, and a stranger is not,
even with a password that belongs to the decoy. -/
theorem signIn_iff_sample :
    SessionBackend.IsUnforced (.keyServer .empty) ∧
      (Roster.store.find "alice").perform (.ofCredentials [sampleUser]) =
        (.ok (some sampleUser), .ofCredentials [sampleUser]) ∧
      ((plainHasher Roster).verify "secret" sampleUser.passwordHash).perform
        (.ofCredentials [sampleUser]) = (.ok true, .ofCredentials [sampleUser]) ∧
      (Roster.store.find "mallory").perform (.ofCredentials [sampleUser]) =
        (.ok none, .ofCredentials [sampleUser]) ∧
      (plainHasher Roster).AnswersDecoy (sampleDraw 0 1) "secret" (.ofCredentials [sampleUser])
        (some "secret") ∧
      let service := ofBackend Roster.store (plainHasher Roster) "s" ⟨[]⟩ (.ofSeconds 10)
      let result := (service.signIn (sampleDraw 0 1) ⟨"alice", "secret"⟩).perform
        ⟨none, .ofCredentials [sampleUser], .keyServer .empty⟩
      let refused := (service.signIn (sampleDraw 0 1) ⟨"mallory", "secret"⟩).perform
        ⟨some "secret", .ofCredentials [sampleUser], .keyServer .empty⟩
      result.1 = .ok (.authenticated (sampleIssued 1 10)) ∧
        (∃ session, session.userId = sampleUser.userId ∧ session.expiresAt = sampleMoment 10 ∧
          SessionBackend.Gains "s" (sampleIssued 1 10).session session (.keyServer .empty)
            result.2.world.2) ∧
        refused.1 = .ok (.rejected .invalid) ∧ refused.2.world.2 = .keyServer .empty := by
  have hfind : (Roster.store.find "alice").perform (.ofCredentials [sampleUser]) =
      (.ok (some sampleUser), .ofCredentials [sampleUser]) := rfl
  have hverify : ((plainHasher Roster).verify "secret" sampleUser.passwordHash).perform
      (.ofCredentials [sampleUser]) = (.ok true, .ofCredentials [sampleUser]) := rfl
  have hnone : (Roster.store.find "mallory").perform (.ofCredentials [sampleUser]) =
      (.ok none, .ofCredentials [sampleUser]) := rfl
  have hdecoy : (plainHasher Roster).AnswersDecoy (sampleDraw 0 1) "secret"
      (.ofCredentials [sampleUser]) (some "secret") := ⟨true, rfl⟩
  obtain ⟨-, -, -, granted, -⟩ := signIn_iff Roster.store (plainHasher Roster) "s" ⟨[]⟩
    (.ofSeconds 10) (sampleDraw 0 1) ⟨"alice", "secret"⟩ none (.ofCredentials [sampleUser])
    (.ofCredentials [sampleUser]) (.keyServer .empty) (some sampleUser) true rfl hfind
    (by rintro _ ⟨⟩; exact congrArg Prod.fst hverify) (by simp)
  obtain ⟨-, rejected, -, -, left⟩ := signIn_iff Roster.store (plainHasher Roster) "s" ⟨[]⟩
    (.ofSeconds 10) (sampleDraw 0 1) ⟨"mallory", "secret"⟩ (some "secret")
    (.ofCredentials [sampleUser]) (.ofCredentials [sampleUser]) (.keyServer .empty) none true rfl
    hnone (by simp) fun _ => hdecoy
  have refused := rejected.2 (.inl rfl)
  refine ⟨rfl, hfind, hverify, hnone, hdecoy, rfl, ?_, refused, left ?_⟩
  · obtain ⟨-, -, credential, session, same, userId, -, ends, gains⟩ :=
      granted (sampleIssued 1 10) rfl
    cases same
    exact ⟨session, userId, ends, gains⟩
  · intro issued opened
    cases refused.symm.trans opened

end Sample

end Service

end SignIn
