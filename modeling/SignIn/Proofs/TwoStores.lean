import SignIn.Proofs.Agreement
import SignIn.Proofs.History
import SignIn.Proofs.StoredSession

/-!
# Sessions in a key server and in memory

Over a key server, every run without a purge has the history that it has over a registry in which
each session is kept as its stored form has it, and the keys in the server are those of the tokens
in the registry (`runsAlike_carried`). As long as only proper sessions are saved, that is the
registry itself: the service cannot tell the two stores apart (`run_keyServer`).

At every moment the text under the key of a token reads as the session in the registry, and there is
no other text (`KeyServer.Mirrors`). Different tokens have different keys, so the three commands keep
this and are answered alike.
-/

namespace SignIn

/-- The registry as a store that keeps sessions as their stored forms have them. -/
def Registry.carryingStore : SessionStore Registry :=
  { Registry.store with
    save := fun token session seconds => Registry.store.save token session.carried seconds }

namespace KeyServer

variable [Causes] {name : String} {server : KeyServer} {registry : Registry} {token : SessionToken}

/-- A server that answers commands by carrying them out, and has the sessions of a registry. -/
structure Mirrors (name : String) (server : KeyServer) (registry : Registry) : Prop where
  unforced : server.forced = none
  reads : ∀ token, server.ReadsAs name token (registry.get? token)
  keys : ∀ k ∈ server.values.keys, ∃ token, k = key name token

theorem mirrors_empty : Mirrors name .empty .empty where
  unforced := rfl
  reads _ := rfl
  keys k h := by cases h

theorem Mirrors.mem_keys (h : Mirrors name server registry) {k : String} :
    k ∈ server.values.keys ↔ ∃ token ∈ registry.keys, k = key name token := by
  constructor
  · intro hk
    obtain ⟨token, rfl⟩ := h.keys k hk
    rw [Table.mem_keys_iff, (h.reads token).isSome_eq, ← Table.mem_keys_iff] at hk
    exact ⟨token, hk, rfl⟩
  · rintro ⟨token, ht, rfl⟩
    rw [Table.mem_keys_iff, (h.reads token).isSome_eq, ← Table.mem_keys_iff]
    exact ht

theorem Mirrors.put (h : Mirrors name server registry) (token : SessionToken) {text : String}
    {session : Session} (read : readSession text = .ok (some session)) (received : List Command) :
    Mirrors name ⟨server.values.put (key name token) text, none, received⟩
      (registry.put token session) where
  unforced := rfl
  reads other := by
    rw [Table.get?_put]
    split
    · rename_i same
      exact same ▸ readsAs_put_self.2 read
    · rename_i ne
      exact (readsAs_put_of_ne ne).2 (h.reads other)
  keys k hk := by
    rw [Table.mem_keys_iff, Table.get?_put] at hk
    split at hk
    · exact ⟨token, by assumption⟩
    · exact h.keys k ((Table.mem_keys_iff _ _).2 hk)

theorem Mirrors.erase (h : Mirrors name server registry) (token : SessionToken)
    (received : List Command) :
    Mirrors name ⟨server.values.erase (key name token), none, received⟩
      (registry.erase token) where
  unforced := rfl
  reads other := by
    rw [Table.get?_erase]
    split
    · rename_i same
      exact same ▸ readsAs_erase_self
    · rename_i ne
      exact (readsAs_erase_of_ne ne).2 (h.reads other)
  keys k hk := by
    rw [Table.mem_keys_iff, Table.get?_erase] at hk
    split at hk
    · cases hk
    · exact h.keys k ((Table.mem_keys_iff _ _).2 hk)

/-- The same answers to the three commands as from the registry. -/
theorem store_agree (name : String) :
    SessionStore.Agree (Mirrors name) (store name) Registry.carryingStore where
  save token session seconds server registry h := by
    rw [perform_save h.unforced]
    exact ⟨rfl, h.put token (readSession_stored session) _⟩
  find token server registry h := by
    rw [perform_find h.unforced]
    exact ⟨h.reads token, rfl, h.reads, h.keys⟩
  revoke token server registry h := by
    rw [perform_revoke h.unforced, (h.reads token).isSome_eq]
    exact ⟨rfl, h.erase token _⟩

end KeyServer

namespace Service

/-- An event that saves a session only with moments that are written as they are. A sign-in that is
granted saves one that begins when it read the clock. -/
def Event.IsProper (event : Event) : Prop :=
  match event.1 with
  | .save _ session _ => session.IsProper
  | .signIn draw _ => event.issued?.isSome → draw.now.IsProper
  | _ => True

instance : DecidablePred Event.IsProper
  | (.save _ session _, _) => inferInstanceAs (Decidable session.IsProper)
  | (.signIn draw _, _) => inferInstanceAs (Decidable (_ → draw.now.IsProper))
  | (.whoIs .., _) | (.authorize .., _) | (.signOut .., _) | (.purge _, _) | (.find _, _) |
    (.revoke _, _) => inferInstanceAs (Decidable True)

variable {τ : Type} {users : UserStore τ} {hasher : PasswordHasher τ} {csrfKey : CsrfKey}
  {ttl : Duration}

theorem isProper_of_expiry? {now expiresAt : Instant} (proper : now.IsProper)
    (h : expiry? ttl now = some expiresAt) : expiresAt.IsProper := by
  unfold expiry? at h
  split at h
  · exact Instant.isProper_of_add? proper h
  · cases h

/-- A registry takes every session, so where none is opened none is saved. -/
theorem issue_carrying {draw : Draw} {credential : Credential} {s : State (τ × Registry)}
    (proper : ∀ issued, (((ofParts users hasher Registry.store csrfKey ttl).issue draw
      credential).perform s).1 = .ok issued → draw.now.IsProper) :
    ((ofParts users hasher Registry.carryingStore csrfKey ttl).issue draw credential).perform s =
      ((ofParts users hasher Registry.store csrfKey ttl).issue draw credential).perform s := by
  have length (sessions : SessionStore Registry) :
      (ofParts users hasher sessions csrfKey ttl).ttl = ttl := rfl
  rw [perform_issue, length] at proper
  rw [perform_issue, perform_issue, length, length]
  rcases ends : expiry? ttl draw.now with _ | expiresAt <;> simp only [ends] at proper
  · rfl
  have now : draw.now.IsProper := proper _ rfl
  have session : (⟨credential.userId, credential.username, draw.now, expiresAt⟩ :
      Session).IsProper := ⟨now, isProper_of_expiry? now ends⟩
  have same := Session.carried_eq_iff.2 session
  simp only [ofParts, SessionStore.within, Registry.carryingStore, same]

theorem signIn_carrying {draw : Draw} {login : Login} {s : State (τ × Registry)}
    (proper : ∀ issued, (((ofParts users hasher Registry.store csrfKey ttl).signIn draw
      login).perform s).1 = .ok (.authenticated issued) → draw.now.IsProper) :
    ((ofParts users hasher Registry.carryingStore csrfKey ttl).signIn draw login).perform s =
      ((ofParts users hasher Registry.store csrfKey ttl).signIn draw login).perform s := by
  let kept := ofParts users hasher Registry.store csrfKey ttl
  -- Up to the issue, a sign-in does not look at the store of sessions.
  have find : (ofParts users hasher Registry.carryingStore csrfKey ttl).users = kept.users := rfl
  have check : (ofParts users hasher Registry.carryingStore csrfKey ttl).hasher = kept.hasher := rfl
  have decoy : (ofParts users hasher Registry.carryingStore csrfKey ttl).verifyDecoy draw
      login.password = kept.verifyDecoy draw login.password := rfl
  change ∀ issued, ((kept.signIn draw login).perform s).1 = _ → _ at proper
  change _ = (kept.signIn draw login).perform s
  rw [perform_signIn] at proper
  rw [perform_signIn, perform_signIn, find, check, decoy]
  rcases hf : (kept.users.find login.username).perform s.world with ⟨_ | _ | credential, found⟩
  · rfl
  · rfl
  simp only [hf] at proper ⊢
  rcases hv : (kept.hasher.verify login.password credential.passwordHash).perform found with
    ⟨_ | isRight, verified⟩
  · rfl
  simp only [hv] at proper ⊢
  split
  · rename_i granted
    rw [if_pos granted] at proper
    rw [issue_carrying fun issued opened => proper issued ?_]
    rcases given : (kept.issue draw credential).perform ⟨s.decoy, verified⟩ with ⟨_ | same, after⟩
    · cases opened.symm.trans (congrArg Prod.fst given)
    · cases opened.symm.trans (congrArg Prod.fst given)
      rfl
  · rfl

theorem take_carrying {step : Step} {s : State (τ × Registry)}
    (proper : Event.IsProper
      (step, (((ofParts users hasher Registry.store csrfKey ttl).take step).perform s).1)) :
    ((ofParts users hasher Registry.carryingStore csrfKey ttl).take step).perform s =
      ((ofParts users hasher Registry.store csrfKey ttl).take step).perform s := by
  cases step with
  | signIn draw login =>
    rw [take, take, Attempt.perform_bind_pure, Attempt.perform_bind_pure]
    rw [take, Attempt.perform_bind_pure] at proper
    rw [signIn_carrying fun issued granted => ?_]
    rw [granted] at proper
    exact proper rfl
  | save token session seconds =>
    have same := Session.carried_eq_iff.2 proper
    simp only [take, ofParts, SessionStore.within, Registry.carryingStore, same]
  | whoIs | authorize | signOut | purge | find | revoke => rfl

/-- Proper sessions are kept as they are. -/
theorem run_carrying {steps : List Step} {s : State (τ × Registry)}
    (proper : ∀ event ∈ ((ofParts users hasher Registry.store csrfKey ttl).run steps s).1,
      event.IsProper) :
    (ofParts users hasher Registry.carryingStore csrfKey ttl).run steps s =
      (ofParts users hasher Registry.store csrfKey ttl).run steps s := by
  induction steps generalizing s with
  | nil => rfl
  | cons step steps ih =>
    let kept := ofParts users hasher Registry.store csrfKey ttl
    have rest : ∀ event ∈ (kept.run steps ((kept.take step).perform s).2).1, event.IsProper :=
      fun event later => proper event (List.mem_cons_of_mem _ later)
    rw [run, run, take_carrying (proper _ List.mem_cons_self)]
    dsimp only
    rw [ih rest]

/-- Two runs have the same history, and the keys in the server are those of the tokens in the
registry. -/
structure RunsAlike (name : String) (server : List Event × State (τ × KeyServer))
    (memory : List Event × State (τ × Registry)) : Prop where
  history : server.1 = memory.1
  keys : ∀ key, key ∈ server.2.world.2.values.keys ↔
    ∃ token ∈ memory.2.world.2.keys, key = KeyServer.key name token

theorem runsAlike_carried [Causes] (name : String) (decoy : Option String) (world : τ)
    {steps : List Step} (hsteps : ∀ step ∈ steps, step.isPurge = false) :
    RunsAlike name
      ((ofParts users hasher (KeyServer.store name) csrfKey ttl).run steps ⟨decoy, world, .empty⟩)
      ((ofParts users hasher Registry.carryingStore csrfKey ttl).run steps
        ⟨decoy, world, .empty⟩) := by
  obtain ⟨history, -, -, mirrors⟩ := agree_run (KeyServer.store_agree name) hsteps
    (show StatesMatch (KeyServer.Mirrors name) ⟨decoy, world, .empty⟩ ⟨decoy, world, .empty⟩ from
      ⟨rfl, rfl, KeyServer.mirrors_empty⟩)
  exact ⟨history, fun key => mirrors.mem_keys⟩

/-- A run without a purge that starts without sessions has the same history over a key server as over
a registry that keeps sessions as their stored forms have them, and the keys in the server are then
those of the tokens in the registry. If none but proper sessions are saved, it has the same history
as over a registry that keeps them as they are, and the keys are those of the tokens in that. -/
theorem run_keyServer [Causes] (users : UserStore τ) (hasher : PasswordHasher τ) (name : String)
    (csrfKey : CsrfKey) (ttl : Duration) (decoy : Option String) (world : τ) (steps : List Step)
    (hsteps : ∀ step ∈ steps, step.isPurge = false) :
    let server := (ofParts users hasher (KeyServer.store name) csrfKey ttl).run steps
      ⟨decoy, world, .empty⟩
    let carried := (ofParts users hasher Registry.carryingStore csrfKey ttl).run steps
      ⟨decoy, world, .empty⟩
    let memory := (ofParts users hasher Registry.store csrfKey ttl).run steps
      ⟨decoy, world, .empty⟩
    RunsAlike name server carried ∧
      ((∀ event ∈ memory.1, event.IsProper) → RunsAlike name server memory) := by
  intro server carried memory
  have alike : RunsAlike name server carried := runsAlike_carried name decoy world hsteps
  refine ⟨alike, fun proper => ?_⟩
  have same : carried = memory := run_carrying proper
  rwa [same] at alike

section Sample

attribute [local instance] Causes.plain

/-- The first second of the year 10000 and nine digits of a fraction. -/
def farMoment : Instant := ⟨253402300800, 123456789, by omega, by omega, by omega⟩

/-- A session of a user whose name has a quotation mark, a line break and a letter of two bytes. -/
def oddSession (expiresAt : Instant) : Session :=
  ⟨⟨.replicate 16 7⟩, "é\x22\n", sampleMoment 0, expiresAt⟩

/-- Nanoseconds past 10⁹ early in a minute. -/
def overfullMoment : Instant := ⟨7, 1444444444, by omega, by omega, by omega⟩

/-- A session is put in place of another, found, and asked for once it is over. A stranger who comes
at the moment past 10⁹ is given none. -/
def oddSteps : List Step :=
  [.save ⟨"a:b"⟩ (oddSession (sampleMoment 5)) 0, .save ⟨"a:b"⟩ (oddSession farMoment) 0,
    .find ⟨"a:b"⟩, .signIn (sampleDraw 0 1) ⟨"alice", "secret"⟩,
    .signIn { sampleDraw 0 2 with now := overfullMoment } ⟨"mallory", "secret"⟩,
    .whoIs farMoment ⟨"a:b"⟩, .revoke ⟨"a:b"⟩]

theorem run_keyServer_odd :
    (∀ step ∈ oddSteps, step.isPurge = false) ∧
      (∀ event ∈ ((ofParts Roster.store (plainHasher Roster) Registry.store ⟨[]⟩
        (.ofSeconds 10)).run oddSteps ⟨none, .ofCredentials [sampleUser], .empty⟩).1,
          event.IsProper) ∧
      let server := (ofParts Roster.store (plainHasher Roster) (KeyServer.store "s:") ⟨[]⟩
        (.ofSeconds 10)).run oddSteps ⟨none, .ofCredentials [sampleUser], .empty⟩
      server.1.map Prod.snd = [.ok .done, .ok .done, .ok (.found (some (oddSession farMoment))),
        .ok (.signIn (.authenticated (sampleIssued 1 10))), .ok (.signIn (.rejected .invalid)),
        .error .invalidSession, .ok (.revoked false)] ∧
      ∀ key, key ∈ server.2.world.2.values.keys ↔
        key = KeyServer.key "s:" (sampleIssued 1 10).session := by
  have hsteps : ∀ step ∈ oddSteps, step.isPurge = false := by decide
  have proper : ∀ event ∈ ((ofParts Roster.store (plainHasher Roster) Registry.store ⟨[]⟩
      (.ofSeconds 10)).run oddSteps ⟨none, .ofCredentials [sampleUser], .empty⟩).1,
        event.IsProper := by
    decide +kernel
  obtain ⟨-, alike⟩ := run_keyServer Roster.store (plainHasher Roster) "s:" ⟨[]⟩
    (.ofSeconds 10) none (.ofCredentials [sampleUser]) oddSteps hsteps
  obtain ⟨history, keys⟩ := alike proper
  refine ⟨hsteps, proper, ?_, fun key => ?_⟩
  · rw [history]
    rfl
  · rw [keys]
    have tokens : ((ofParts Roster.store (plainHasher Roster) Registry.store ⟨[]⟩
        (.ofSeconds 10)).run oddSteps ⟨none, .ofCredentials [sampleUser], .empty⟩).2.world.2.keys =
        [(sampleIssued 1 10).session] := by rfl
    rw [tokens]
    simp

/-- A session that ends at that moment is asked for in the next second, and a session that begins at
that moment is found. -/
def overfullSteps : List Step :=
  [.save ⟨"t"⟩ (oddSession overfullMoment) 10, .whoIs (sampleMoment 8) ⟨"t"⟩,
    .signIn { sampleDraw 0 1 with now := overfullMoment } ⟨"alice", "secret"⟩,
    .find (sampleIssued 1 10).session]

/-- In memory the first session is over and the second began at that moment. In a key server the first
is not over, and the second began in the next second. -/
theorem run_keyServer_overfull :
    let answers := fun {ρ : Type} (sessions : SessionStore ρ) (start : ρ) =>
      ((ofParts Roster.store (plainHasher Roster) sessions ⟨[]⟩ (.ofSeconds 10)).run overfullSteps
        ⟨none, .ofCredentials [sampleUser], start⟩).1.map Prod.snd
    let later : Instant := ⟨8, 444444444, by omega, by omega, by omega⟩
    let issued : IssuedSession := { sampleIssued 1 10 with
      expiresAt := ⟨17, 444444444, by omega, by omega, by omega⟩ }
    answers Registry.store .empty = [.ok .done, .error .invalidSession,
        .ok (.signIn (.authenticated issued)),
        .ok (.found (some ⟨issued.userId, "alice", overfullMoment, issued.expiresAt⟩))] ∧
      answers (KeyServer.store "s") .empty = [.ok .done, .ok (.info (oddSession later).info),
        .ok (.signIn (.authenticated issued)),
        .ok (.found (some ⟨issued.userId, "alice", later, issued.expiresAt⟩))] := by
  intro answers later issued
  have hsteps : ∀ step ∈ overfullSteps, step.isPurge = false := by decide
  refine ⟨rfl, ?_⟩
  have server : answers (KeyServer.store "s") .empty = answers Registry.carryingStore .empty :=
    congrArg (List.map Prod.snd) (runsAlike_carried "s" none _ hsteps).history
  rw [server]
  rfl

end Sample

end Service

end SignIn
