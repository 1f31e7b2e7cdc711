import SignIn.Proofs.Seeding

/-!
# What a server needs to start

Settings have to meet four requirements, which are looked at one after the other: the length of
sessions, the cost of hashing, the users and the store of sessions. Each step of the start has what it
gives exactly if its own requirement is met (`Settings.Needs`), and such steps in a row go as far as
the first one that is not (`Settings.Needs.bind`). So of several faults it is always the first in that
order which is told (`Server.start_iff_requirements`).
-/

namespace SignIn

namespace Roster

variable {σ : Type} {hasher : PasswordHasher σ}

theorem hasOneSecret_of_seed {roster left : Roster} {s s' : σ} {users : List (SeedUser × SeedDraw)}
    {count : Nat} (h : seed hasher roster s users = (.ok count, left, s')) :
    ∀ entry ∈ users, entry.1.HasOneSecret := by
  induction users generalizing roster s count with
  | nil => exact fun _ h => nomatch h
  | cons entry users ih =>
    obtain ⟨hash, mid, n, made, later, -⟩ := seed_cons_eq_ok.1 h
    refine List.forall_mem_cons.2 ⟨?_, ih later⟩
    rcases SeedUser.secret_eq_ok.1 made with ⟨none, given, -⟩ | ⟨password, plain, none, -⟩
    · simp [SeedUser.HasOneSecret, none, given]
    · simp [SeedUser.HasOneSecret, plain, none]

theorem find?_of_hasOneSecret {users : List SeedUser} (h : ∀ user ∈ users, user.HasOneSecret) :
    (users.find? fun user => ¬user.HasOneSecret) = none :=
  List.find?_eq_none.2 fun user member => by simpa using h user member

/-- Where hashing never fails, the first user without exactly one secret is all that can stand in the
way. -/
theorem seed_unfailing (hasher : PasswordHasher σ)
    (never : ∀ salt password s error, ((hasher.hash salt password).perform s).1 ≠ .error error)
    (users : List (SeedUser × SeedDraw)) (roster : Roster) (s : σ) :
    (seed hasher roster s users).1 =
      match (users.map Prod.fst).find? fun user => ¬user.HasOneSecret with
      | some user => .error (.needsOneSecret user.username)
      | none => .ok users.length := by
  rcases result : seed hasher roster s users with ⟨error | count, left, s'⟩
  · obtain ⟨before, user, draw, after, mid, rfl, first, refused⟩ := seed_eq_error.1 result
    have good : ∀ user ∈ before.map Prod.fst, user.HasOneSecret :=
      List.forall_mem_map.2 (hasOneSecret_of_seed first)
    rcases SeedUser.secret_eq_error.1 refused with ⟨bad, rfl, -⟩ | ⟨_, fault, -, -, failed, -⟩
    · rw [List.map_append, List.map_cons, List.find?_append, find?_of_hasOneSecret good,
        Option.none_or, List.find?_cons_of_pos (by simpa using bad)]
    · exact absurd (congrArg Prod.fst failed) (never _ _ _ fault)
  · rw [find?_of_hasOneSecret (List.forall_mem_map.2 (hasOneSecret_of_seed result)),
      count_seed result]

end Roster

namespace Settings

/-- What a server needs of its settings. -/
inductive Requirement
  | ttl
  | cost
  | users
  | sessions
  deriving DecidableEq, Repr

namespace Requirement

/-- The order in which a server looks at them. -/
def inOrder : List Requirement := [ttl, cost, users, sessions]

/-- What is needed: a length of sessions within the bounds, a cost that suffices where one is chosen,
with the standard half for one that is not, users in memory with one secret each, and sessions in
memory. -/
def Met (settings : Settings) : Requirement → Prop
  | ttl => 1 ≤ settings.auth.sessionTtlSecs.toNat ∧
      settings.auth.sessionTtlSecs.toNat ≤ maxSessionTtlSecs
  | cost => (settings.auth.memoryKib = none ∧ settings.auth.passes = none) ∨
      (8 ≤ (settings.auth.memoryKib.map UInt32.toNat).getD 19456 ∧
        1 ≤ (settings.auth.passes.map UInt32.toNat).getD 2)
  | users => settings.auth.userBackend = "memory" ∧ ∀ user ∈ settings.users, user.HasOneSecret
  | sessions => settings.auth.sessionBackend = "memory"

instance (settings : Settings) : DecidablePred (Met settings)
  | ttl => inferInstanceAs (Decidable (_ ∧ _))
  | cost => inferInstanceAs (Decidable (_ ∨ _))
  | users => inferInstanceAs (Decidable (_ ∧ _))
  | sessions => inferInstanceAs (Decidable (_ = _))

/-- The fault that tells which requirement is not met, and how. -/
inductive Fails [Causes] (settings : Settings) : Requirement → StartFault → Prop
  | noTime : settings.auth.sessionTtlSecs = 0 → Fails settings ttl (.ttl .zero)
  | tooLong : maxSessionTtlSecs < settings.auth.sessionTtlSecs.toNat →
      Fails settings ttl (.ttl (.tooLong settings.auth.sessionTtlSecs))
  | tooCheap : ¬cost.Met settings →
      Fails settings cost (.cost (.internal s!"argon2 params: {Causes.cost
        ((settings.auth.memoryKib.map UInt32.toNat).getD 19456)
        ((settings.auth.passes.map UInt32.toNat).getD 2)}"))
  | badUser {user : SeedUser} : settings.auth.userBackend = "memory" →
      (settings.users.find? fun user => ¬user.HasOneSecret) = some user →
      Fails settings users (.seed (.needsOneSecret user.username))
  | noDatabase : settings.auth.userBackend = "mysql" → settings.databaseDsn = none →
      Fails settings users .noDatabaseSettings
  | unknownUsers : settings.auth.userBackend ∉ ["memory", "mysql"] →
      Fails settings users (.unknownUserBackend settings.auth.userBackend)
  | noKeyServer : settings.auth.sessionBackend = "redis" → settings.keyServerDsn = none →
      Fails settings sessions .noKeyServerSettings
  | unknownSessions : settings.auth.sessionBackend ∉ ["memory", "redis"] →
      Fails settings sessions (.unknownSessionBackend settings.auth.sessionBackend)

variable [Causes] {settings : Settings} {requirement : Requirement} {fault other : StartFault}

theorem Fails.not_met (h : requirement.Fails settings fault) : ¬requirement.Met settings := by
  cases h with
  | noTime none => simp [Met, none]
  | tooLong long => exact fun met => Nat.not_le.2 long met.2
  | tooCheap unmet => exact unmet
  | badUser _ bad =>
    have first := List.find?_some bad
    exact fun met => absurd (met.2 _ (List.mem_of_find?_eq_some bad)) (by simpa using first)
  | noDatabase chosen | noKeyServer chosen => simp [Met, chosen]
  | unknownUsers unknown => exact fun met => unknown (met.1 ▸ List.mem_cons_self)
  | unknownSessions unknown => exact fun met => unknown (met ▸ List.mem_cons_self)

theorem Fails.unique (h : requirement.Fails settings fault) (h' : requirement.Fails settings other) :
    fault = other := by
  cases h <;> cases h' <;> simp_all

end Requirement

open Requirement

theorem getD_toNat_lt (word : Option UInt32) {standard : Nat} (h : standard < UInt32.size) :
    (word.map UInt32.toNat).getD standard < UInt32.size := by
  rcases word with _ | word
  · exact h
  · exact word.toNat_lt_size

variable [Causes] {settings : Settings} {α β : Type}

/-- Something is had exactly if a requirement is met, and otherwise there is a fault that tells why
it is not. -/
structure Needs (settings : Settings) (requirement : Requirement) (part : Except StartFault α) :
    Prop where
  ok : (∃ a, part = .ok a) ↔ requirement.Met settings
  error : ∀ fault, part = .error fault ↔ requirement.Fails settings fault

/-- Something is had exactly if all requirements are met, and otherwise the fault is about the first
one that is not. -/
structure NeedsAll (settings : Settings) (requirements : List Requirement)
    (whole : Except StartFault α) : Prop where
  ok : (∃ a, whole = .ok a) ↔ ∀ requirement ∈ requirements, requirement.Met settings
  error : ∀ fault, whole = .error fault ↔ ∃ requirement,
    (requirements.find? fun requirement => ¬requirement.Met settings) = some requirement ∧
      requirement.Fails settings fault

theorem NeedsAll.nil (a : α) : NeedsAll settings [] (.ok a) where
  ok := by simp
  error := by simp

theorem Needs.bind {requirement : Requirement} {requirements : List Requirement}
    {part : Except StartFault α} {next : α → Except StartFault β}
    (h : Needs settings requirement part)
    (hn : ∀ a, NeedsAll settings requirements (next a)) :
    NeedsAll settings (requirement :: requirements) (part >>= next) := by
  rcases part with fault | a
  · have unmet : ¬requirement.Met settings := fun met => nomatch h.ok.2 met
    refine ⟨?_, fun other => ?_⟩
    · simp [unmet, Bind.bind, Except.bind]
    · rw [List.find?_cons_of_pos (by simpa using unmet)]
      simpa [Bind.bind, Except.bind] using h.error other
  · have met : requirement.Met settings := h.ok.1 ⟨a, rfl⟩
    refine ⟨?_, fun fault => ?_⟩
    · simpa [met, Bind.bind, Except.bind] using (hn a).ok
    · rw [List.find?_cons_of_neg (by simpa using met)]
      exact (hn a).error fault

theorem Needs.of_met {requirement : Requirement} {a : α} (met : requirement.Met settings) :
    Needs settings requirement (.ok a) where
  ok := iff_of_true ⟨a, rfl⟩ met
  error _ := iff_of_false nofun fun fails => fails.not_met met

theorem Needs.of_fails {requirement : Requirement} {fault : StartFault}
    (fails : requirement.Fails settings fault) :
    Needs settings requirement (.error fault : Except StartFault α) where
  ok := iff_of_false nofun fails.not_met
  error other := by
    rw [Except.error.injEq]
    exact ⟨fun same => same ▸ fails, fun other => fails.unique other⟩

theorem needs_ttl : Needs settings .ttl (settings.auth.sessionTtl.mapError .ttl) := by
  rcases result : settings.auth.sessionTtl with fault | ttl
  · unfold AuthSettings.sessionTtl at result
    split_ifs at result with none long <;> cases result
    · exact .of_fails (.noTime none)
    · exact .of_fails (.tooLong long)
  · exact .of_met (AuthSettings.sessionTtl_eq_ok.1 result).1

theorem needs_cost : Needs settings .cost (settings.auth.hashCost.mapError .cost) := by
  have memory := getD_toNat_lt settings.auth.memoryKib HashCost.standard.memory_lt
  have passes := getD_toNat_lt settings.auth.passes HashCost.standard.passes_lt
  unfold AuthSettings.hashCost HashCost.ofNumbers
  split_ifs with enough
  · exact .of_met (.inr ⟨enough.1, enough.2.2.1⟩)
  · refine .of_fails (.tooCheap fun met => enough ?_)
    rcases met with ⟨noMemory, noPasses⟩ | ⟨enoughMemory, enoughPasses⟩
    · rw [noMemory, noPasses]
      decide
    · exact ⟨enoughMemory, memory, enoughPasses, passes⟩

/-- The standard cost suffices, and whether another one does is looked up. -/
theorem met_cost_iff : Requirement.Met settings .cost ↔
    (settings.auth.memoryKib = none ∧ settings.auth.passes = none) ∨
      ∃ cost, settings.auth.hashCost = .ok cost := by
  rw [← needs_cost.ok]
  rcases result : settings.auth.hashCost with error | cost
  · refine iff_of_false nofun ?_
    rintro (⟨noMemory, noPasses⟩ | ⟨_, made⟩)
    · rw [AuthSettings.hashCost, noMemory, noPasses] at result
      cases result
    · cases made
  · exact iff_of_true ⟨cost, rfl⟩ (.inr ⟨cost, rfl⟩)

theorem needs_users {around : Surroundings} {cost : HashCost} {draw : Nat → SeedDraw}
    (unreached : ¬(settings.auth.userBackend = "mysql" ∧ settings.databaseDsn.isSome)) :
    Needs settings .users (settings.openUsers around cost draw) := by
  unfold openUsers
  split_ifs with memory mysql
  · dsimp only
    generalize entered : settings.users.zipIdx.map _ = entries
    have names : entries.map Prod.fst = settings.users := by
      rw [← entered]
      simp [Function.comp_def]
    have seeded := Roster.seed_unfailing (Argon2.hasher Unit cost) (fun _ _ _ _ => nofun)
      entries .empty ()
    rw [names] at seeded
    generalize Roster.seed (Argon2.hasher Unit cost) .empty () _ = result at seeded ⊢
    obtain ⟨outcome, left, _⟩ := result
    rcases bad : settings.users.find? (fun user => ¬user.HasOneSecret) with _ | user <;>
      rw [bad] at seeded <;> cases seeded
    · refine .of_met ⟨memory, fun user member => ?_⟩
      simpa using List.find?_eq_none.1 bad user member
    · exact .of_fails (.badUser memory bad)
  · have none : settings.databaseDsn = none := by simpa [mysql] using unreached
    simp only [none]
    exact .of_fails (.noDatabase mysql none)
  · exact .of_fails (.unknownUsers (by simp [memory, mysql]))

theorem needs_sessions {around : Surroundings}
    (unreached : ¬(settings.auth.sessionBackend = "redis" ∧ settings.keyServerDsn.isSome)) :
    Needs settings .sessions (settings.openSessions around) := by
  unfold openSessions
  split_ifs with memory redis
  · exact .of_met memory
  · have none : settings.keyServerDsn = none := by simpa [redis] using unreached
    simp only [none]
    exact .of_fails (.noKeyServer redis none)
  · exact .of_fails (.unknownSessions (by simp [memory, redis]))

end Settings

namespace Server

open Settings

theorem needsAll_start [Causes] {settings : Settings} {around : Surroundings} {seeds : Nat → SeedDraw}
    (noDatabase : ¬(settings.auth.userBackend = "mysql" ∧ settings.databaseDsn.isSome))
    (noKeyServer : ¬(settings.auth.sessionBackend = "redis" ∧ settings.keyServerDsn.isSome)) :
    NeedsAll settings Requirement.inOrder (start settings around seeds) := by
  unfold start
  exact needs_ttl.bind fun ttl => needs_cost.bind fun cost => (needs_users noDatabase).bind
    fun users => (needs_sessions noKeyServer).bind fun sessions => .nil _

/-- A server sweeps its sessions exactly if they are in memory. -/
theorem sweeper_start [Causes] {settings : Settings} {around : Surroundings} {seeds : Nat → SeedDraw}
    {server : Server} (h : start settings around seeds = .ok server) :
    server.sweeper = if settings.auth.sessionBackend = "memory" then
      some (.start settings.auth.sweepInterval) else none := by
  obtain ⟨-, -, -, sessions, -, -, opened, -, -, -, sweeper⟩ := start_eq_ok h
  rw [sweeper]
  unfold openSessions at opened
  split_ifs at opened ⊢ with memory redis
  · cases opened
    rfl
  · rcases given : settings.keyServerDsn with _ | dsn <;> simp only [given] at opened
    · cases opened
    · rcases found : around.keyServer dsn with _ | keyServer <;> rw [found] at opened <;>
        cases opened
      rfl

/-- With no database and no key server to be reached, a server starts exactly if four requirements
are met: the length of sessions is within the bounds, a cost that is chosen suffices, the users are
in memory and each has one secret, and the sessions are in memory. Otherwise the fault is about the
first of these that is not met, whatever else is wrong. Whatever interval is set, the sessions are
swept at one that is positive. -/
theorem start_iff_requirements [Causes] (settings : Settings) (around : Surroundings)
    (seeds : Nat → SeedDraw)
    (noDatabase : ¬(settings.auth.userBackend = "mysql" ∧ settings.databaseDsn.isSome))
    (noKeyServer : ¬(settings.auth.sessionBackend = "redis" ∧ settings.keyServerDsn.isSome)) :
    ((∃ server, start settings around seeds = .ok server) ↔
        (1 ≤ settings.auth.sessionTtlSecs.toNat ∧
          settings.auth.sessionTtlSecs.toNat ≤ maxSessionTtlSecs) ∧
        (settings.auth.memoryKib = none ∧ settings.auth.passes = none ∨
          ∃ cost, HashCost.ofNumbers
            ((settings.auth.memoryKib.map UInt32.toNat).getD HashCost.standard.memoryKib)
            ((settings.auth.passes.map UInt32.toNat).getD HashCost.standard.passes) = .ok cost) ∧
        (settings.auth.userBackend = "memory" ∧ ∀ user ∈ settings.users, user.HasOneSecret) ∧
        settings.auth.sessionBackend = "memory") ∧
      (∀ fault, start settings around seeds = .error fault ↔ ∃ requirement,
        (Requirement.inOrder.find? fun requirement => ¬requirement.Met settings) =
            some requirement ∧ requirement.Fails settings fault) ∧
      ∀ server, start settings around seeds = .ok server →
        ∃ sweeper, server.sweeper = some sweeper ∧ 0 < sweeper.every ∧
          sweeper.every = 1000 * max 1 settings.auth.sweepIntervalSecs.toNat := by
  have needs : NeedsAll settings Requirement.inOrder (start settings around seeds) :=
    needsAll_start noDatabase noKeyServer
  refine ⟨needs.ok.trans ?_, needs.error, fun server started => ?_⟩
  · simp only [Requirement.inOrder, List.forall_mem_cons, met_cost_iff]
    simp [Requirement.Met, AuthSettings.hashCost]
  · have memory : settings.auth.sessionBackend = "memory" :=
      needs.ok.1 ⟨server, started⟩ .sessions (by decide)
    refine ⟨.start settings.auth.sweepInterval, ?_, ?_, Nat.mul_comm _ _⟩
    · rw [sweeper_start started, if_pos memory]
    · exact Nat.mul_pos (le_max_left 1 _) (by decide)

section Sample

attribute [local instance] Causes.plain

/-- Settings with two bad users and with sessions that are kept nowhere. -/
def faultySettings : Settings where
  auth := ⟨"memory", "files", 3600, 60, none, some 1⟩
  http := sampleSettings.http
  logFilter := "info"
  databaseDsn := none
  keyServerDsn := some "redis://localhost"
  users := [⟨"alice", some "secret", none, true⟩, ⟨"bob", none, none, true⟩,
    ⟨"carol", some "secret", some "given", true⟩]

/-- With an interval of no time a server sweeps every second. Of several faults the first one counts,
which is the user without a secret. -/
theorem start_iff_requirements_sample :
    (∃ server sweeper, start { sampleSettings with auth.sweepIntervalSecs := 0 } sampleSurroundings
      sampleSeeds = .ok server ∧ server.sweeper = some sweeper ∧ sweeper.every = 1000) ∧
    start faultySettings sampleSurroundings sampleSeeds =
      .error (.seed (.needsOneSecret "bob")) := by
  obtain ⟨starts, -, sweeps⟩ := start_iff_requirements
    { sampleSettings with auth.sweepIntervalSecs := 0 } sampleSurroundings sampleSeeds
    (by decide) (by decide)
  obtain ⟨server, started⟩ := starts.2
    ⟨by decide, .inr ⟨⟨8, 1, by decide, by decide, by decide, by decide⟩, rfl⟩, by decide, rfl⟩
  obtain ⟨sweeper, kept, -, every⟩ := sweeps server started
  obtain ⟨-, faults, -⟩ := start_iff_requirements faultySettings sampleSurroundings sampleSeeds
    (by decide) (by decide)
  have bob : (faultySettings.users.find? fun user => ¬user.HasOneSecret) =
      some ⟨"bob", none, none, true⟩ := rfl
  exact ⟨⟨server, sweeper, started, kept, every⟩,
    (faults _).2 ⟨.users, by decide, .badUser rfl bob⟩⟩

end Sample

end Server

end SignIn
