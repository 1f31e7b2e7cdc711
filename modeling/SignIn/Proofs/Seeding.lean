import Mathlib.Data.Finset.Card
import SignIn.Proofs.ExactNames
import SignIn.Proofs.StartedServer

/-!
# Users who were seeded

Users are entered one by one. Either all of them are, and then the last one of each name counts
(`Roster.seed_enters_last`), or one is refused, and then those before are entered as if they had come
alone (`Roster.seed_stops_at_first`).
-/

namespace SignIn

namespace Table

variable {κ α : Type} [DecidableEq κ]

/-- A table that has the keys of another one and these names has as many entries more as there are
new names. -/
theorem size_eq_add {t bigger : Table κ α} {names : List κ}
    (h : ∀ key, key ∈ bigger.keys ↔ key ∈ t.keys ∨ key ∈ names) :
    bigger.size = t.size + (names.toFinset.filter fun key => t.get? key = none).card := by
  have size (u : Table κ α) : u.size = u.keys.toFinset.card := by
    unfold keys
    rw [List.toFinset_card_of_nodup u.nodup, List.length_map, Table.size]
  have absent (key : κ) : t.get? key = none ↔ key ∉ t.keys := by
    rw [mem_keys_iff, Option.isSome_iff_ne_none, not_not]
  have split : bigger.keys.toFinset =
      t.keys.toFinset ∪ names.toFinset.filter fun key => t.get? key = none := by
    ext key
    simp only [List.mem_toFinset, Finset.mem_union, Finset.mem_filter, h, absent]
    tauto
  have apart : Disjoint t.keys.toFinset
      (names.toFinset.filter fun key => t.get? key = none) := by
    rw [Finset.disjoint_right]
    intro key new
    simpa [absent] using (Finset.mem_filter.1 new).2
  rw [size, size, split, Finset.card_union_of_disjoint apart]

end Table

namespace PasswordHasher

variable {σ : Type}

/-- The hasher, with its calls recorded in order. -/
def recorded (hasher : PasswordHasher σ) : PasswordHasher (σ × List Call) where
  hash salt password := .logging (.hash password) (hasher.hash salt password)
  verify password hash := .logging (.verify password hash) (hasher.verify password hash)

/-- A hash that was made of a password belongs to this password and to no other. -/
def IsExact (hasher : PasswordHasher σ) : Prop :=
  ∀ salt password s hash s', (hasher.hash salt password).perform s = (.ok hash, s') →
    ∀ presented t,
      ((hasher.verify presented hash).perform t).1 = .ok (decide (presented = password))

end PasswordHasher

namespace Roster

variable {σ : Type} {hasher : PasswordHasher σ} {roster left : Roster} {s s' : σ}
  {users : List (SeedUser × SeedDraw)} {count : Nat}

/-- The calls to hash the passwords that users are given with. -/
def hashCalls (users : List (SeedUser × SeedDraw)) : List Call :=
  users.filterMap fun (user, _) => user.password.map Call.hash

theorem seed_recorded {calls : List Call}
    (h : seed hasher roster s users = (.ok count, left, s')) :
    seed hasher.recorded roster (s, calls) users =
      (.ok count, left, s', calls ++ hashCalls users) := by
  induction users generalizing roster s count calls with
  | nil =>
    cases h
    simp [seed, hashCalls]
  | cons entry users ih =>
    obtain ⟨user, draw⟩ := entry
    obtain ⟨hash, mid, n, made, later, rfl⟩ := seed_cons_eq_ok.1 h
    have recorded : user.secret hasher.recorded draw.salt (s, calls) =
        (.ok hash, mid, calls ++ (user.password.map Call.hash).toList) := by
      rw [SeedUser.secret_eq_ok] at made ⊢
      rcases made with ⟨none, given, rfl⟩ | ⟨password, plain, none, made⟩
      · exact .inl ⟨none, given, by simp [none]⟩
      · refine .inr ⟨password, plain, none, ?_⟩
        simp [PasswordHasher.recorded, Attempt.logging, made, plain]
    refine seed_cons_eq_ok.2 ⟨hash, _, n, recorded, ?_, rfl⟩
    rw [ih later, List.append_assoc]
    rcases plain : user.password with _ | password <;> simp [hashCalls, plain]

end Roster

namespace Service

open Attempt

variable {σ ρ : Type} {hasher : PasswordHasher σ} {sessions : SessionStore ρ} {csrfKey : CsrfKey}
  {ttl : Duration} {draw : Draw} {login : Login} {decoy : Option String} {roster : Roster}
  {passwords : σ} {kept : ρ} {credential : Credential}

/-- A user in memory is given a session exactly for the right password, if active, and if the length
of sessions can be used. -/
theorem signIn_roster_iff
    (saves : ∀ token session seconds kept,
      ((sessions.save token session seconds).perform kept).1 = .ok ())
    (known : roster.get? login.username = some credential) :
    (∃ issued, (((ofThreeParts Roster.store hasher sessions csrfKey ttl).signIn draw login).perform
        ⟨decoy, (roster, passwords), kept⟩).1 = .ok (.authenticated issued)) ↔
      ((hasher.verify login.password credential.passwordHash).perform passwords).1 = .ok true ∧
        credential.isActive = true ∧ (expiry? ttl draw.now).isSome := by
  have find : ((ofThreeParts Roster.store hasher sessions csrfKey ttl).users.find
      login.username).perform ((roster, passwords), kept) =
        (.ok (some credential), ((roster, passwords), kept)) := by
    simp [ofThreeParts, ofParts, UserStore.within, Roster.store, known]
  rw [perform_signIn, find]
  dsimp only
  simp only [ofThreeParts, ofParts, PasswordHasher.within, perform_within]
  rcases (hasher.verify login.password credential.passwordHash).perform passwords with
    ⟨_ | isRight, passwords'⟩
  · simp
  dsimp only
  split_ifs with granted
  · rw [perform_issue]
    rcases expiry? ttl draw.now with _ | expiresAt
    · simp
    · have saved := saves (.ofRandom draw.token)
        ⟨credential.userId, credential.username, draw.now, expiresAt⟩ (ttlSeconds ttl) kept
      simp only [SessionStore.within, perform_within, saved]
      exact iff_of_true ⟨_, rfl⟩ ⟨congrArg Except.ok granted.1, granted.2, rfl⟩
  · simp only [Except.ok.injEq, reduceCtorEq, exists_false, false_iff]
    rintro ⟨right, active, -⟩
    exact granted ⟨right, active⟩

end Service

namespace Roster

open Service

variable {σ : Type}

/-- Whoever knows the secret of a user gets a session under the name, if the user is active and
sessions have a length that can be used. No one else does. -/
def LetsIn (hasher : PasswordHasher σ) (roster : Roster) (user : SeedUser) : Prop :=
  ∀ {ρ : Type} (sessions : SessionStore ρ) (csrfKey : CsrfKey) (ttl : Duration) (draw : Draw)
    (password : String) (decoy : Option String) (passwords : σ) (kept : ρ),
    (∀ token session seconds kept,
      ((sessions.save token session seconds).perform kept).1 = .ok ()) →
    ((∃ issued, (((ofThreeParts Roster.store hasher sessions csrfKey ttl).signIn draw
        ⟨user.username, password⟩).perform ⟨decoy, (roster, passwords), kept⟩).1 =
          .ok (.authenticated issued)) ↔
      user.isActive = true ∧
        (user.password = some password ∨ ∃ hash, user.passwordHash = some hash ∧
          ((hasher.verify password hash).perform passwords).1 = .ok true) ∧
        (expiry? ttl draw.now).isSome)

/-- What is found under a name after users were entered: nothing else than before where no user has
that name, and otherwise the last one who has it. The hash is the one that was given, or what the
hasher made of the password when it was this user's turn. -/
def Entered (hasher : PasswordHasher σ) (roster : Roster) (s : σ)
    (users : List (SeedUser × SeedDraw)) (left : Roster) (username : String) : Prop :=
  ((∀ entry ∈ users, entry.1.username ≠ username) ∧ left.get? username = roster.get? username) ∨
    ∃ before user draw after hash, users = before ++ (user, draw) :: after ∧
      user.username = username ∧ (∀ entry ∈ after, entry.1.username ≠ username) ∧
      left.get? username =
        some ⟨.ofRandom draw.userId, username, hash, user.isActive, draw.now⟩ ∧
      (user.password = none ∧ user.passwordHash = some hash ∨
        ∃ password, user.password = some password ∧ user.passwordHash = none ∧
          ((hasher.hash draw.salt password).perform (seed hasher roster s before).2.2).1 =
            .ok hash) ∧
      (hasher.IsExact → left.LetsIn hasher user)

variable {hasher : PasswordHasher σ} {roster left : Roster} {s s' : σ}
  {users : List (SeedUser × SeedDraw)} {count : Nat}

theorem letsIn_of_get? {user : SeedUser} {draw : SeedDraw} {hash : String} {t t' : σ}
    (exact : hasher.IsExact) (made : user.secret hasher draw.salt t = (.ok hash, t'))
    (found : left.get? user.username = some (user.credential draw hash)) :
    left.LetsIn hasher user := by
  intro ρ sessions csrfKey ttl signInDraw password decoy passwords kept saves
  have verify : ((hasher.verify password hash).perform passwords).1 = .ok true ↔
      user.password = some password ∨ ∃ hash, user.passwordHash = some hash ∧
        ((hasher.verify password hash).perform passwords).1 = .ok true := by
    rcases SeedUser.secret_eq_ok.1 made with ⟨none, given, -⟩ | ⟨plain, some, none, made⟩
    · simp [none, given]
    · rw [exact _ _ _ _ _ made password passwords]
      simp [some, none, eq_comm]
  rw [signIn_roster_iff saves found, ← verify]
  exact and_left_comm

theorem entered_seed (h : seed hasher roster s users = (.ok count, left, s')) (username : String) :
    Entered hasher roster s users left username := by
  rcases exists_last users username with unnamed | ⟨before, user, draw, after, rfl, rfl, last⟩
  · exact .inl ⟨unnamed, get?_seed_of_unnamed h unnamed⟩
  · obtain ⟨hash, mid, made, found⟩ := get?_seed_of_last h last
    refine .inr ⟨before, user, draw, after, hash, rfl, rfl, last, found, ?_,
      fun exact => letsIn_of_get? exact made found⟩
    rcases SeedUser.secret_eq_ok.1 made with ⟨none, given, -⟩ | ⟨password, plain, none, made⟩
    · exact .inl ⟨none, given⟩
    · exact .inr ⟨password, plain, none, congrArg Prod.fst made⟩

/-- Users were entered, all of them: as many as there are, under each name the last one, with as many
more names as are new. The passwords that were given with them were hashed, each once and in order,
and nothing else was. -/
theorem seed_enters_last (hasher : PasswordHasher σ) (roster left : Roster) (s s' : σ)
    (users : List (SeedUser × SeedDraw)) (count : Nat)
    (h : seed hasher roster s users = (.ok count, left, s')) :
    count = users.length ∧ (∀ username, Entered hasher roster s users left username) ∧
      left.size = roster.size +
        ((users.map (·.1.username)).toFinset.filter fun name => roster.get? name = none).card ∧
      seed hasher.recorded roster (s, []) users =
        (.ok count, left, s', users.filterMap fun (user, _) => user.password.map Call.hash) :=
  ⟨count_seed h, entered_seed h, Table.size_eq_add fun _ => mem_keys_seed h, seed_recorded h⟩

section Sample

theorem isExact_plainHasher : (plainHasher Unit).IsExact := by
  rintro salt password s hash s' made presented t
  cases made
  exact congrArg Except.ok (beq_eq_decide presented password)

/-- Two users of one name, and one who comes with a hash between them. -/
def sampleUsers : List (SeedUser × SeedDraw) :=
  [(⟨"alice", some "first", none, false⟩, Server.sampleSeeds 0),
    (⟨"bob", none, some "given", true⟩, Server.sampleSeeds 1),
    (⟨"alice", some "second", none, true⟩, Server.sampleSeeds 2)]

/-- Where there was an alice, one more user is found, two passwords are hashed, and alice may sign in
with the second one alone. -/
theorem seed_enters_last_sample :
    ∃ left, seed (plainHasher Unit) (.ofCredentials [sampleUser]) () sampleUsers =
        (.ok 3, left, ()) ∧
      left.size = 2 ∧
      seed (plainHasher Unit).recorded (.ofCredentials [sampleUser]) ((), []) sampleUsers =
        (.ok 3, left, (), [.hash "first", .hash "second"]) ∧
      ∀ password, (∃ issued, (((ofThreeParts Roster.store (plainHasher Unit) Registry.store ⟨[]⟩
        (.ofSeconds 10)).signIn (sampleDraw 0 1) ⟨"alice", password⟩).perform
          ⟨none, (left, ()), .empty⟩).1 = .ok (.authenticated issued)) ↔ password = "second" := by
  obtain ⟨left, entered⟩ : ∃ left,
      seed (plainHasher Unit) (.ofCredentials [sampleUser]) () sampleUsers = (.ok 3, left, ()) :=
    ⟨_, rfl⟩
  obtain ⟨-, names, size, recorded⟩ :=
    seed_enters_last (plainHasher Unit) (.ofCredentials [sampleUser]) left () () sampleUsers 3 entered
  refine ⟨left, entered, size, recorded, fun password => ?_⟩
  have usable : (Service.expiry? (.ofSeconds 10) (sampleDraw 0 1).now).isSome := by decide
  rcases names "alice" with ⟨unnamed, -⟩ |
    ⟨before, user, draw, after, hash, split, name, last, -, -, letsIn⟩
  · exact absurd rfl (unnamed _ List.mem_cons_self)
  · obtain rfl : user = ⟨"alice", some "second", none, true⟩ := by
      rcases before with _ | ⟨_, _ | ⟨_, _ | ⟨_, before⟩⟩⟩
      · cases split
        exact absurd rfl (last _ (List.mem_cons_of_mem _ List.mem_cons_self))
      · cases split
        exact absurd name (by decide)
      · cases split
        rfl
      · simp [sampleUsers] at split
    rw [letsIn isExact_plainHasher Registry.store ⟨[]⟩ (.ofSeconds 10) (sampleDraw 0 1) password none
      () .empty fun _ _ _ _ => rfl]
    simp [usable, eq_comm]

end Sample

/-- A user is refused exactly for the wrong number of secrets, or for the fault of hashing the
password. Then the users before are entered as if they had been alone, and no others are. -/
theorem seed_stops_at_first (hasher : PasswordHasher σ) (roster left : Roster) (s s' : σ)
    (users : List (SeedUser × SeedDraw)) (error : SeedError) :
    seed hasher roster s users = (.error error, left, s') ↔
      ∃ before user draw after mid, users = before ++ (user, draw) :: after ∧
        (seed hasher roster s before = (.ok before.length, left, mid) ∧
          ∀ username, Entered hasher roster s before left username) ∧
        ((¬user.HasOneSecret ∧ error = .needsOneSecret user.username ∧ s' = mid) ∨
          ∃ password fault, user.password = some password ∧ user.passwordHash = none ∧
            (hasher.hash draw.salt password).perform mid = (.error fault, s') ∧
            error = .fault fault) := by
  simp only [seed_eq_error, SeedUser.secret_eq_error]
  constructor
  · rintro ⟨before, user, draw, after, mid, split, first, refused⟩
    exact ⟨before, user, draw, after, mid, split, ⟨first, entered_seed first⟩, refused⟩
  · rintro ⟨before, user, draw, after, mid, split, ⟨first, -⟩, refused⟩
    exact ⟨before, user, draw, after, mid, split, first, refused⟩

example : ((seed (plainHasher Unit) .empty () [(⟨"alice", some "first", none, true⟩,
    Server.sampleSeeds 0), (⟨"bob", none, none, true⟩, Server.sampleSeeds 1)]).2.1).size = 1 := rfl

end Roster

end SignIn
