import Mathlib.Logic.Basic
import Mathlib.Tactic.Simproc.ExistsAndEq
import Mathlib.Tactic.SplitIfs
import SignIn.Users.Seed

/-!
# A list of users to enter

What entering a list of users does is told by its parts: the first user and the others, one list and
another one after it, the users before the first one who is refused (`Roster.seed_eq_error`), and the
last user of a name, who is the one that is found (`Roster.get?_seed_of_last`).
-/

namespace SignIn

namespace SeedUser

variable {σ : Type} {user : SeedUser} {hasher : PasswordHasher σ} {salt : Vector UInt8 16}
  {s s' : σ}

/-- Either a password is given or the hash of one, and not both. -/
def HasOneSecret (user : SeedUser) : Prop := user.password.isSome ≠ user.passwordHash.isSome

instance (user : SeedUser) : Decidable user.HasOneSecret :=
  inferInstanceAs (Decidable (user.password.isSome ≠ user.passwordHash.isSome))

/-- The given hash is entered as it is, and a given password under a hash that is made of it. -/
theorem secret_eq_ok {hash : String} :
    user.secret hasher salt s = (.ok hash, s') ↔
      (user.password = none ∧ user.passwordHash = some hash ∧ s' = s) ∨
        ∃ password, user.password = some password ∧ user.passwordHash = none ∧
          (hasher.hash salt password).perform s = (.ok hash, s') := by
  unfold secret
  rcases user.password with _ | password <;> rcases user.passwordHash with _ | given
  · simp
  · simp [eq_comm]
  · dsimp only
    rcases made : (hasher.hash salt password).perform s with ⟨_ | _, t⟩ <;> simp [made]
  · simp

/-- A user is refused without exactly one secret, and no hash is made then, or else for the fault of
making one. -/
theorem secret_eq_error {error : SeedError} :
    user.secret hasher salt s = (.error error, s') ↔
      (¬user.HasOneSecret ∧ error = .needsOneSecret user.username ∧ s' = s) ∨
        ∃ password fault, user.password = some password ∧ user.passwordHash = none ∧
          (hasher.hash salt password).perform s = (.error fault, s') ∧ error = .fault fault := by
  unfold secret HasOneSecret
  rcases user.password with _ | password <;> rcases user.passwordHash with _ | given
  · simp [eq_comm]
  · simp
  · dsimp only
    rcases made : (hasher.hash salt password).perform s with ⟨_ | _, t⟩ <;>
      simp [made, eq_comm, and_comm]
  · simp [eq_comm]

end SeedUser

namespace Roster

variable {σ : Type} {hasher : PasswordHasher σ} {roster left : Roster} {s s' : σ} {user : SeedUser}
  {draw : SeedDraw} {users before after : List (SeedUser × SeedDraw)} {count : Nat}
  {error : SeedError}

theorem get?_enter (username hash : String) :
    (roster.enter (user.credential draw hash)).get? username =
      if username = user.username then some (user.credential draw hash)
      else roster.get? username :=
  Table.get?_put roster _ _ username

theorem seed_cons_eq_ok :
    seed hasher roster s ((user, draw) :: users) = (.ok count, left, s') ↔
      ∃ hash mid n, user.secret hasher draw.salt s = (.ok hash, mid) ∧
        seed hasher (roster.enter (user.credential draw hash)) mid users = (.ok n, left, s') ∧
        count = n + 1 := by
  rw [seed]
  rcases user.secret hasher draw.salt s with ⟨_ | hash, mid⟩
  · simp
  · dsimp only
    rcases later : seed hasher (roster.enter (user.credential draw hash)) mid users with
      ⟨_ | n, _, _⟩ <;> simp [later, Except.map, eq_comm, and_comm, and_left_comm]

theorem seed_cons_eq_error :
    seed hasher roster s ((user, draw) :: users) = (.error error, left, s') ↔
      (user.secret hasher draw.salt s = (.error error, s') ∧ left = roster) ∨
        ∃ hash mid, user.secret hasher draw.salt s = (.ok hash, mid) ∧
          seed hasher (roster.enter (user.credential draw hash)) mid users =
            (.error error, left, s') := by
  rw [seed]
  rcases user.secret hasher draw.salt s with ⟨_ | hash, mid⟩
  · simp [eq_comm, and_comm, and_left_comm, and_assoc]
  · dsimp only
    rcases later : seed hasher (roster.enter (user.credential draw hash)) mid users with
      ⟨_ | n, _, _⟩ <;> simp [later, Except.map]

theorem seed_append_eq_ok :
    seed hasher roster s (before ++ after) = (.ok count, left, s') ↔
      ∃ entered mid n m, seed hasher roster s before = (.ok n, entered, mid) ∧
        seed hasher entered mid after = (.ok m, left, s') ∧ count = n + m := by
  induction before generalizing roster s count with
  | nil => simp [seed, eq_comm]
  | cons entry before ih =>
    obtain ⟨user, draw⟩ := entry
    simp only [List.cons_append, seed_cons_eq_ok, ih]
    constructor
    · rintro ⟨hash, mid, _, made, ⟨entered, mid', n, m, first, later, rfl⟩, rfl⟩
      exact ⟨entered, mid', n + 1, m, ⟨hash, mid, n, made, first, rfl⟩, later, by omega⟩
    · rintro ⟨entered, mid', _, m, ⟨hash, mid, n, made, first, rfl⟩, later, rfl⟩
      exact ⟨hash, mid, n + m, made, ⟨entered, mid', n, m, first, later, rfl⟩, by omega⟩

theorem count_seed (h : seed hasher roster s users = (.ok count, left, s')) :
    count = users.length := by
  induction users generalizing roster s count with
  | nil =>
    cases h
    rfl
  | cons entry users ih =>
    obtain ⟨hash, mid, n, -, later, rfl⟩ := seed_cons_eq_ok.1 h
    rw [ih later, List.length_cons]

/-- The users before the first one who is refused are entered, and no others. -/
theorem seed_eq_error :
    seed hasher roster s users = (.error error, left, s') ↔
      ∃ before user draw after mid, users = before ++ (user, draw) :: after ∧
        seed hasher roster s before = (.ok before.length, left, mid) ∧
        user.secret hasher draw.salt mid = (.error error, s') := by
  induction users generalizing roster s with
  | nil => simp [seed]
  | cons entry users ih =>
    obtain ⟨user, draw⟩ := entry
    rw [seed_cons_eq_error]
    constructor
    · rintro (⟨refused, rfl⟩ | ⟨hash, mid, made, later⟩)
      · exact ⟨[], user, draw, users, s, rfl, rfl, refused⟩
      · obtain ⟨before, bad, badDraw, after, mid', rfl, first, refused⟩ := ih.1 later
        exact ⟨(user, draw) :: before, bad, badDraw, after, mid', rfl,
          seed_cons_eq_ok.2 ⟨hash, mid, _, made, first, rfl⟩, refused⟩
    · rintro ⟨_ | ⟨_, before⟩, bad, badDraw, after, mid', split, first, refused⟩
      · cases split
        cases first
        exact .inl ⟨refused, rfl⟩
      · cases split
        obtain ⟨hash, mid, n, made, first, count⟩ := seed_cons_eq_ok.1 first
        obtain rfl : before.length = n := Nat.succ_inj.1 count
        exact .inr ⟨hash, mid, made, ih.2 ⟨before, bad, badDraw, after, mid', rfl, first, refused⟩⟩

/-- Who is not named is found as before. -/
theorem get?_seed_of_unnamed {username : String}
    (h : seed hasher roster s users = (.ok count, left, s'))
    (unnamed : ∀ entry ∈ users, entry.1.username ≠ username) :
    left.get? username = roster.get? username := by
  induction users generalizing roster s count with
  | nil =>
    cases h
    rfl
  | cons entry users ih =>
    obtain ⟨user, draw⟩ := entry
    obtain ⟨hash, mid, n, -, later, -⟩ := seed_cons_eq_ok.1 h
    obtain ⟨other, others⟩ := List.forall_mem_cons.1 unnamed
    rw [ih later others, get?_enter, if_neg (Ne.symm other)]

/-- The last user of a name is found under it, with the hash that was entered then. -/
theorem get?_seed_of_last
    (h : seed hasher roster s (before ++ (user, draw) :: after) = (.ok count, left, s'))
    (last : ∀ entry ∈ after, entry.1.username ≠ user.username) :
    ∃ hash mid, user.secret hasher draw.salt (seed hasher roster s before).2.2 = (.ok hash, mid) ∧
      left.get? user.username = some (user.credential draw hash) := by
  obtain ⟨entered, mid, n, m, first, rest, -⟩ := seed_append_eq_ok.1 h
  obtain ⟨hash, mid', k, made, later, -⟩ := seed_cons_eq_ok.1 rest
  refine ⟨hash, mid', by rw [first]; exact made, ?_⟩
  rw [get?_seed_of_unnamed later last, get?_enter, if_pos rfl]

/-- The names after users were entered are those from before and those of the users. -/
theorem mem_keys_seed {username : String}
    (h : seed hasher roster s users = (.ok count, left, s')) :
    username ∈ left.keys ↔ username ∈ roster.keys ∨ username ∈ users.map (·.1.username) := by
  induction users generalizing roster s count with
  | nil =>
    cases h
    simp
  | cons entry users ih =>
    obtain ⟨user, draw⟩ := entry
    obtain ⟨hash, mid, n, -, later, -⟩ := seed_cons_eq_ok.1 h
    simp only [ih later, Table.mem_keys_iff, get?_enter, List.map_cons, List.mem_cons]
    split_ifs with same <;> simp [same]

/-- A name that is taken is taken last by some user. -/
theorem exists_last (users : List (SeedUser × SeedDraw)) (username : String) :
    (∀ entry ∈ users, entry.1.username ≠ username) ∨
      ∃ before user draw after, users = before ++ (user, draw) :: after ∧
        user.username = username ∧ ∀ entry ∈ after, entry.1.username ≠ username := by
  induction users with
  | nil => exact .inl fun _ h => nomatch h
  | cons entry users ih =>
    rcases ih with unnamed | ⟨before, user, draw, after, rfl, name, last⟩
    · by_cases name : entry.1.username = username
      · exact .inr ⟨[], entry.1, entry.2, users, rfl, name, unnamed⟩
      · exact .inl (List.forall_mem_cons.2 ⟨name, unnamed⟩)
    · exact .inr ⟨entry :: before, user, draw, after, rfl, name, last⟩

end Roster

end SignIn
