import SignIn.Proofs.Agreement
import SignIn.Proofs.History
import SignIn.Users.CredentialTable

/-!
# Users in a database and in memory

A database may take other names for the one that was asked for, and gives the first row that it
takes. As long as it takes every name for itself, and no two names in the table for each other, that
row is the one with exactly the name if there is such a row (`CredentialTable.select_of_mem`), and
its name gives it away if there is none. So a table answers by exact names alone, like a roster of
its credentials, and the service cannot tell the two apart
(`CredentialTable.answers_by_exact_name`).
-/

namespace SignIn

namespace CredentialRow

/-- The row in which a credential is kept. -/
def ofCredential (credential : Credential) : CredentialRow :=
  ⟨credential.userId.bytes.toList, credential.username, credential.passwordHash,
    credential.isActive, credential.createdAt⟩

variable {row : CredentialRow} {credential : Credential}

theorem ofCredential_inj {other : Credential} :
    ofCredential credential = ofCredential other ↔ credential = other := by
  refine ⟨fun same => ?_, congrArg _⟩
  obtain ⟨⟨a⟩, name, hash, active, created⟩ := credential
  obtain ⟨⟨b⟩, name', hash', active', created'⟩ := other
  simpa [ofCredential, Vector.toList_inj] using same

theorem exists_ofCredential (h : row.userId.length = 16) :
    ∃ credential, row = ofCredential credential := by
  rcases hid : UserId.ofBytes? row.userId with _ | id
  · exact absurd h (UserId.ofBytes?_eq_none.1 hid)
  · refine ⟨⟨id, row.username, row.passwordHash, row.isActive, row.createdAt⟩, ?_⟩
    rw [ofCredential, UserId.ofBytes?_eq_some.1 hid]

theorem length_userId (credential : Credential) : (ofCredential credential).userId.length = 16 := by
  simp [ofCredential]

section Read

variable [Causes]

theorem credential_ofCredential (credential : Credential) :
    (ofCredential credential).credential = .ok credential := by
  rw [CredentialRow.credential, ofCredential, UserId.ofBytes?_toList]

theorem credential_eq_error (h : row.userId.length ≠ 16) :
    ∃ reason, row.credential = .error (.store reason) := by
  rw [CredentialRow.credential, UserId.ofBytes?_eq_none.2 h]
  exact ⟨_, rfl⟩

end Read

/-- Rows of sixteen-byte ids are those of credentials. -/
theorem exists_map_ofCredential : ∀ {rows : List CredentialRow},
    (∀ row ∈ rows, row.userId.length = 16) →
      ∃ credentials : List Credential, rows = credentials.map ofCredential
  | [], _ => ⟨[], rfl⟩
  | row :: rows, h => by
    rw [List.forall_mem_cons] at h
    obtain ⟨credential, rfl⟩ := exists_ofCredential h.1
    obtain ⟨credentials, rfl⟩ := exists_map_ofCredential h.2
    exact ⟨credential :: credentials, rfl⟩

end CredentialRow

namespace Roster

/-- A roster has the credentials in these rows, each under its name, and no other. -/
def HasRows (roster : Roster) (rows : List CredentialRow) : Prop :=
  ∀ username credential, roster.get? username = some credential ↔
    credential.username = username ∧ .ofCredential credential ∈ rows

/-- Of credentials with one name, the one that is entered last counts. -/
theorem get?_foldl_enter (credentials : List Credential) (roster : Roster) (username : String) :
    (credentials.foldl enter roster).get? username =
      (credentials.reverse.find? (·.username = username)).or (roster.get? username) := by
  induction credentials generalizing roster with
  | nil => rfl
  | cons credential credentials ih =>
    rw [List.foldl_cons, ih, enter, Table.get?_put, List.reverse_cons, List.find?_append]
    by_cases same : username = credential.username
    · subst same
      simp
    · simp [same, Ne.symm same]

theorem hasRows_ofCredentials {credentials : List Credential}
    (distinct : (credentials.map (·.username)).Nodup) :
    (ofCredentials credentials).HasRows (credentials.map .ofCredential) := by
  intro username credential
  rw [ofCredentials, get?_foldl_enter, Table.get?_empty, Option.or_none]
  constructor
  · intro found
    refine ⟨by simpa using List.find?_some found, List.mem_map_of_mem ?_⟩
    exact List.mem_reverse.1 (List.mem_of_find?_eq_some found)
  · rintro ⟨rfl, listed⟩
    obtain ⟨other, member, row⟩ := List.mem_map.1 listed
    obtain rfl := CredentialRow.ofCredential_inj.1 row
    rcases found : credentials.reverse.find? (·.username = other.username) with _ | first
    · have := List.find?_eq_none.1 found other (List.mem_reverse.2 member)
      simp at this
    · have name : first.username = other.username := by simpa using List.find?_some found
      have firstMember := List.mem_reverse.1 (List.mem_of_find?_eq_some found)
      rw [found, List.inj_on_of_nodup_map distinct firstMember member name]

end Roster

namespace CredentialTable

open Attempt

variable {same : String → String → Bool} {rows : List CredentialRow} {username : String}

/-- What is answered to a query for a name goes by the row that has it, byte for byte. -/
structure AnswersByName (rows : List CredentialRow) (username : String)
    (answer : Except AuthError (Option Credential)) : Prop where
  found : ∀ row ∈ rows,
    (∃ credential, row = .ofCredential credential ∧ answer = .ok (some credential)) ↔
      row.username = username ∧ row.userId.length = 16
  fault : (∃ reason, answer = .error (.store reason)) ↔
    ∃ row ∈ rows, row.username = username ∧ row.userId.length ≠ 16
  absent : answer = .ok none ↔ ∀ row ∈ rows, row.username ≠ username

section Names

variable (hsame : ∀ name, same name name = true)
  (unique : rows.Pairwise fun a b => same a.username b.username = false)

include hsame unique

/-- The first row that the database takes for a name in the table is the one that has it. -/
theorem select_of_mem {row : CredentialRow} (listed : row ∈ rows) :
    select same rows row.username = some row := by
  unfold select
  induction rows with
  | nil => cases listed
  | cons first rest ih =>
    rw [List.pairwise_cons] at unique
    rcases List.mem_cons.1 listed with rfl | listed
    · exact List.find?_cons_of_pos (hsame row.username)
    · rw [List.find?_cons, unique.1 row listed]
      exact ih unique.2 listed

theorem exact_of_mem [Causes] {row : CredentialRow} (listed : row ∈ rows) :
    exact (select same rows row.username) row.username = row.credential.map some := by
  rw [select_of_mem hsame unique listed, exact, Option.bind_some, CredentialRow.named?,
    if_pos rfl]

/-- Usernames in the table differ. -/
theorem nodup_usernames : (rows.map (·.username)).Nodup := by
  rw [List.Nodup, List.pairwise_map]
  refine unique.imp fun {a b} apart equal => ?_
  rw [equal, hsame] at apart
  cases apart

/-- The name of a row is answered with its credential, or with a fault for its id. -/
theorem answersByName_of_mem [Causes] {row : CredentialRow} (listed : row ∈ rows) :
    AnswersByName rows row.username (exact (select same rows row.username) row.username) := by
  have only : ∀ other ∈ rows, other.username = row.username → other = row :=
    fun other ho name =>
      List.inj_on_of_nodup_map (nodup_usernames hsame unique) ho listed name
  rw [exact_of_mem hsame unique listed]
  by_cases size : row.userId.length = 16
  · obtain ⟨credential, rfl⟩ := CredentialRow.exists_ofCredential size
    rw [CredentialRow.credential_ofCredential]
    refine ⟨fun other ho => ⟨?_, ?_⟩, iff_of_false nofun ?_, iff_of_false nofun fun absent =>
      absent _ listed rfl⟩
    · rintro ⟨_, rfl, ⟨⟩⟩
      exact ⟨rfl, size⟩
    · rintro ⟨name, -⟩
      exact ⟨credential, only other ho name, rfl⟩
    · rintro ⟨other, ho, name, wrong⟩
      exact wrong (only other ho name ▸ size)
  · obtain ⟨reason, bad⟩ := CredentialRow.credential_eq_error size
    rw [bad]
    refine ⟨fun other ho => iff_of_false ?_ ?_,
      iff_of_true ⟨reason, rfl⟩ ⟨row, listed, rfl, size⟩, iff_of_false nofun fun absent =>
      absent row listed rfl⟩
    · rintro ⟨_, -, ⟨⟩⟩
    · rintro ⟨name, right⟩
      exact size (only other ho name ▸ right)

end Names

section Table

variable [Causes]

/-- Whatever row the database takes for a name that is not in the table, it has another name. -/
theorem exact_of_unlisted (unlisted : ∀ row ∈ rows, row.username ≠ username) :
    exact (select same rows username) username = .ok none := by
  unfold exact
  rcases found : select same rows username with _ | row
  · rfl
  · have other := unlisted row (List.mem_of_find?_eq_some found)
    rw [Option.bind_some, CredentialRow.named?, if_neg other]

theorem answersByName_of_unlisted (unlisted : ∀ row ∈ rows, row.username ≠ username) :
    AnswersByName rows username (exact (select same rows username) username) := by
  rw [exact_of_unlisted unlisted]
  refine ⟨fun row hr => iff_of_false ?_ fun named => unlisted row hr named.1,
    iff_of_false nofun fun ⟨row, hr, name, _⟩ => unlisted row hr name, iff_of_true rfl unlisted⟩
  rintro ⟨_, -, ⟨⟩⟩

/-- A table of which the next query is carried out answers as a roster does. -/
def Serves (same : String → String → Bool) (table : CredentialTable) (roster : Roster) : Prop :=
  table.forced = none ∧
    ∀ username, exact (select same table.rows username) username = .ok (roster.get? username)

theorem serves_hasRows (hsame : ∀ name, same name name = true)
    (unique : rows.Pairwise fun a b => same a.username b.username = false)
    (ids : ∀ row ∈ rows, row.userId.length = 16) {roster : Roster} (has : roster.HasRows rows)
    (asked : List String) : Serves same ⟨rows, none, asked⟩ roster := by
  refine ⟨rfl, fun username => ?_⟩
  by_cases listed : ∃ row ∈ rows, row.username = username
  · obtain ⟨row, listed, rfl⟩ := listed
    obtain ⟨credential, rfl⟩ := CredentialRow.exists_ofCredential (ids row listed)
    have kept := (has credential.username credential).2 ⟨rfl, listed⟩
    rw [exact_of_mem hsame unique listed, CredentialRow.credential_ofCredential]
    exact congrArg Except.ok kept.symm
  · rw [exact_of_unlisted fun row hr name => listed ⟨row, hr, name⟩]
    rcases found : roster.get? username with _ | credential
    · rfl
    · obtain ⟨name, row⟩ := (has username credential).1 found
      exact absurd ⟨_, row, name⟩ listed

theorem agree_find (same : String → String → Bool) (username : String) :
    Attempt.Agree (Serves same) ((store same).find username) (Roster.store.find username) := by
  rintro ⟨rows, forced, asked⟩ roster ⟨unforced, serves⟩
  cases unforced
  exact ⟨serves username, rfl, serves⟩

end Table

end CredentialTable

namespace Service

open Attempt CredentialTable

/-- The service over users, a hasher and sessions, each with a state of its own. -/
def ofThreeParts {υ η ρ : Type} (users : UserStore υ) (hasher : PasswordHasher η)
    (sessions : SessionStore ρ) (csrfKey : CsrfKey) (ttl : Duration) : Service ((υ × η) × ρ) :=
  ofParts (users.within Prod.fst fun part state => (part, state.2))
    (hasher.within Prod.snd fun part state => (state.1, part)) sessions csrfKey ttl

variable {η ρ : Type} {hasher : PasswordHasher η} {sessions : SessionStore ρ} {csrfKey : CsrfKey}
  {ttl : Duration}

theorem agree_table [Causes] (same : String → String → Bool) :
    Agree (Both (Both (Serves same) Eq) Eq)
      (ofThreeParts (CredentialTable.store same) hasher sessions csrfKey ttl)
      (ofThreeParts Roster.store hasher sessions csrfKey ttl) where
  csrfKey := rfl
  ttl := rfl
  findUser username := .first (.first (agree_find same username))
  hash _ _ := .first (.second (.refl _))
  verify _ _ := .first (.second (.refl _))
  save _ _ _ := .second (.refl _)
  find _ := .second (.refl _)
  revoke _ := .second (.refl _)

end Service

namespace CredentialTable

open Service

/-- Over any comparison that takes every name for itself, as an equivalence does, and any table in
which it takes no two names for each other: the credential in a row is found exactly if the row has
the name that was asked for and its id has sixteen bytes; a fault of the store is met exactly if the
row with that name has an id of another length; and if no row has that name, nobody is found,
whatever row the database takes for it.

So where all ids have sixteen bytes, every run of the service has the same history, the same decoy
and the same sessions over the table as over any roster of the same credentials. -/
theorem answers_by_exact_name [Causes] (same : String → String → Bool)
    (hsame : ∀ name, same name name = true) (rows : List CredentialRow)
    (unique : rows.Pairwise fun a b => same a.username b.username = false) (asked : List String) :
    (∀ username, AnswersByName rows username
      (((store same).find username).perform ⟨rows, none, asked⟩).1) ∧
    ((∀ row ∈ rows, row.userId.length = 16) →
      (∃ credentials, rows = credentials.map .ofCredential ∧
        (Roster.ofCredentials credentials).HasRows rows) ∧
      ∀ roster : Roster, roster.HasRows rows → ∀ {η ρ : Type} (hasher : PasswordHasher η)
        (sessions : SessionStore ρ) (csrfKey : CsrfKey) (ttl : Duration) (decoy : Option String)
        (passwords : η) (kept : ρ) (steps : List Service.Step),
        let database := (ofThreeParts (store same) hasher sessions csrfKey ttl).run steps
          ⟨decoy, (⟨rows, none, asked⟩, passwords), kept⟩
        let memory := (ofThreeParts Roster.store hasher sessions csrfKey ttl).run steps
          ⟨decoy, (roster, passwords), kept⟩
        database.1 = memory.1 ∧ database.2.decoy = memory.2.decoy ∧
          database.2.world.2 = memory.2.world.2) := by
  refine ⟨fun username => ?_, fun ids => ⟨?_, ?_⟩⟩
  · by_cases listed : ∃ row ∈ rows, row.username = username
    · obtain ⟨row, listed, rfl⟩ := listed
      exact answersByName_of_mem hsame unique listed
    · exact answersByName_of_unlisted fun row hr name => listed ⟨row, hr, name⟩
  · obtain ⟨credentials, rfl⟩ := CredentialRow.exists_map_ofCredential ids
    refine ⟨credentials, rfl, Roster.hasRows_ofCredentials ?_⟩
    have distinct := nodup_usernames hsame unique
    rwa [List.map_map] at distinct
  · intro roster has η ρ hasher sessions csrfKey ttl decoy passwords kept steps database memory
    obtain ⟨history, decoy, -, sessions⟩ :
        database.1 = memory.1 ∧ StatesAgree _ database.2 memory.2 :=
      (agree_table same).run (fun now _ => .second (.refl _))
        ⟨rfl, ⟨serves_hasRows hsame unique ids has asked, rfl⟩, rfl⟩
    exact ⟨history, decoy, sessions⟩

section Sample

attribute [local instance] Causes.plain

/-- Two users, of whom the second has an id of fifteen bytes. -/
def sampleRows : List CredentialRow :=
  [.ofCredential sampleUser, ⟨.replicate 15 7, "bob", "secret", true, sampleMoment 0⟩]

/-- The database takes `Alice` with a space after it for `alice`, and still only `alice` is found,
and may sign in as if she were kept in memory. -/
theorem answers_by_exact_name_sample :
    (∀ name, sameName name name = true) ∧
      (sampleRows.Pairwise fun a b => sameName a.username b.username = false) ∧
      select sameName sampleRows "Alice " = some (.ofCredential sampleUser) ∧
      (((store sameName).find "Alice ").perform ⟨sampleRows, none, []⟩).1 = .ok none ∧
      (∃ reason, (((store sameName).find "bob").perform ⟨sampleRows, none, []⟩).1 =
        .error (.store reason)) ∧
      ((ofThreeParts (store sameName) (plainHasher Unit) Registry.store ⟨[]⟩ (.ofSeconds 10)).run
          [.signIn (sampleDraw 0 1) ⟨"alice", "secret"⟩]
          ⟨none, (.ofRows [.ofCredential sampleUser], ()), .empty⟩).1.map Prod.snd =
        [.ok (.signIn (.authenticated (sampleIssued 1 10)))] := by
  have hsame : ∀ name, sameName name name = true := fun name => beq_self_eq_true _
  have unique : sampleRows.Pairwise fun a b => sameName a.username b.username = false := by
    decide +kernel
  have answers := (answers_by_exact_name sameName hsame sampleRows unique []).1
  obtain ⟨-, runs⟩ := (answers_by_exact_name sameName hsame [.ofCredential sampleUser]
    (List.pairwise_singleton _ _) []).2 (by simp [CredentialRow.length_userId])
  have listed : (Roster.ofCredentials [sampleUser]).HasRows [.ofCredential sampleUser] :=
    Roster.hasRows_ofCredentials (List.nodup_singleton _)
  refine ⟨hsame, unique, by decide +kernel, ?_, ?_, ?_⟩
  · exact (answers "Alice ").absent.2 (by decide +kernel)
  · exact (answers "bob").fault.2 ⟨_, List.mem_cons_of_mem _ List.mem_cons_self, rfl, by decide⟩
  · obtain ⟨history, -⟩ := runs _ listed (plainHasher Unit) Registry.store ⟨[]⟩ (.ofSeconds 10)
      none () .empty [.signIn (sampleDraw 0 1) ⟨"alice", "secret"⟩]
    exact (congrArg (List.map Prod.snd) history).trans rfl

end Sample

end CredentialTable

end SignIn
