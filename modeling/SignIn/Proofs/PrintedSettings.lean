import Mathlib.Data.List.Forall2
import Mathlib.Data.Option.Basic
import SignIn.Proofs.QuotedTexts
import SignIn.Proofs.RedactedAddresses
import SignIn.Settings.Basic

/-!
# Settings in logs

The form of settings for logs shows of a user's password and hash only whether there is one. Of a
password in an address it shows nothing if none of `/`, `?` and `#` is in it. Otherwise the authority
ends inside the password, and all of it is shown, or what stands from the last `@` before that end on
(`Dsn.exposed`). So settings that differ in secrets only are the same in logs exactly if the same is
exposed of their passwords (`Settings.debugText_eq_iff_exposed`).
-/

namespace SignIn

namespace Dsn

/-- What stands around the password of an address. -/
structure Frame where
  scheme : List Char
  user : List Char
  host : List Char
  tail : List Char
  scheme_free : ¬mark <:+: scheme
  user_free : ∀ c ∈ user, c ≠ ':' ∧ c ≠ '@' ∧ endsAuthority c = false
  host_free : ∀ c ∈ host, c ≠ '@' ∧ endsAuthority c = false
  tail_ends : ∀ c ∈ tail.head?, endsAuthority c = true

def Frame.address (frame : Frame) (password : List Char) : List Char :=
  frame.scheme ++ mark ++ frame.user ++ [':'] ++ password ++ ('@' :: frame.host ++ frame.tail)

/-- What is shown in the place of a password. -/
def exposed (password : List Char) : List Char :=
  match password.dropWhile (!endsAuthority ·) with
  | [] => hidden
  | tail =>
    match splitUser (password.takeWhile (!endsAuthority ·)) with
    | none => password
    | some (_, rest) => hidden ++ rest ++ tail

section Exposed

variable {before after password : List Char} {c : Char}

theorem exposed_of_free (h : ∀ c ∈ password, endsAuthority c = false) :
    exposed password = hidden := by
  have none : password.dropWhile (!endsAuthority ·) = [] := by
    rw [List.dropWhile_eq_nil_iff]
    intro c inside
    simp [h c inside]
  rw [exposed, none]

/-- What is shown of a password in which an authority ends. -/
theorem exposed_append (free : ∀ c ∈ before, endsAuthority c = false) (ends : endsAuthority c = true) :
    exposed (before ++ c :: after) = match splitUser before with
      | none => before ++ c :: after
      | some (_, rest) => hidden ++ rest ++ c :: after := by
  have stays : ∀ c ∈ before, (!endsAuthority c) = true := fun c inside => by simp [free c inside]
  rw [exposed, List.dropWhile_append_of_pos stays, List.takeWhile_append_of_pos stays,
    List.dropWhile_cons_of_neg (by simp [ends]), List.takeWhile_cons_of_neg (by simp [ends]),
    List.append_nil]

/-- A password is free of what ends an authority, or has a first character that ends one. -/
theorem free_or_ends (password : List Char) :
    (∀ c ∈ password, endsAuthority c = false) ∨
      ∃ before c after, password = before ++ c :: after ∧
        (∀ c ∈ before, endsAuthority c = false) ∧ endsAuthority c = true := by
  induction password with
  | nil => exact .inl (by simp)
  | cons d rest ih =>
    rcases ends : endsAuthority d with _ | _
    · rcases ih with free | ⟨before, c, after, rfl, free, stop⟩
      · exact .inl (List.forall_mem_cons.2 ⟨ends, free⟩)
      · exact .inr ⟨d :: before, c, after, rfl, List.forall_mem_cons.2 ⟨ends, free⟩, stop⟩
    · exact .inr ⟨[], d, rest, rfl, by simp, ends⟩

theorem exposed_eq_hidden_iff :
    exposed password = hidden ↔ ∀ c ∈ password, endsAuthority c = false := by
  refine ⟨fun same => ?_, exposed_of_free⟩
  rcases free_or_ends password with free | ⟨before, c, after, rfl, free, ends⟩
  · exact free
  · -- The character that ends the authority is shown, and there is none in what hides a password.
    have inside : c ∈ exposed (before ++ c :: after) := by
      rw [exposed_append free ends]
      split <;> simp
    rw [same] at inside
    rw [hidden_free c inside] at ends
    cases ends

end Exposed

namespace Frame

variable {frame : Frame} {before after password : List Char} {c : Char}

theorem user_stays (frame : Frame) : ∀ c ∈ frame.user, endsAuthority c = false :=
  fun c inside => (frame.user_free c inside).2.2

theorem colon_not_mem (frame : Frame) : ':' ∉ frame.user :=
  fun inside => (frame.user_free ':' inside).1 rfl

/-- The address as it reads with a password in which no authority ends. -/
def whole (frame : Frame) (free : ∀ c ∈ password, endsAuthority c = false) : Address where
  scheme := frame.scheme
  authority := frame.user ++ ':' :: password ++ '@' :: frame.host
  tail := frame.tail
  scheme_free := frame.scheme_free
  authority_free := by
    simp only [List.mem_append, List.mem_cons]
    rintro c ((inUser | rfl | inPassword) | rfl | inHost)
    · exact frame.user_stays c inUser
    · rfl
    · exact free c inPassword
    · rfl
    · exact (frame.host_free c inHost).2
  tail_ends := frame.tail_ends

/-- The address as it reads with a password in which its authority ends. -/
def broken (frame : Frame) (after : List Char) (free : ∀ c ∈ before, endsAuthority c = false)
    (ends : endsAuthority c = true) : Address where
  scheme := frame.scheme
  authority := frame.user ++ ':' :: before
  tail := c :: after ++ '@' :: frame.host ++ frame.tail
  scheme_free := frame.scheme_free
  authority_free := by
    simp only [List.mem_append, List.mem_cons]
    rintro c (inUser | rfl | inBefore)
    · exact frame.user_stays c inUser
    · rfl
    · exact free c inBefore
  tail_ends := by simpa using ends

theorem text_whole (free : ∀ c ∈ password, endsAuthority c = false) :
    (frame.whole free).text = frame.address password := by
  simp [Address.text, whole, address]

theorem text_broken (free : ∀ c ∈ before, endsAuthority c = false)
    (ends : endsAuthority c = true) :
    (frame.broken after free ends).text = frame.address (before ++ c :: after) := by
  simp [Address.text, broken, address]

/-- An address is shown with what is exposed of its password in the place of it. -/
theorem redactChars_address (frame : Frame) (password : List Char) :
    redactChars (frame.address password) = frame.address (exposed password) := by
  rcases free_or_ends password with free | ⟨before, c, after, rfl, free, ends⟩
  · have hides : (frame.whole free).Hides frame.user password frame.host :=
      ⟨rfl, frame.colon_not_mem, fun inside => (frame.host_free '@' inside).1 rfl⟩
    rw [exposed_of_free free, ← text_whole free, Address.redactChars_hides hides]
    rfl
  · rw [← text_broken free ends, exposed_append free ends]
    by_cases named : '@' ∈ before
    · obtain ⟨first, last, rfl, lastFree⟩ := exists_user named
      have hides : (frame.broken after free ends).Hides frame.user first last :=
        ⟨by simp [broken], frame.colon_not_mem, lastFree⟩
      rw [splitUser_append lastFree, Address.redactChars_hides hides]
      simp [broken, address]
    · have plain : (frame.broken after free ends).IsPlain := by
        refine .inl ?_
        simp only [broken, List.mem_append, List.mem_cons, not_or]
        exact ⟨fun inside => (frame.user_free '@' inside).2.1 rfl, by decide, named⟩
      rw [splitUser_eq_none named, Address.redactChars_plain plain, text_broken free ends]

end Frame

theorem redact_address (frame : Frame) (password : List Char) :
    redact (.ofList (frame.address password)) = .ofList (frame.address (exposed password)) := by
  rw [redact, String.toList_ofList, Frame.redactChars_address]

/-- Addresses that are equal, or equal but for two passwords that are related. -/
def SameBut (related : List Char → List Char → Prop) (a b : String) : Prop :=
  a = b ∨ ∃ (frame : Frame) (p q : List Char), a = .ofList (frame.address p) ∧
    b = .ofList (frame.address q) ∧ related p q

/-- Addresses that differ in a password at most. -/
abbrev SameButPassword : String → String → Prop := SameBut fun _ _ => True

/-- Addresses that differ at most in a password of which the same is exposed. -/
abbrev SameExposed : String → String → Prop := SameBut fun p q => exposed p = exposed q

theorem SameButPassword.redact_eq_iff {a b : String} (h : SameButPassword a b) :
    redact a = redact b ↔ SameExposed a b := by
  constructor
  · intro same
    rcases h with rfl | ⟨frame, p, q, rfl, rfl, -⟩
    · exact .inl rfl
    · rw [redact_address, redact_address, String.ofList_inj] at same
      exact .inr ⟨frame, p, q, rfl, rfl, List.append_cancel_left (List.append_cancel_right same)⟩
  · rintro (rfl | ⟨frame, p, q, rfl, rfl, same⟩)
    · rfl
    · rw [redact_address, redact_address, same]

end Dsn

/-- Users that are the same, but for their passwords and the hashes of them. -/
structure SeedUser.SameButSecrets (a b : SeedUser) : Prop where
  username : a.username = b.username
  password : a.password.isSome = b.password.isSome
  passwordHash : a.passwordHash.isSome = b.passwordHash.isSome
  isActive : a.isActive = b.isActive

theorem Text.optional_const {α : Type} (word : String) (a : Option α) :
    Text.optional (fun _ => word) a = if a.isSome then s!"Some({word})" else "None" := by
  cases a <;> rfl

theorem SeedUser.SameButSecrets.debugText_eq {a b : SeedUser} (h : a.SameButSecrets b) :
    a.debugText = b.debugText := by
  rw [debugText, debugText, Text.optional_const, Text.optional_const, h.username, h.password,
    h.passwordHash, h.isActive]

namespace Settings

/-- Settings that are the same, but for the secrets of users and for passwords in addresses. -/
structure SameButSecrets (a b : Settings) : Prop where
  auth : a.auth = b.auth
  http : a.http = b.http
  logFilter : a.logFilter = b.logFilter
  databaseDsn : Option.Rel Dsn.SameButPassword a.databaseDsn b.databaseDsn
  keyServerDsn : Option.Rel Dsn.SameButPassword a.keyServerDsn b.keyServerDsn
  users : List.Forall₂ SeedUser.SameButSecrets a.users b.users

theorem map_debugText {a b : List SeedUser} (h : List.Forall₂ SeedUser.SameButSecrets a b) :
    a.map SeedUser.debugText = b.map SeedUser.debugText := by
  induction h with
  | nil => rfl
  | cons same _ ih => rw [List.map_cons, List.map_cons, same.debugText_eq, ih]

section Addresses

variable {name : String} {a b : Option String} {s t : List Char}

theorem toList_optional_dsnText (name dsn : String) :
    (Text.optional (dsnText name) (some dsn)).toList =
      "Some(".toList ++ (name.toList ++ (" \x7b dsn: ".toList ++
        ((Text.quoted (Dsn.redact dsn)).toList ++ " \x7d)".toList))) := by
  have form : Text.optional (dsnText name) (some dsn) = "Some(" ++ dsnText name dsn ++ ")" := rfl
  simp [form, dsnText, Text.record]

/-- The form of an address in logs tells what is shown of the address, whatever comes after it. -/
theorem optional_dsnText_append_inj (h : Option.Rel Dsn.SameButPassword a b) :
    (Text.optional (dsnText name) a).toList ++ s = (Text.optional (dsnText name) b).toList ++ t ↔
      Option.Rel Dsn.SameExposed a b ∧ s = t := by
  cases h with
  | some same =>
    simp only [toList_optional_dsnText, List.append_assoc, List.append_right_inj,
      Text.quoted_append_inj, Option.rel_some_some, same.redact_eq_iff]
  | none =>
    rw [List.append_right_inj]
    exact (and_iff_right .none).symm

end Addresses

/-- Settings that differ in secrets only are the same in logs exactly if the same is exposed of the
passwords in their addresses. An address is shown with what is exposed of its password in the place of
it, and that is nothing of the password exactly if none of `/`, `?` and `#` is in it. -/
theorem debugText_eq_iff_exposed (a b : Settings) (h : a.SameButSecrets b) :
    (a.debugText = b.debugText ↔ Option.Rel Dsn.SameExposed a.databaseDsn b.databaseDsn ∧
        Option.Rel Dsn.SameExposed a.keyServerDsn b.keyServerDsn) ∧
      (∀ (frame : Dsn.Frame) password, Dsn.redact (.ofList (frame.address password)) =
        .ofList (frame.address (Dsn.exposed password))) ∧
      ∀ password, Dsn.exposed password = Dsn.hidden ↔
        ∀ c ∈ password, c ≠ '/' ∧ c ≠ '?' ∧ c ≠ '#' := by
  refine ⟨?_, Dsn.redact_address, fun password => ?_⟩
  · rw [← String.toList_inj]
    simp only [debugText, Text.record, List.map_cons, List.map_nil, String.intercalate_cons_cons,
      String.intercalate_singleton, String.toList_append, List.append_assoc, h.auth, h.http,
      h.logFilter, map_debugText h.users, List.append_right_inj,
      optional_dsnText_append_inj h.databaseDsn, optional_dsnText_append_inj h.keyServerDsn,
      and_true]
  · rw [Dsn.exposed_eq_hidden_iff]
    simp [Dsn.endsAuthority, and_assoc]

/-- A password with a slash in it is shown. -/
example : Dsn.redactChars "mysql://app:pa/ss@db:3306/users".toList =
    "mysql://app:pa/ss@db:3306/users".toList := by decide

section Sample

def sampleFrame : Dsn.Frame where
  scheme := "redis".toList
  user := "default".toList
  host := "cache:6379".toList
  tail := "?protocol=resp3".toList
  scheme_free := by decide
  user_free := by simp [Dsn.endsAuthority]
  host_free := by simp [Dsn.endsAuthority]
  tail_ends := by simp [Dsn.endsAuthority]

/-- Settings with one secret for a key server and for a user. -/
def settingsWith (secret : String) : Settings where
  auth := ⟨"memory", "redis", 600, 60, none, none⟩
  http := ⟨"127.0.0.1:0", none, none⟩
  logFilter := "info"
  databaseDsn := none
  keyServerDsn := some (.ofList (sampleFrame.address secret.toList))
  users := [⟨"alice", some secret, none, true⟩]

theorem sameButSecrets_settingsWith (p q : String) :
    (settingsWith p).SameButSecrets (settingsWith q) where
  auth := rfl
  http := rfl
  logFilter := rfl
  databaseDsn := .none
  keyServerDsn := .some (.inr ⟨sampleFrame, _, _, rfl, rfl, trivial⟩)
  users := .cons ⟨rfl, rfl, rfl, rfl⟩ .nil

/-- Of two passwords nothing is shown, though one has a `:` and an `@` in it. -/
theorem debugText_eq_iff_exposed_sample :
    (settingsWith "s3cr3t").debugText = (settingsWith "p@ss:wörd").debugText := by
  obtain ⟨same, -, -⟩ := debugText_eq_iff_exposed _ _
    (sameButSecrets_settingsWith "s3cr3t" "p@ss:wörd")
  exact same.2 ⟨.none, .some (.inr ⟨sampleFrame, _, _, rfl, rfl, by decide⟩)⟩

end Sample

end Settings

end SignIn
