import Mathlib.Data.List.Infix
import Mathlib.Data.List.TakeWhile
import SignIn.Settings.Dsn

/-!
# What is hidden of an address

An address has a scheme, an authority and a tail (`Dsn.Address`). What is hidden of it is the part of
the authority between its first `:` and its last `@`, if it has such a part (`Dsn.Address.Hides`);
all around it is shown as it is. To show an address that was already shown changes nothing
(`Dsn.redact_touches_one_part`). The same text comes out if an address is cut at offsets of bytes
(`Dsn.redactAtOffsets?`): none of these offsets is inside a character.
-/

namespace SignIn

namespace Dsn

/-- What stands between the scheme of an address and its authority. -/
def mark : List Char := "://".toList

section Parts

variable {dsn scheme rest authority user host password : List Char} {c : Char}

theorem splitScheme_mark : splitScheme (mark ++ rest) = some ([], rest) := rfl

theorem splitScheme_cons (h : ¬mark <+: c :: rest) :
    splitScheme (c :: rest) =
      (splitScheme rest).map fun (scheme, rest) => (c :: scheme, rest) := by
  rw [splitScheme]
  rintro after rfl rfl
  exact h ⟨after, rfl⟩

/-- The mark cannot begin inside a scheme that is free of it: no two of its places overlap. -/
theorem not_mark_prefix (h : ¬mark <:+: c :: scheme) : ¬mark <+: c :: scheme ++ mark ++ rest := by
  rintro ⟨after, same⟩
  apply h
  rcases scheme with _ | ⟨a, _ | ⟨b, scheme⟩⟩
  · simp [mark] at same
  · simp [mark] at same
  · simp only [mark, String.reduceToList, List.cons_append, List.nil_append, List.cons.injEq] at same
    obtain ⟨rfl, rfl, rfl, -⟩ := same
    exact ⟨[], scheme, rfl⟩

theorem splitScheme_append (h : ¬mark <:+: scheme) :
    splitScheme (scheme ++ mark ++ rest) = some (scheme, rest) := by
  induction scheme with
  | nil => exact splitScheme_mark
  | cons c scheme ih =>
    have free : ¬mark <:+: scheme := fun inside => h (List.infix_cons inside)
    have next : ¬mark <+: c :: scheme ++ mark ++ rest := not_mark_prefix h
    rw [List.cons_append, List.cons_append] at next ⊢
    rw [splitScheme_cons next, ih free]
    rfl

theorem splitScheme_eq_none (h : ¬mark <:+: dsn) : splitScheme dsn = none := by
  induction dsn with
  | nil => rfl
  | cons c rest ih =>
    rw [List.infix_cons_iff, not_or] at h
    rw [splitScheme_cons h.1, ih h.2]
    rfl

/-- A text with a mark in it has a first one. -/
theorem exists_scheme (h : mark <:+: dsn) :
    ∃ scheme rest, dsn = scheme ++ mark ++ rest ∧ ¬mark <:+: scheme := by
  induction dsn with
  | nil => simp [mark] at h
  | cons c after ih =>
    by_cases start : mark <+: c :: after
    · obtain ⟨rest, same⟩ := start
      exact ⟨[], rest, same.symm, by simp [mark]⟩
    · obtain ⟨scheme, rest, rfl, free⟩ := ih ((List.infix_cons_iff.1 h).resolve_left start)
      refine ⟨c :: scheme, rest, rfl, fun inside => ?_⟩
      rcases List.infix_cons_iff.1 inside with first | later
      · exact start (by simpa using first.trans (List.prefix_append (c :: scheme) (mark ++ rest)))
      · exact free later

theorem splitUser_eq_none (h : '@' ∉ authority) : splitUser authority = none := by
  induction authority with
  | nil => rfl
  | cons c rest ih =>
    rw [List.mem_cons, not_or] at h
    rw [splitUser, ih h.2]
    exact if_neg (Ne.symm h.1)

theorem splitUser_append (h : '@' ∉ host) :
    splitUser (user ++ '@' :: host) = some (user, '@' :: host) := by
  induction user with
  | nil => rw [List.nil_append, splitUser, splitUser_eq_none h]; rfl
  | cons c user ih => rw [List.cons_append, splitUser, ih]

/-- A text with an `@` in it has a last one. -/
theorem exists_user (h : '@' ∈ authority) :
    ∃ user host, authority = user ++ '@' :: host ∧ '@' ∉ host := by
  obtain ⟨host, user, same, free⟩ := List.eq_append_cons_of_mem (List.mem_reverse.2 h)
  refine ⟨user.reverse, host.reverse, ?_, by simpa using free⟩
  rw [← List.reverse_reverse authority, same]
  simp

theorem redactUser_of_not_mem (h : ':' ∉ user) : redactUser user = user := by
  have none : user.dropWhile (· != ':') = [] := by
    rw [List.dropWhile_eq_nil_iff]
    rintro c inside
    simpa using ne_of_mem_of_not_mem inside h
  rw [redactUser, none]

theorem redactUser_append (h : ':' ∉ user) :
    redactUser (user ++ ':' :: password) = user ++ ':' :: hidden := by
  have plain : ∀ c ∈ user, (c != ':') = true := fun c inside => by
    simpa using ne_of_mem_of_not_mem inside h
  rw [redactUser, List.dropWhile_append_of_pos plain, List.takeWhile_append_of_pos plain]
  simp

theorem hidden_free : ∀ c ∈ hidden, endsAuthority c = false := by
  have stays : hidden.all (!endsAuthority ·) = true := rfl
  simpa using List.all_eq_true.1 stays

end Parts

/-- A scheme without a mark in it, an authority that nothing ends, and what comes after it. -/
structure Address where
  scheme : List Char
  authority : List Char
  tail : List Char
  scheme_free : ¬mark <:+: scheme
  authority_free : ∀ c ∈ authority, endsAuthority c = false
  tail_ends : ∀ c ∈ tail.head?, endsAuthority c = true

namespace Address

variable {address : Address} {user secret host dsn : List Char}

def text (address : Address) : List Char :=
  address.scheme ++ mark ++ (address.authority ++ address.tail)

/-- There is no `@` in the authority, or no `:` before the last one. -/
def IsPlain (address : Address) : Prop :=
  '@' ∉ address.authority ∨
    ∃ user host, address.authority = user ++ '@' :: host ∧ '@' ∉ host ∧ ':' ∉ user

/-- A secret that stands between the first `:` of the authority and its last `@`. -/
structure Hides (address : Address) (user secret host : List Char) : Prop where
  authority_eq : address.authority = user ++ ':' :: secret ++ '@' :: host
  user_free : ':' ∉ user
  host_free : '@' ∉ host

theorem exists_of_mark (h : mark <:+: dsn) : ∃ address : Address, dsn = address.text := by
  obtain ⟨scheme, rest, rfl, free⟩ := exists_scheme h
  refine ⟨⟨scheme, rest.takeWhile (!endsAuthority ·), rest.dropWhile (!endsAuthority ·), free,
    fun c inside => by simpa using List.mem_takeWhile_imp inside, fun c first => ?_⟩, ?_⟩
  · have := List.head?_dropWhile_not (!endsAuthority ·) rest
    rw [Option.mem_def.1 first] at this
    simpa using this
  · rw [text, List.takeWhile_append_dropWhile]

theorem plain_or_hides (address : Address) :
    address.IsPlain ∨ ∃ user secret host, address.Hides user secret host := by
  by_cases at? : '@' ∈ address.authority
  · obtain ⟨before, host, same, hostFree⟩ := exists_user at?
    by_cases colon : ':' ∈ before
    · obtain ⟨user, secret, rfl, userFree⟩ := List.eq_append_cons_of_mem colon
      exact .inr ⟨user, secret, host, same, userFree, hostFree⟩
    · exact .inl (.inr ⟨before, host, same, hostFree, colon⟩)
  · exact .inl (.inl at?)

theorem authority_of_rest (address : Address) :
    (address.authority ++ address.tail).takeWhile (!endsAuthority ·) = address.authority := by
  have stop : address.tail.takeWhile (!endsAuthority ·) = [] := by
    rcases same : address.tail with _ | ⟨c, rest⟩
    · rfl
    · exact List.takeWhile_cons_of_neg (by simp [address.tail_ends c (by simp [same])])
  rw [List.takeWhile_append_of_pos fun c inside => by simp [address.authority_free c inside],
    stop, List.append_nil]

theorem tail_of_rest (address : Address) :
    (address.authority ++ address.tail).dropWhile (!endsAuthority ·) = address.tail := by
  have whole := List.takeWhile_append_dropWhile (p := (!endsAuthority ·))
    (l := address.authority ++ address.tail)
  rw [address.authority_of_rest] at whole
  exact List.append_cancel_left whole

theorem redactChars_text (address : Address) :
    redactChars address.text = match splitUser address.authority with
      | none => address.text
      | some (user, host) => address.scheme ++ mark ++ redactUser user ++ host ++ address.tail := by
  rw [redactChars, text, splitScheme_append address.scheme_free]
  simp only [address.authority_of_rest, address.tail_of_rest]
  rfl

theorem redactChars_plain (h : address.IsPlain) : redactChars address.text = address.text := by
  rw [redactChars_text]
  rcases h with noUser | ⟨user, host, same, hostFree, userFree⟩
  · rw [splitUser_eq_none noUser]
  · rw [same, splitUser_append hostFree, text, same]
    simp [redactUser_of_not_mem userFree]

theorem redactChars_hides (h : address.Hides user secret host) :
    redactChars address.text =
      address.scheme ++ mark ++ user ++ [':'] ++ hidden ++ ('@' :: host ++ address.tail) := by
  rw [redactChars_text, h.authority_eq, splitUser_append h.host_free]
  simp [redactUser_append h.user_free]

theorem text_eq_of_hides (h : address.Hides user secret host) :
    address.text =
      address.scheme ++ mark ++ user ++ [':'] ++ secret ++ ('@' :: host ++ address.tail) := by
  rw [text, h.authority_eq]
  simp

/-- What is shown of an address that hides a secret. -/
def shown (address : Address) (h : address.Hides user secret host) : Address where
  scheme := address.scheme
  authority := user ++ ':' :: hidden ++ '@' :: host
  tail := address.tail
  scheme_free := address.scheme_free
  authority_free := by
    have free := address.authority_free
    simp only [h.authority_eq, List.mem_append, List.mem_cons] at free ⊢
    rintro c ((inUser | rfl | inHidden) | inHost)
    · exact free c (.inl (.inl inUser))
    · rfl
    · exact hidden_free c inHidden
    · exact free c (.inr inHost)
  tail_ends := address.tail_ends

theorem hides_shown (h : address.Hides user secret host) :
    (address.shown h).Hides user hidden host := ⟨rfl, h.user_free, h.host_free⟩

theorem text_shown (h : address.Hides user secret host) :
    (address.shown h).text = redactChars address.text := by
  rw [text_eq_of_hides (hides_shown h), redactChars_hides h]
  rfl

theorem redactChars_eq_self_iff (address : Address) :
    redactChars address.text = address.text ↔
      address.IsPlain ∨ ∃ user host, address.Hides user hidden host := by
  constructor
  · intro same
    rcases address.plain_or_hides with plain | ⟨user, secret, host, hides⟩
    · exact .inl plain
    · rw [redactChars_hides hides, text_eq_of_hides hides] at same
      obtain rfl : hidden = secret :=
        List.append_cancel_left (List.append_cancel_right same)
      exact .inr ⟨user, host, hides⟩
  · rintro (plain | ⟨user, host, hides⟩)
    · exact redactChars_plain plain
    · rw [redactChars_hides hides, text_eq_of_hides hides]

end Address

theorem redactChars_of_no_mark {dsn : List Char} (h : ¬mark <:+: dsn) :
    redactChars dsn = hidden := by
  rw [redactChars, splitScheme_eq_none h]

theorem redactChars_redactChars (dsn : List Char) :
    redactChars (redactChars dsn) = redactChars dsn := by
  by_cases marked : mark <:+: dsn
  · obtain ⟨address, rfl⟩ := Address.exists_of_mark marked
    rcases address.plain_or_hides with plain | ⟨user, secret, host, hides⟩
    · rw [address.redactChars_plain plain, address.redactChars_plain plain]
    · rw [← Address.text_shown hides]
      exact (Address.redactChars_eq_self_iff _).2 (.inr ⟨user, host, Address.hides_shown hides⟩)
  · rw [redactChars_of_no_mark marked]
    rfl

section Offsets

/-- How many bytes a text takes in UTF-8. -/
def byteLength : List Char → Nat
  | [] => 0
  | c :: rest => c.utf8Size + byteLength rest

/-- The offset in bytes of the first character that passes a test. -/
def offset? (test : Char → Bool) : List Char → Option Nat
  | [] => none
  | c :: rest => if test c then some 0 else (offset? test rest).map (c.utf8Size + ·)

/-- The offset in bytes of the last character that passes a test. -/
def lastOffset? (test : Char → Bool) : List Char → Option Nat
  | [] => none
  | c :: rest =>
    match lastOffset? test rest with
    | some offset => some (c.utf8Size + offset)
    | none => if test c then some 0 else none

/-- A text up to an offset and from it on. There is no such cut inside a character or past the
end. -/
def cutAt? : Nat → List Char → Option (List Char × List Char)
  | 0, text => some ([], text)
  | _ + 1, [] => none
  | n + 1, c :: rest =>
    if c.utf8Size ≤ n + 1 then
      (cutAt? (n + 1 - c.utf8Size) rest).map fun (before, after) => (c :: before, after)
    else none

/-- An address as it is shown, cut at offsets of bytes. -/
def redactAtOffsets? (dsn : List Char) : Option (List Char) :=
  match splitScheme dsn with
  | none => some hidden
  | some (scheme, rest) => do
    let (authority, _) ← cutAt? ((offset? endsAuthority rest).getD (byteLength rest)) rest
    match lastOffset? (· == '@') authority with
    | none => return dsn
    | some offset =>
      let (user, after) ← cutAt? offset rest
      return scheme ++ mark ++ redactUser user ++ after

theorem offset?_getD (test : Char → Bool) (text : List Char) :
    (offset? test text).getD (byteLength text) = byteLength (text.takeWhile (!test ·)) := by
  induction text with
  | nil => rfl
  | cons c rest ih =>
    rw [offset?, List.takeWhile_cons]
    cases found : test c
    · cases e : offset? test rest <;> simp_all [byteLength]
    · rfl

theorem lastOffset?_at (text : List Char) :
    lastOffset? (· == '@') text = (splitUser text).map fun (user, _) => byteLength user := by
  induction text with
  | nil => rfl
  | cons c rest ih =>
    rw [lastOffset?, splitUser, ih]
    rcases splitUser rest with _ | ⟨user, host⟩
    · by_cases same : c = '@' <;> simp [same, byteLength]
    · simp [byteLength]

/-- A cut where a part of a text ends is inside no character. -/
theorem cutAt?_byteLength (before after : List Char) :
    cutAt? (byteLength before) (before ++ after) = some (before, after) := by
  induction before with
  | nil => rw [List.nil_append, byteLength, cutAt?]
  | cons c before ih =>
    have sum : byteLength (c :: before) = c.utf8Size + byteLength before := rfl
    have positive : 0 < c.utf8Size := c.utf8Size_pos
    obtain ⟨n, length⟩ : ∃ n, byteLength (c :: before) = n + 1 :=
      Nat.exists_eq_add_one.2 (by omega)
    have left : n + 1 - c.utf8Size = byteLength before := by omega
    rw [length, List.cons_append, cutAt?, if_pos (by omega), left, ih]
    rfl

/-- To cut an address at its offsets always succeeds and gives what is shown. -/
theorem redactAtOffsets?_eq (dsn : List Char) : redactAtOffsets? dsn = some (redactChars dsn) := by
  by_cases marked : mark <:+: dsn
  · obtain ⟨address, rfl⟩ := Address.exists_of_mark marked
    rw [Address.redactChars_text, redactAtOffsets?, Address.text,
      splitScheme_append address.scheme_free]
    simp only [offset?_getD, address.authority_of_rest, cutAt?_byteLength, lastOffset?_at,
      Option.bind_eq_bind, Option.bind_some]
    by_cases named : '@' ∈ address.authority
    · obtain ⟨user, host, same, hostFree⟩ := exists_user named
      have rest : address.authority ++ address.tail = user ++ ('@' :: host ++ address.tail) := by
        simp [same]
      rw [rest, same, splitUser_append hostFree]
      simp [cutAt?_byteLength]
    · rw [splitUser_eq_none named]
      rfl
  · rw [redactAtOffsets?, splitScheme_eq_none marked, redactChars_of_no_mark marked]

end Offsets

theorem toList_redact (dsn : String) : (redact dsn).toList = redactChars dsn.toList :=
  String.toList_ofList

theorem redact_eq_iff (dsn : String) : redact dsn = dsn ↔ redactChars dsn.toList = dsn.toList := by
  rw [← toList_redact, String.toList_inj]

/-- A text without `://` is hidden. Any other one is an address. Either all of it is shown, or what
stands between the first `:` of its authority and the last `@` there is hidden and all around that is
shown. All of it is shown exactly if there is no such part, or if that is the word for what is hidden
already. What is shown does not change if it is shown again, and it is cut at offsets of bytes that
are inside no character. -/
theorem redact_touches_one_part (dsn : String) :
    redact (redact dsn) = redact dsn ∧
      (¬mark <:+: dsn.toList → redact dsn = "[REDACTED]") ∧
      (mark <:+: dsn.toList ↔ ∃ address : Address, dsn.toList = address.text) ∧
      (∀ address : Address, dsn.toList = address.text →
        (redact dsn = dsn ∨ ∃ user secret host, address.Hides user secret host ∧
          let before := address.scheme ++ mark ++ user ++ [':']
          let after := '@' :: host ++ address.tail
          dsn.toList = before ++ secret ++ after ∧
            (redact dsn).toList = before ++ hidden ++ after) ∧
        (redact dsn = dsn ↔ address.IsPlain ∨ ∃ user host, address.Hides user hidden host)) ∧
      redactAtOffsets? dsn.toList = some (redact dsn).toList := by
  refine ⟨?again, ?unmarked, ?marked, fun address same => ⟨?one, ?shown⟩, ?offsets⟩
  case again =>
    rw [redact_eq_iff, toList_redact]
    exact redactChars_redactChars dsn.toList
  case unmarked =>
    intro unmarked
    rw [redact, redactChars_of_no_mark unmarked]
    rfl
  case marked =>
    refine ⟨Address.exists_of_mark, ?_⟩
    rintro ⟨address, same⟩
    exact ⟨address.scheme, address.authority ++ address.tail, same.symm⟩
  case one =>
    rcases address.plain_or_hides with plain | ⟨user, secret, host, hides⟩
    · left
      rw [redact_eq_iff, same]
      exact Address.redactChars_plain plain
    · right
      refine ⟨user, secret, host, hides, ?_, ?_⟩
      · rw [same]
        exact Address.text_eq_of_hides hides
      · rw [toList_redact, same]
        exact Address.redactChars_hides hides
  case shown =>
    rw [redact_eq_iff, same]
    exact address.redactChars_eq_self_iff
  case offsets =>
    rw [toList_redact]
    exact redactAtOffsets?_eq dsn.toList

section Sample

/-- An address whose password has a character of two bytes, a `:` and an `@` in it. -/
def sampleAddress : Address where
  scheme := "mysql".toList
  authority := "app:pä:s@s@db:3306".toList
  tail := "/users".toList
  scheme_free := by decide
  authority_free := by simp [endsAuthority]
  tail_ends := by simp [endsAuthority]

/-- A text that is no address is hidden. Of an address the password is, up to the last `@`. -/
theorem redact_touches_one_part_sample :
    redact "app:secret@db" = "[REDACTED]" ∧
      redact "mysql://app:pä:s@s@db:3306/users" ≠ "mysql://app:pä:s@s@db:3306/users" ∧
      ∃ user secret host, sampleAddress.Hides user secret host ∧
        (redact "mysql://app:pä:s@s@db:3306/users").toList =
          "mysql://".toList ++ user ++ [':'] ++ hidden ++ ('@' :: host ++ "/users".toList) := by
  obtain ⟨-, unmarked, -⟩ := redact_touches_one_part "app:secret@db"
  obtain ⟨-, -, -, parts, -⟩ := redact_touches_one_part "mysql://app:pä:s@s@db:3306/users"
  obtain ⟨one, -⟩ := parts sampleAddress rfl
  have changed : redact "mysql://app:pä:s@s@db:3306/users" ≠ "mysql://app:pä:s@s@db:3306/users" := by
    rw [Ne, redact_eq_iff]
    decide
  obtain ⟨user, secret, host, hides, -, shown⟩ := one.resolve_left changed
  exact ⟨unmarked (by decide), changed, user, secret, host, hides, shown⟩

end Sample

end Dsn

end SignIn
