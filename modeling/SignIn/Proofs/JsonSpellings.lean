import Mathlib.Data.List.Forall2
import Mathlib.Data.List.Nodup
import Mathlib.Tactic.SplitIfs
import SignIn.Json.Texts
import SignIn.Proofs.CharBytes
import SignIn.Text.Split

/-!
# JSON in any spelling

One record of texts has many JSON texts: its members may come in any order, with blanks around all
their parts, and a character of a text may be written as itself, as a letter after a backslash, or
as its number in hexadecimal digits of either case, in two halves where it takes more than four
digits (`Json.Spells`). All of them read back as the record (`readRecord_spelled`).

Each reader is told what to expect behind the blanks, and gives what was spelled and what follows it
(`Json.Gives`).
-/

namespace SignIn

namespace Json

open Utf8

/-- White space between the parts of a JSON text. -/
def IsBlanks (cs : List Char) : Prop := ∀ c ∈ cs, c ∈ [' ', '\n', '\t', '\r']

theorem isBlanks_nil : IsBlanks [] := List.forall_mem_nil _

/-- The letters after a backslash, with the characters for which they stand. -/
def letterEscapes : List (Char × Char) :=
  [('\x22', '\x22'), ('\\', '\\'), ('/', '/'), ('b', '\x08'), ('f', '\x0c'), ('n', '\n'),
    ('r', '\r'), ('t', '\t')]

/-- Four hexadecimal digits of either case, with the number that they are. -/
def IsUnit (unit : Nat) (digits : List Char) : Prop :=
  ∃ i j k l, digits.map Hex.value? = [some i, some j, some k, some l] ∧
    unit = 4096 * i + 256 * j + 16 * k + l

/-- The ways to write a character inside a text. -/
inductive Spells (c : Char) : List Char → Prop
  | plain (printed : 0x20 ≤ c.toNat) (quote : c ≠ '\x22') (slash : c ≠ '\\') : Spells c [c]
  | letter {letter : Char} (listed : (letter, c) ∈ letterEscapes) : Spells c ['\\', letter]
  | unit {digits : List Char} (number : IsUnit c.toNat digits) : Spells c ('\\' :: 'u' :: digits)
  | pair {high low : Nat} {digits digits' : List Char} (first : IsUnit high digits)
      (second : IsUnit low digits') (highRange : 0xd800 ≤ high ∧ high ≤ 0xdbff)
      (lowRange : 0xdc00 ≤ low ∧ low ≤ 0xdfff)
      (number : c.toNat = 0x10000 + 1024 * (high - 0xd800) + (low - 0xdc00)) :
      Spells c ('\\' :: 'u' :: (digits ++ '\\' :: 'u' :: digits'))

/-- A text between quotation marks. -/
def IsText (text : String) (cs : List Char) : Prop :=
  ∃ parts, List.Forall₂ Spells text.toList parts ∧ cs = '\x22' :: (parts.flatten ++ ['\x22'])

/-- A name and a text as a member of an object. -/
def IsMember (member : String × String) (cs : List Char) : Prop :=
  ∃ name value before between afterColon after, IsText member.1 name ∧ IsText member.2 value ∧
    IsBlanks before ∧ IsBlanks between ∧ IsBlanks afterColon ∧ IsBlanks after ∧
    cs = before ++ (name ++ (between ++ ':' :: (afterColon ++ (value ++ after))))

/-- An object with these members in this order. -/
def IsObject (members : List (String × String)) (cs : List Char) : Prop :=
  ∃ parts before after, List.Forall₂ IsMember members parts ∧ IsBlanks before ∧ IsBlanks after ∧
    cs = before ++ '\x7b' :: (Text.join ',' parts ++ '\x7d' :: after)

variable {α : Type} {s rest : List UInt8}

/-- What a reader has read, and what it leaves. -/
def Gives (result : Except Fault (α × Shorter s)) (a : α) (rest : List UInt8) : Prop :=
  ∃ left, result = .ok (a, left) ∧ left.1 = rest

theorem gives_end (rest : List UInt8) : Gives (readTextBytes (0x22 :: rest)) [] rest := by
  refine ⟨.tail _ rest, ?_, rfl⟩
  rw [readTextBytes]
  rfl

variable {bytes more : List UInt8} {b : UInt8}

theorem Gives.plain (h : Gives (readTextBytes s) more rest) (quote : b ≠ 0x22) (slash : b ≠ 0x5c)
    (control : ¬b < 0x20) : Gives (readTextBytes (b :: s)) (b :: more) rest := by
  obtain ⟨left, read, rfl⟩ := h
  refine ⟨left.after b, ?_, rfl⟩
  rw [readTextBytes, if_neg quote, if_neg slash, if_neg control, read]

theorem Gives.escape {s' : List UInt8} (h : Gives (readTextBytes s') more rest)
    (escape : Gives (readEscape s) bytes s') :
    Gives (readTextBytes (0x5c :: s)) (bytes ++ more) rest := by
  obtain ⟨mid, read, rfl⟩ := escape
  obtain ⟨left, read', rfl⟩ := h
  refine ⟨(mid.trans left).after _, ?_, rfl⟩
  rw [readTextBytes, if_neg (by decide), if_pos rfl, read]
  simp only [read']

theorem Gives.plains {now : List UInt8} (h : Gives (readTextBytes s) more rest)
    (plain : ∀ b ∈ now, b ≠ 0x22 ∧ b ≠ 0x5c ∧ ¬b < 0x20) :
    Gives (readTextBytes (now ++ s)) (now ++ more) rest := by
  induction now with
  | nil => exact h
  | cons b now ih =>
    rw [List.forall_mem_cons] at plain
    exact (ih plain.2).plain plain.1.1 plain.1.2.1 plain.1.2.2

theorem gives_simpleEscape {c : UInt8} (h : simpleEscape b = some c) (s : List UInt8) :
    Gives (readEscape (b :: s)) [c] s := by
  have ne : b ≠ 0x75 := by
    rintro rfl
    cases h
  refine ⟨.tail b s, ?_, rfl⟩
  rw [readEscape]
  · rw [h]
  · exact ne

section Units

variable {unit high low : Nat} {digits digits' : List Char} {c : Char}

theorem hexDigit_byte {n : Nat} (h : Hex.value? c = some n) :
    c.toNat < 0x80 ∧ Char.ofNat (UInt8.ofNat c.toNat).toNat = c := by
  have small : c.toNat < 0x80 := by
    unfold Hex.value? at h
    split_ifs at h <;> omega
  have byte : (UInt8.ofNat c.toNat).toNat = c.toNat := by
    rw [UInt8.toNat_ofNat']
    omega
  rw [byte, Char.ofNat_toNat]
  exact ⟨small, rfl⟩

theorem gives_unit (h : IsUnit unit digits) (rest : List UInt8) :
    Gives (readUnit (encodeChars digits ++ rest)) unit rest := by
  obtain ⟨i, j, k, l, values, rfl⟩ := h
  rcases digits with _ | ⟨x, _ | ⟨y, _ | ⟨z, _ | ⟨w, _ | ⟨_, _⟩⟩⟩⟩⟩ <;>
    simp only [List.map_cons, List.map_nil, List.cons.injEq, reduceCtorEq, and_false] at values
  obtain ⟨hx, hy, hz, hw, -⟩ := values
  obtain ⟨smallX, backX⟩ := hexDigit_byte hx
  obtain ⟨smallY, backY⟩ := hexDigit_byte hy
  obtain ⟨smallZ, backZ⟩ := hexDigit_byte hz
  obtain ⟨smallW, backW⟩ := hexDigit_byte hw
  rw [encodeChars_of_lt smallX, encodeChars_of_lt smallY, encodeChars_of_lt smallZ,
    encodeChars_of_lt smallW]
  refine ⟨(((Shorter.tail _ rest).after _).after _).after _, ?_, rfl⟩
  simp only [List.cons_append, encodeChars_nil, List.nil_append, readUnit, backX, backY, backZ,
    backW, hx, hy, hz, hw]

theorem charBytes_toNat (c : Char) : charBytes c.toNat = String.utf8EncodeChar c := by
  rw [charBytes, Char.ofNat_toNat, encode_eq]
  simp [encodeChars]

theorem not_surrogate (c : Char) : c.toNat < 0xd800 ∨ 0xdfff < c.toNat := by
  rcases c.valid with low | high
  · exact .inl low
  · exact .inr high.1

theorem gives_unitEscape (number : IsUnit c.toNat digits) (s : List UInt8) :
    Gives (readEscape (0x75 :: (encodeChars digits ++ s))) (String.utf8EncodeChar c) s := by
  obtain ⟨left, read, same⟩ := gives_unit number s
  -- No character has the number of half a pair, so the four digits are taken for all of it.
  have whole := not_surrogate c
  refine ⟨left.after 0x75, ?_, same⟩
  rw [readEscape, read]
  simp only
  rw [if_neg (by omega), if_neg (by omega), charBytes_toNat]

theorem gives_trail (second : IsUnit low digits) (lowRange : 0xdc00 ≤ low ∧ low ≤ 0xdfff)
    (s : List UInt8) : Gives (readTrail (0x5c :: 0x75 :: (encodeChars digits ++ s))) low s := by
  obtain ⟨left, read, same⟩ := gives_unit second s
  refine ⟨(left.after 0x75).after 0x5c, ?_, same⟩
  rw [readTrail, read]
  exact if_pos lowRange

theorem gives_pairEscape (first : IsUnit high digits) (second : IsUnit low digits')
    (highRange : 0xd800 ≤ high ∧ high ≤ 0xdbff) (lowRange : 0xdc00 ≤ low ∧ low ≤ 0xdfff)
    (number : c.toNat = 0x10000 + 1024 * (high - 0xd800) + (low - 0xdc00)) (s : List UInt8) :
    Gives (readEscape (0x75 :: (encodeChars digits ++ 0x5c :: 0x75 :: (encodeChars digits' ++ s))))
      (String.utf8EncodeChar c) s := by
  obtain ⟨left, read, same⟩ := gives_unit first (0x5c :: 0x75 :: (encodeChars digits' ++ s))
  obtain ⟨last, readLast, sameLast⟩ : Gives (readTrail left.1) low s := by
    rw [same]
    exact gives_trail second lowRange s
  refine ⟨(left.trans last).after 0x75, ?_, sameLast⟩
  rw [readEscape, read]
  simp only
  rw [if_neg (by omega), if_pos highRange, readLast]
  simp only
  rw [← number, charBytes_toNat]

end Units

section Texts

variable {c : Char} {cs : List Char} {text : String}

theorem letter_bytes : ∀ escape ∈ letterEscapes, escape.1.toNat < 0x80 ∧ escape.2.toNat < 0x80 ∧
    simpleEscape (UInt8.ofNat escape.1.toNat) = some (UInt8.ofNat escape.2.toNat) := by
  decide

/-- A character that may stand as it is has no byte that ends a text, begins an escape or is
refused. -/
theorem plain_bytes (printed : 0x20 ≤ c.toNat) (quote : c ≠ '\x22') (slash : c ≠ '\\') :
    ∀ b ∈ String.utf8EncodeChar c, b ≠ 0x22 ∧ b ≠ 0x5c ∧ ¬b < 0x20 := by
  intro b hb
  -- One byte is the number of the character; of more bytes none is below 0x80.
  rcases Nat.lt_or_ge c.toNat 0x80 with small | large
  · rw [utf8EncodeChar_of_lt small, List.mem_singleton] at hb
    subst hb
    have code : (UInt8.ofNat c.toNat).toNat = c.toNat := by simp; omega
    refine ⟨fun eq => quote ?_, fun eq => slash ?_, fun lt => ?_⟩
    · exact Char.toNat_inj.1 (code.symm.trans (congrArg UInt8.toNat eq))
    · exact Char.toNat_inj.1 (code.symm.trans (congrArg UInt8.toNat eq))
    · rw [UInt8.lt_iff_toNat_lt, code] at lt
      exact Nat.not_lt.2 printed lt
  · have := UInt8.le_iff_toNat_le.1 (utf8EncodeChar_ge large hb)
    refine ⟨?_, ?_, fun lt => ?_⟩
    · rintro rfl
      contradiction
    · rintro rfl
      contradiction
    · have := UInt8.lt_iff_toNat_lt.1 lt
      simp at *
      omega

/-- However a character is spelled inside a text, it is read as its bytes. -/
theorem Gives.char (h : Gives (readTextBytes s) more rest) (spelled : Spells c cs) :
    Gives (readTextBytes (encodeChars cs ++ s)) (String.utf8EncodeChar c ++ more) rest := by
  cases spelled with
  | plain printed quote slash =>
    rw [encodeChars_cons, encodeChars_nil, List.append_nil]
    exact h.plains (plain_bytes printed quote slash)
  | letter listed =>
    obtain ⟨small, smallChar, simple⟩ := letter_bytes _ listed
    rw [encodeChars_of_lt (by decide), encodeChars_of_lt small, utf8EncodeChar_of_lt smallChar]
    exact h.escape (gives_simpleEscape simple s)
  | unit number =>
    rw [encodeChars_of_lt (by decide), encodeChars_of_lt (by decide)]
    exact h.escape (gives_unitEscape number s)
  | @pair high low digits digits' first second highRange lowRange number =>
    have bytes : encodeChars ('\\' :: 'u' :: (digits ++ '\\' :: 'u' :: digits')) ++ s =
        0x5c :: 0x75 :: (encodeChars digits ++ 0x5c :: 0x75 :: (encodeChars digits' ++ s)) := by
      rw [encodeChars_of_lt (by decide), encodeChars_of_lt (by decide), encodeChars_append,
        encodeChars_of_lt (by decide), encodeChars_of_lt (by decide)]
      simp only [List.cons_append, List.append_assoc]
      rfl
    rw [bytes]
    exact h.escape (gives_pairEscape first second highRange lowRange number s)

theorem gives_chars {cs : List Char} {parts : List (List Char)} (h : List.Forall₂ Spells cs parts)
    (rest : List UInt8) :
    Gives (readTextBytes (encodeChars parts.flatten ++ 0x22 :: rest)) (encodeChars cs) rest := by
  induction h with
  | nil => exact gives_end rest
  | cons spelled _ ih =>
    rw [List.flatten_cons, encodeChars_append, List.append_assoc, encodeChars_cons]
    exact ih.char spelled

theorem IsText.gives (h : IsText text cs) (rest : List UInt8) : ∃ inside,
    encodeChars cs ++ rest = 0x22 :: inside ∧ Gives (readText inside) text rest := by
  obtain ⟨parts, spelled, rfl⟩ := h
  obtain ⟨left, read, same⟩ := gives_chars spelled rest
  refine ⟨encodeChars parts.flatten ++ 0x22 :: rest, ?_, left, ?_, same⟩
  · rw [encodeChars_of_lt (by decide), encodeChars_append, List.cons_append, List.append_assoc]
    rfl
  · rw [readText, read]
    simp only
    rw [← encode_eq, decode_encode]

end Texts

section Blanks

variable {cs : List Char}

theorem isBlank_byte {c : Char} (h : c ∈ [' ', '\n', '\t', '\r']) :
    c.toNat < 0x80 ∧ isBlank (UInt8.ofNat c.toNat) = true := by
  simp only [List.mem_cons, List.not_mem_nil, or_false] at h
  rcases h with rfl | rfl | rfl | rfl <;> decide

theorem skipBlanks_blanks (h : IsBlanks cs) (s : List UInt8) :
    skipBlanks (encodeChars cs ++ s) = skipBlanks s := by
  induction cs with
  | nil => rfl
  | cons c cs ih =>
    obtain ⟨blank, blanks⟩ := List.forall_mem_cons.1 h
    obtain ⟨small, isBlank⟩ := isBlank_byte blank
    rw [encodeChars_of_lt small, List.cons_append, skipBlanks, List.dropWhile_cons_of_pos isBlank]
    exact ih blanks

theorem skipBlanks_cons (h : isBlank b = false) (s : List UInt8) :
    skipBlanks (b :: s) = b :: s := by
  simp [skipBlanks, h]

/-- Behind blanks stands what is no blank. -/
theorem skipBlanks_token (h : IsBlanks cs) (token : isBlank b = false) (s : List UInt8) :
    skipBlanks (encodeChars cs ++ b :: s) = b :: s := by
  rw [skipBlanks_blanks h, skipBlanks_cons token]

end Blanks

section Members

variable {text : String} {member : String × String} {members : List (String × String)}
  {parts : List (List Char)}

theorem readTextValue_text (front : skipBlanks s = 0x22 :: bytes)
    (h : Gives (readText bytes) text rest) : Gives (readTextValue s) text rest := by
  obtain ⟨left, read, same⟩ := h
  unfold readTextValue
  split
  · rename_i eq
    cases front.symm.trans eq
  · rename_i eq
    cases front.symm.trans eq
    rw [if_pos rfl, read]
    exact ⟨_, rfl, same⟩

theorem readColon_colon (front : skipBlanks s = 0x3a :: rest) :
    ∃ left, readColon s = .ok left ∧ left.1 = rest := by
  unfold readColon
  split
  · rename_i eq
    cases front.symm.trans eq
  · rename_i eq
    cases front.symm.trans eq
    exact ⟨_, rfl, rfl⟩

/-- The key of a member comes next: behind a comma, unless it is the first one. -/
def KeyNext (isFirst : Bool) (s rest : List UInt8) : Prop :=
  if isFirst then skipBlanks s = 0x22 :: rest
  else ∃ mid, skipBlanks s = 0x2c :: mid ∧ skipBlanks mid = 0x22 :: rest

theorem readMemberStart_key {isFirst : Bool} (next : KeyNext isFirst s rest) :
    ∃ left, readMemberStart isFirst s = .ok (some left) ∧ left.1 = rest := by
  unfold readMemberStart
  rcases isFirst with _ | _
  · obtain ⟨mid, comma, quote⟩ := next
    split
    · rename_i eq
      cases comma.symm.trans eq
    rename_i eq
    cases comma.symm.trans eq
    rw [if_neg (by decide), if_neg (by decide), if_pos rfl]
    split
    · rename_i eq'
      cases quote.symm.trans eq'
    · rename_i eq'
      cases quote.symm.trans eq'
      exact ⟨_, rfl, rfl⟩
  · have quote : skipBlanks s = 0x22 :: rest := next
    split
    · rename_i eq
      cases quote.symm.trans eq
    · rename_i eq
      cases quote.symm.trans eq
      exact ⟨_, rfl, rfl⟩

theorem readMembers_end {known : List String} {isFirst : Bool} {seen : List (String × String)}
    (front : skipBlanks s = 0x7d :: rest) : readMembers known isFirst seen s = .ok (seen, s) := by
  have none : readMemberStart isFirst s = .ok none := by
    unfold readMemberStart
    split
    · rename_i eq
      cases front.symm.trans eq
    · rename_i eq
      cases front.symm.trans eq
      rfl
  rw [readMembers, none]
  rfl

/-- A member whose key is known and was not seen before is kept. -/
theorem readMembers_member {known : List String} {seen : List (String × String)} {isFirst : Bool}
    {inside colon start : List UInt8} (next : KeyNext isFirst s inside)
    (key : Gives (readText inside) member.1 colon) (front : skipBlanks colon = 0x3a :: start)
    (value : Gives (readTextValue start) member.2 rest) (isKnown : member.1 ∈ known)
    (isNew : member.1 ∉ seen.map Prod.fst) :
    readMembers known isFirst seen s = readMembers known false (member :: seen) rest := by
  obtain ⟨first, read, rfl⟩ := readMemberStart_key next
  obtain ⟨afterKey, readKey, rfl⟩ := key
  obtain ⟨afterColon, readColon, rfl⟩ := readColon_colon front
  obtain ⟨left, readValue, rfl⟩ := value
  have known' : known.contains member.1 = true := by simpa using isKnown
  have new : (seen.lookup member.1).isSome = false := by
    rw [Option.isSome_eq_false_iff, Option.isNone_iff_eq_none, List.lookup_eq_none_iff]
    intro other h
    exact bne_iff_ne.2 fun eq => isNew (List.mem_map.2 ⟨other, h, eq.symm⟩)
  rw [readMembers, read]
  simp only [bind, Except.bind, readKey, known', new, readColon, readValue]
  rfl

theorem IsMember.reads {cs : List Char} (h : IsMember member cs) (rest : List UInt8) :
    ∃ inside colon start after, skipBlanks (encodeChars cs ++ rest) = 0x22 :: inside ∧
      Gives (readText inside) member.1 colon ∧ skipBlanks colon = 0x3a :: start ∧
      Gives (readTextValue start) member.2 (encodeChars after ++ rest) ∧ IsBlanks after := by
  obtain ⟨name, value, before, between, afterColon, after, isName, isValue, blanks, blanks',
    blanks'', last, rfl⟩ := h
  obtain ⟨valueInside, valueBytes, readValue⟩ := isValue.gives (encodeChars after ++ rest)
  obtain ⟨inside, nameBytes, readName⟩ := isName.gives (encodeChars between ++ 0x3a ::
    (encodeChars afterColon ++ (encodeChars value ++ (encodeChars after ++ rest))))
  refine ⟨inside, _, _, after, ?_, readName, skipBlanks_token blanks' (by decide) _, ?_, last⟩
  · have bytes : encodeChars (before ++ (name ++ (between ++ ':' :: (afterColon ++
        (value ++ after))))) ++ rest = encodeChars before ++ 0x22 :: inside := by
      simp only [encodeChars_append, encodeChars_of_lt (show ':'.toNat < 0x80 by decide),
        List.append_assoc, List.cons_append, ← nameBytes]
      rfl
    rw [bytes, skipBlanks_token blanks (by decide)]
  · refine readTextValue_text ?_ readValue
    rw [valueBytes, skipBlanks_token blanks'' (by decide)]

/-- Members one after the other, with a comma before each but the first. -/
def partsBytes : Bool → List (List Char) → List UInt8
  | _, [] => []
  | true, part :: parts => encodeChars part ++ partsBytes false parts
  | false, part :: parts => 0x2c :: (encodeChars part ++ partsBytes false parts)

theorem encodeChars_join (parts : List (List Char)) :
    encodeChars (Text.join ',' parts) = partsBytes true parts := by
  induction parts with
  | nil => rfl
  | cons part parts ih =>
    rcases parts with _ | ⟨next, parts⟩
    · exact (List.append_nil _).symm
    · rw [Text.join, encodeChars_append, encodeChars_of_lt (by decide), ih]
      · rfl
      · simp

theorem readMembers_parts {known : List String} (spelled : List.Forall₂ IsMember members parts)
    (isFirst : Bool) {gap : List Char} (blank : IsBlanks gap) {seen : List (String × String)}
    (isKnown : ∀ member ∈ members, member.1 ∈ known) (nodup : (members.map Prod.fst).Nodup)
    (isNew : ∀ member ∈ members, member.1 ∉ seen.map Prod.fst) (rest : List UInt8) :
    ∃ left, readMembers known isFirst seen
        (encodeChars gap ++ (partsBytes isFirst parts ++ 0x7d :: rest)) =
          .ok (members.reverse ++ seen, left) ∧ skipBlanks left = 0x7d :: rest := by
  -- On the members that are left; those that were read are gathered in reverse.
  induction spelled generalizing isFirst gap seen with
  | nil =>
    have front : skipBlanks (encodeChars gap ++ (partsBytes isFirst [] ++ 0x7d :: rest)) =
        0x7d :: rest := by
      rw [partsBytes]
      exact skipBlanks_token blank (by decide) rest
    exact ⟨_, readMembers_end front, front⟩
  | @cons member part members parts isMember _ ih =>
    rw [List.forall_mem_cons] at isKnown isNew
    rw [List.map_cons, List.nodup_cons] at nodup
    obtain ⟨inside, colon, start, after, front, key, colonNext, value, last⟩ :=
      isMember.reads (partsBytes false parts ++ 0x7d :: rest)
    have next : KeyNext isFirst
        (encodeChars gap ++ (partsBytes isFirst (part :: parts) ++ 0x7d :: rest)) inside := by
      rcases isFirst with _ | _
      · refine ⟨_, skipBlanks_token blank (by decide) _, ?_⟩
        exact (congrArg skipBlanks (List.append_assoc _ _ _)).trans front
      · change skipBlanks _ = _
        rw [skipBlanks_blanks blank, partsBytes, List.append_assoc, front]
    have isNew' : ∀ other ∈ members, other.1 ∉ (member :: seen).map Prod.fst := by
      intro other h
      rw [List.map_cons, List.mem_cons, not_or]
      refine ⟨fun eq => nodup.1 ?_, isNew.2 other h⟩
      exact eq ▸ List.mem_map_of_mem h
    obtain ⟨left, read, close⟩ := ih false last isKnown.2 nodup.2 isNew'
    refine ⟨left, ?_, close⟩
    rw [readMembers_member next key colonNext value isKnown.1 isNew.1, read]
    simp

end Members

theorem lookup_of_mem {members : List (String × String)} {key value : String}
    (hnodup : (members.map Prod.fst).Nodup) (h : (key, value) ∈ members) :
    members.lookup key = some value := by
  obtain ⟨before, after, rfl⟩ := List.append_of_mem h
  rw [List.lookup_eq_some_iff]
  refine ⟨before, after, rfl, fun member hmember => bne_iff_ne.2 fun eq => ?_⟩
  rw [List.map_append, List.nodup_append] at hnodup
  exact hnodup.2.2 _ (List.mem_map_of_mem hmember) key (by simp) eq.symm

theorem listMapM_ok {α β ε : Type} {f : α → Except ε β} {xs : List α} {ys : List β}
    (length : xs.length = ys.length) (h : ∀ pair ∈ xs.zip ys, f pair.1 = .ok pair.2) :
    xs.mapM f = .ok ys := by
  induction xs generalizing ys with
  | nil =>
    rw [List.length_eq_zero_iff.1 length.symm]
    rfl
  | cons x xs ih =>
    rcases ys with _ | ⟨y, ys⟩
    · cases length
    · rw [List.zip_cons_cons, List.forall_mem_cons] at h
      rw [List.mapM_cons, h.1, ih (Nat.succ.inj length) h.2]
      rfl

theorem mapM_ok {α β ε : Type} {n : Nat} {f : α → Except ε β} {xs : Vector α n} {ys : Vector β n}
    (h : ∀ pair ∈ xs.toList.zip ys.toList, f pair.1 = .ok pair.2) : xs.mapM f = .ok ys := by
  refine Vector.map_toArray_inj.1 ?_
  rw [Vector.toArray_mapM, Array.mapM_eq_mapM_toList]
  have read : xs.toArray.toList.mapM f = .ok ys.toList := listMapM_ok (by simp) h
  rw [read]
  rfl

section Records

variable {n : Nat} (shape : Shape n) (values : Vector String n)

/-- The fields of a record with their values. -/
def fieldsOf : List (String × String) := shape.fields.toList.zip values.toList

theorem fieldsOf_keys : (fieldsOf shape values).map Prod.fst = shape.fields.toList := by
  rw [fieldsOf, List.map_fst_zip]
  simp

variable {shape values} {members : List (String × String)} {parts : List (List Char)}

theorem readObject_parts (spelled : List.Forall₂ IsMember members parts)
    (order : members.Perm (fieldsOf shape values)) (nodup : shape.fields.toList.Nodup)
    (rest : List UInt8) :
    readObject shape (encodeChars (Text.join ',' parts) ++ 0x7d :: rest) = .ok (values, rest) := by
  have keys : (members.map Prod.fst).Perm shape.fields.toList :=
    fieldsOf_keys shape values ▸ order.map Prod.fst
  have nodup' : (members.map Prod.fst).Nodup := keys.nodup_iff.2 nodup
  obtain ⟨left, read, close⟩ : ∃ left, readMembers shape.fields.toList true []
      (encodeChars [] ++ (partsBytes true parts ++ 0x7d :: rest)) =
        .ok (members.reverse ++ [], left) ∧ skipBlanks left = 0x7d :: rest :=
    readMembers_parts spelled true isBlanks_nil
      (fun member h => keys.mem_iff.1 (List.mem_map_of_mem h)) nodup' (by simp) rest
  -- Each name stands there once, so it does not matter that the members were gathered in reverse.
  have found : ∀ pair ∈ fieldsOf shape values, members.reverse.lookup pair.1 = some pair.2 := by
    intro pair h
    refine lookup_of_mem ?_ (List.mem_reverse.2 (order.mem_iff.2 h))
    rw [List.map_reverse]
    exact List.nodup_reverse.2 nodup'
  rw [encodeChars_nil, List.nil_append, List.append_nil] at read
  rw [encodeChars_join, readObject, read]
  simp only [bind, Except.bind]
  rw [mapM_ok fun pair (h : pair ∈ shape.fields.toList.zip values.toList) => ?_]
  · rw [close]
    rfl
  · rw [found pair h]

/-- However the members of a record are ordered and spelled, the record reads back. -/
theorem readRecord_spelled {cs : List Char} (spelled : IsObject members cs)
    (order : members.Perm (fieldsOf shape values)) (nodup : shape.fields.toList.Nodup) :
    readRecord shape (encodeChars cs) = .ok values := by
  obtain ⟨parts, before, after, areMembers, blanks, blanks', rfl⟩ := spelled
  have bytes : encodeChars (before ++ '\x7b' :: (Text.join ',' parts ++ '\x7d' :: after)) =
      encodeChars before ++ 0x7b :: (encodeChars (Text.join ',' parts) ++
        0x7d :: encodeChars after) := by
    rw [encodeChars_append, encodeChars_of_lt (by decide), encodeChars_append,
      encodeChars_of_lt (by decide)]
    rfl
  have stops : readEnd (encodeChars after) = .ok () := by
    rw [← List.append_nil (encodeChars after)]
    unfold readEnd
    rw [skipBlanks_blanks blanks']
    rfl
  rw [bytes, readRecord, skipBlanks_token blanks (by decide)]
  simp only [bind, Except.bind]
  rw [readObject_parts areMembers order nodup]
  simp only [stops]
  rfl

end Records

end Json

end SignIn
