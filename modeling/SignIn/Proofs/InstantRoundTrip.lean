import Mathlib.Algebra.Group.Nat.Defs
import Mathlib.Data.List.Induction
import SignIn.Calendar.InstantText
import SignIn.Proofs.CalendarDays

/-!
# Moments that are written and read

A moment that is written reads back to the nanosecond, also inside a leap second and in a year
outside 0 to 9999, if its nanoseconds go past 10⁹ only at the end of a minute (`Instant.IsProper`).
The text has no other place for a leap second: nanoseconds past 10⁹ elsewhere are written, and read
back, as one second more (`Instant.carried`, `ofText?_text`). What is read from any text is proper
(`isProper_of_ofText?`), and stays so when time is added (`isProper_of_add?`).

Every part of the text is digits of a fixed count, up to a mark that is no digit; only a year after
a sign may be longer. So each reader takes exactly what was written for it, whatever follows
(`readNumber_padded`, `readField_padded`, `readYear_yearChars`, `readFraction_fractionChars`).
-/

namespace SignIn

namespace Text

theorem isDigit_of_mem_padded {width n : Nat} {c : Char} (h : c ∈ padded width n) :
    c.isDigit = true := by
  rcases List.mem_append.1 h with zero | digit
  · rw [List.eq_of_mem_replicate zero]
    rfl
  · exact Nat.isDigit_of_mem_toDigits (by decide) (by decide) digit

theorem length_padded {width n : Nat} (hw : 0 < width) (hn : n < 10 ^ width) :
    (padded width n).length = width := by
  have : (Nat.toDigits 10 n).length ≤ width := (Nat.length_toDigits_le_iff (by decide) hw).2 hn
  simp [padded]
  omega

theorem padded_ne_nil (width n : Nat) : padded width n ≠ [] := by
  simp [padded, Nat.toDigits_ne_nil]

/-- No white space stands before a digit. -/
theorem trimStart_of_isDigit {c : Char} (h : c.isDigit = true) (rest : List Char) :
    trimStart (c :: rest) = c :: rest := by
  have hc : 48 ≤ c.toNat ∧ c.toNat ≤ 57 := Char.isDigit_iff_toNat.1 h
  have : isBlank c = false := by
    simp [isBlank]
    omega
  simp [trimStart, List.dropWhile, this]

theorem trimStart_padded (width n : Nat) (rest : List Char) :
    trimStart (padded width n ++ rest) = padded width n ++ rest := by
  rcases h : padded width n with _ | ⟨c, digits⟩
  · exact absurd h (padded_ne_nil _ _)
  · exact trimStart_of_isDigit (isDigit_of_mem_padded (by rw [h]; exact List.mem_cons_self)) _

end Text

namespace Instant

open Text

theorem digitsValue_eq (digits : List Char) :
    digitsValue digits = Nat.ofDigitChars 10 digits 0 := by
  rw [Nat.ofDigitChars_eq_foldl]
  rfl

theorem digitsValue_padded (width n : Nat) : digitsValue (padded width n) = n := by
  simp [digitsValue_eq, padded, Nat.ofDigitChars_append]

theorem digitsValue_append_zeros (digits : List Char) (count : Nat) :
    digitsValue (digits ++ List.replicate count '0') = digitsValue digits * 10 ^ count := by
  simp [digitsValue_eq, Nat.ofDigitChars_append, Nat.mul_comm]

/-- A number is read up to what is no digit, or up to the digits that may be read. -/
theorem readNumber_padded {most width n : Nat} {rest : List Char}
    (hmost : (padded width n).length ≤ most)
    (hrest : (padded width n).length = most ∨ ∀ c ∈ rest.head?, ¬c.isDigit = true) :
    readNumber most (padded width n ++ rest) = some (n, rest) := by
  have digits : ((padded width n ++ rest).take most).takeWhile Char.isDigit = padded width n := by
    have stop : (rest.take (most - (padded width n).length)).takeWhile Char.isDigit = [] := by
      rcases hrest with full | stop
      · simp [full]
      · rcases rest with _ | ⟨c, rest⟩
        · simp
        · rcases most - (padded width n).length with _ | left
          · simp
          · simp [stop c rfl]
    rw [List.take_append, List.take_of_length_le hmost,
      List.takeWhile_append_of_pos fun c h => isDigit_of_mem_padded h, stop, List.append_nil]
  unfold readNumber
  simp only [digits, digitsValue_padded]
  simp [padded_ne_nil]

theorem readField_padded {least most n : Nat} (hl : least ≤ n) (hm : n ≤ most) (hn : n < 100)
    (rest : List Char) : readField least most (padded 2 n ++ rest) = some (n, rest) := by
  have length : (padded 2 n).length = 2 := length_padded (by decide) hn
  simp [readField, trimStart_padded, readNumber_padded (Nat.le_of_eq length) (.inl length), hl, hm]

@[simp]
theorem readMark_cons {mark : Char} (h : isBlank mark = false) (rest : List Char) :
    readMark mark (mark :: rest) = some rest := by
  simp [readMark, trimStart, h]

/-- A year that does not start with a sign has four digits at most. -/
theorem readYear_of_isDigit {c : Char} (h : c.isDigit = true) (rest : List Char) :
    readYear (c :: rest) = (readNumber 4 (c :: rest)).map fun (n, rest) => ((n : Int), rest) := by
  unfold readYear
  rw [trimStart_of_isDigit h]
  split
  · rename_i eq
    cases eq
    cases h
  · rename_i eq
    cases eq
    cases h
  · rfl

theorem readYear_yearChars (year : Int) (rest : List Char) :
    readYear (yearChars year ++ '-' :: rest) = some (year, '-' :: rest) := by
  have stop : ∀ c ∈ ('-' :: rest).head?, ¬c.isDigit = true := by simp
  unfold yearChars
  split
  · rename_i h
    have length : (padded 4 year.toNat).length = 4 := length_padded (by decide) (by omega)
    have digits := readNumber_padded (Nat.le_of_eq length) (.inr stop)
    rcases hd : padded 4 year.toNat with _ | ⟨c, more⟩
    · exact absurd hd (padded_ne_nil _ _)
    · have first : c.isDigit = true := isDigit_of_mem_padded (by rw [hd]; exact List.mem_cons_self)
      rw [hd] at digits
      rw [List.cons_append, readYear_of_isDigit first, ← List.cons_append, digits]
      simp [Int.toNat_of_nonneg h.1]
  · have digits : readNumber (padded 4 year.natAbs ++ '-' :: rest).length
        (padded 4 year.natAbs ++ '-' :: rest) = some (year.natAbs, '-' :: rest) :=
      readNumber_padded (by simp) (.inr stop)
    split
    · rename_i negative
      have trim : trimStart ('-' :: (padded 4 year.natAbs ++ '-' :: rest)) =
        '-' :: (padded 4 year.natAbs ++ '-' :: rest) := rfl
      simp only [List.cons_append, readYear, trim, digits, Option.map_some]
      congr 2
      omega
    · rename_i positive
      have trim : trimStart ('+' :: (padded 4 year.natAbs ++ '-' :: rest)) =
        '+' :: (padded 4 year.natAbs ++ '-' :: rest) := rfl
      simp only [List.cons_append, readYear, trim, digits, Option.map_some]
      congr 2
      omega

/-- Three, six or nine digits are read as the nanoseconds they stand for. -/
theorem readFraction_padded {width n : Nat} (hw : 0 < width) (hw' : width ≤ 9)
    (hn : n < 10 ^ width) (rest : List Char) :
    readFraction ('.' :: padded width n ++ 'Z' :: rest) =
      some (n * 10 ^ (9 - width), 'Z' :: rest) := by
  have digits : (padded width n ++ 'Z' :: rest).takeWhile Char.isDigit = padded width n := by
    rw [List.takeWhile_append_of_pos fun c h => isDigit_of_mem_padded h]
    simp
  have length : (padded width n).length = width := length_padded hw hn
  have nine : (padded width n ++ List.replicate 9 '0').take 9 =
      padded width n ++ List.replicate (9 - width) '0' := by
    rw [List.take_append, List.take_of_length_le (by omega), List.take_replicate, length]
    simp
  simp only [List.cons_append, readFraction, digits, nine, digitsValue_append_zeros]
  simp [padded_ne_nil, digitsValue_padded]

theorem readFraction_fractionChars {nanos : Nat} (h : nanos < 1000000000) (rest : List Char) :
    readFraction (fractionChars nanos ++ 'Z' :: rest) = some (nanos, 'Z' :: rest) := by
  unfold fractionChars
  split
  · rename_i zero
    subst zero
    rfl
  split
  · rw [readFraction_padded (by decide) (by decide) (by omega)]
    simp
    omega
  split
  · rw [readFraction_padded (by decide) (by decide) (by omega)]
    simp
    omega
  · rw [readFraction_padded (by decide) (by decide) (by omega)]
    simp

/-- A text whose parts are read one after the other is read as the moment that they make up. -/
theorem ofChars?_of_parts {t : Instant} {date : Date} {hour minute second nanos : Nat}
    {s s₁ s₂ s₃ s₄ s₅ s₆ s₇ s₈ s₉ s₁₀ : List Char}
    (readYear : readYear s = some (date.year, s₁)) (firstHyphen : readMark '-' s₁ = some s₂)
    (readMonth : readField 1 12 s₂ = some (date.month, s₃))
    (secondHyphen : readMark '-' s₃ = some s₄)
    (readDay : readField 1 31 s₄ = some (date.day, 'T' :: s₅))
    (readHour : readField 0 23 s₅ = some (hour, s₆)) (firstColon : readMark ':' s₆ = some s₇)
    (readMinute : readField 0 59 s₇ = some (minute, s₈))
    (secondColon : readMark ':' s₈ = some s₉)
    (readSecond : readField 0 60 s₉ = some (second, s₁₀))
    (readNanos : readFraction s₁₀ = some (nanos, ['Z'])) (isValid : date.IsValid)
    (seconds : date.toDays * 86400 + hour * 3600 + minute * 60 + min second 59 = t.seconds)
    (nanoseconds : (if second = 60 then nanos + 1000000000 else nanos) = t.nanos) :
    ofChars? s = some t := by
  have made : ofParts? t.seconds t.nanos = some t := ofParts?_eq_some.2 ⟨rfl, rfl⟩
  have greenwich : readOffset (trimStart ['Z']) = some (0, []) := rfl
  unfold ofChars?
  refine Option.bind_eq_some_iff.2 ⟨_, readYear, ?_⟩
  refine Option.bind_eq_some_iff.2 ⟨_, firstHyphen, ?_⟩
  refine Option.bind_eq_some_iff.2 ⟨_, readMonth, ?_⟩
  refine Option.bind_eq_some_iff.2 ⟨_, secondHyphen, ?_⟩
  refine Option.bind_eq_some_iff.2 ⟨_, readDay, ?_⟩
  dsimp only
  rw [if_pos (Or.inl rfl)]
  refine Option.bind_eq_some_iff.2 ⟨s₅, rfl, ?_⟩
  refine Option.bind_eq_some_iff.2 ⟨_, readHour, ?_⟩
  refine Option.bind_eq_some_iff.2 ⟨_, firstColon, ?_⟩
  refine Option.bind_eq_some_iff.2 ⟨_, readMinute, ?_⟩
  refine Option.bind_eq_some_iff.2 ⟨_, secondColon, ?_⟩
  refine Option.bind_eq_some_iff.2 ⟨_, readSecond, ?_⟩
  refine Option.bind_eq_some_iff.2 ⟨_, readNanos, ?_⟩
  refine Option.bind_eq_some_iff.2 ⟨_, greenwich, ?_⟩
  dsimp only
  rw [if_neg (by decide), if_neg (not_not_intro isValid), seconds, nanoseconds, made, Int.sub_zero]
  exact made

/-- Nanoseconds past 10⁹ stand for a leap second, and a leap second ends a minute. -/
def IsProper (t : Instant) : Prop := 1000000000 ≤ t.nanos → t.seconds % 60 = 59

instance (t : Instant) : Decidable t.IsProper :=
  inferInstanceAs (Decidable (1000000000 ≤ t.nanos → t.seconds % 60 = 59))

theorem ofChars?_chars_of_isProper {t : Instant} (proper : t.IsProper) :
    ofChars? t.chars = some t := by
  have hdate := Date.isValid_ofDays (t.seconds / 86400)
  have hdays := Date.toDays_ofDays (t.seconds / 86400)
  have hlt := t.nanos_lt
  have hleap : 1000000000 ≤ t.nanos → t.seconds % 60 = 59 := proper
  unfold chars
  dsimp only
  generalize Date.ofDays (t.seconds / 86400) = date at hdate hdays ⊢
  generalize hofDay : (t.seconds % 86400).toNat = ofDay
  generalize hsecond : ofDay % 60 + t.nanos / 1000000000 = second
  have hmonth := hdate.2.1
  have hday : date.day ≤ 31 := Nat.le_trans hdate.2.2.2 (by unfold Date.daysInMonth; grind)
  -- A leap second is written as the sixtieth one.
  have hnanos : t.nanos / 1000000000 = 1 ∧ second = 60 ∨
      t.nanos / 1000000000 = 0 ∧ second = ofDay % 60 := by omega
  have nanos_eq : (if second = 60 then t.nanos % 1000000000 + 1000000000
      else t.nanos % 1000000000) = t.nanos := by split <;> omega
  have seconds_eq : date.toDays * 86400 + (ofDay / 3600 : Nat) * 3600 +
      (ofDay / 60 % 60 : Nat) * 60 + (min second 59 : Nat) = t.seconds := by omega
  simp only [List.append_assoc, List.cons_append]
  exact ofChars?_of_parts (readYear_yearChars _ _) (readMark_cons rfl _)
    (readField_padded hdate.1 hmonth (by omega) _) (readMark_cons rfl _)
    (readField_padded hdate.2.2.1 hday (by omega) _)
    (readField_padded (Nat.zero_le _) (by omega) (by omega) _) (readMark_cons rfl _)
    (readField_padded (Nat.zero_le _) (by omega) (by omega) _) (readMark_cons rfl _)
    (readField_padded (Nat.zero_le _) (by omega) (by omega) _)
    (readFraction_fractionChars (Nat.mod_lt t.nanos (by decide)) _) hdate seconds_eq nanos_eq

/-- A moment as its text has it: nanoseconds past 10⁹ that are in no leap second count as one second
more. -/
def carried (t : Instant) : Instant :=
  if proper : t.IsProper then t
  else
    have improper : 1000000000 ≤ t.nanos ∧ t.seconds % 60 ≠ 59 := Classical.not_imp.1 proper
    have low := t.seconds_ge
    have high := t.seconds_le
    have nanos := t.nanos_lt
    ⟨t.seconds + 1, t.nanos - 1000000000, by omega, by omega, by omega⟩

variable {a b t : Instant}

theorem carried_of_isProper (proper : t.IsProper) : t.carried = t := dif_pos proper

/-- What is carried over stays in the same minute. -/
theorem carried_of_not_isProper (improper : ¬t.IsProper) :
    1000000000 ≤ t.nanos ∧ t.seconds % 60 ≠ 59 ∧ t.carried.seconds = t.seconds + 1 ∧
      t.carried.nanos = t.nanos - 1000000000 := by
  obtain ⟨past, second⟩ : 1000000000 ≤ t.nanos ∧ t.seconds % 60 ≠ 59 :=
    Classical.not_imp.1 improper
  rw [carried, dif_neg improper]
  exact ⟨past, second, rfl, rfl⟩

theorem isProper_carried (t : Instant) : t.carried.IsProper := by
  by_cases proper : t.IsProper
  · rwa [carried_of_isProper proper]
  · obtain ⟨-, -, -, nanos⟩ := carried_of_not_isProper proper
    have := t.nanos_lt
    intro past
    omega

theorem carried_eq_iff : t.carried = t ↔ t.IsProper :=
  ⟨fun same => same ▸ isProper_carried t, carried_of_isProper⟩

theorem le_carried (t : Instant) : t ≤ t.carried := by
  by_cases proper : t.IsProper
  · rw [carried_of_isProper proper]
    exact .inr ⟨rfl, Nat.le_refl _⟩
  · obtain ⟨-, -, seconds, -⟩ := carried_of_not_isProper proper
    exact .inl (by omega)

theorem chars_carried (t : Instant) : t.carried.chars = t.chars := by
  by_cases proper : t.IsProper
  · rw [carried_of_isProper proper]
  obtain ⟨past, second, seconds, nanos⟩ := carried_of_not_isProper proper
  have below := t.nanos_lt
  have day : (t.seconds + 1) / 86400 = t.seconds / 86400 := by omega
  have ofDay : ((t.seconds + 1) % 86400).toNat = (t.seconds % 86400).toNat + 1 := by omega
  have minute : (t.seconds % 86400).toNat % 60 ≠ 59 := by omega
  unfold chars
  rw [seconds, nanos, day, ofDay]
  generalize (t.seconds % 86400).toNat = n at minute
  have hours : (n + 1) / 3600 = n / 3600 := by omega
  have minutes : (n + 1) / 60 % 60 = n / 60 % 60 := by omega
  have shown : (n + 1) % 60 + (t.nanos - 1000000000) / 1000000000 =
      n % 60 + t.nanos / 1000000000 := by omega
  have fraction : (t.nanos - 1000000000) % 1000000000 = t.nanos % 1000000000 := by omega
  simp only [hours, minutes, shown, fraction]

theorem text_carried (t : Instant) : t.carried.text = t.text :=
  congrArg String.ofList (chars_carried t)

theorem ofText?_text (t : Instant) : ofText? t.text = some t.carried := by
  rw [← text_carried, ofText?, text, String.toList_ofList,
    ofChars?_chars_of_isProper (isProper_carried t)]

theorem text_eq_iff : a.text = b.text ↔ a.carried = b.carried := by
  refine ⟨fun same => ?_, fun same => by rw [← text_carried a, same, text_carried]⟩
  have read := congrArg ofText? same
  rwa [ofText?_text, ofText?_text, Option.some.injEq] at read

section Read

/-- Offsets from UTC are whole minutes. -/
theorem readOffset_minutes {s rest : List Char} {offset : Int}
    (h : readOffset s = some (offset, rest)) : offset % 60 = 0 := by
  have east {s rest : List Char} {offset : Int} (h : readOffset.east s = some (offset, rest)) :
      offset % 60 = 0 := by
    obtain ⟨⟨hours, s'⟩, -, h⟩ := Option.bind_eq_some_iff.1 h
    obtain ⟨⟨minutes, s''⟩, -, h⟩ := Option.bind_eq_some_iff.1 h
    cases h
    omega
  unfold readOffset at h
  split at h
  · cases h
    rfl
  · cases h
    rfl
  · split at h
    · cases h
      rfl
    split at h
    · exact east h
    split at h
    · obtain ⟨⟨minutes, s'⟩, read, h⟩ := Option.map_eq_some_iff.1 h
      cases h
      have := east read
      omega
    · cases h
  · cases h

theorem digitsValue_lt {digits : List Char} (h : ∀ c ∈ digits, c.isDigit = true) :
    digitsValue digits < 10 ^ digits.length := by
  induction digits using List.reverseRecOn with
  | nil => decide
  | append_singleton digits c ih =>
    have last : 48 ≤ c.toNat ∧ c.toNat ≤ 57 := Char.isDigit_iff_toNat.1 (h c (by simp))
    have first := ih fun d hd => h d (List.mem_append_left _ hd)
    have value : digitsValue (digits ++ [c]) = 10 * digitsValue digits + (c.toNat - 48) := by
      simp [digitsValue]
    rw [value, List.length_append, List.length_singleton, Nat.pow_succ]
    omega

/-- A fraction is less than a second. -/
theorem readFraction_lt {s rest : List Char} {nanos : Nat}
    (h : readFraction s = some (nanos, rest)) : nanos < 1000000000 := by
  unfold readFraction at h
  split at h
  · dsimp only at h
    split at h
    · cases h
    · rename_i tail _
      cases h
      have digits : ∀ c ∈ (tail.takeWhile Char.isDigit ++ List.replicate 9 '0').take 9,
          c.isDigit = true := by
        intro c hc
        rcases List.mem_append.1 (List.mem_of_mem_take hc) with digit | zero
        · exact List.all_eq_true.1 List.all_takeWhile c digit
        · rw [List.eq_of_mem_replicate zero]
          rfl
      refine Nat.lt_of_lt_of_le (digitsValue_lt digits) ?_
      exact Nat.pow_le_pow_right (by decide) (List.length_take_le _ _)
  · cases h
    decide

/-- What is read is never a moment that would be written as another one: only a sixtieth second has
nanoseconds past 10⁹, and no offset moves it away from the end of its minute. -/
theorem isProper_of_ofChars? {s : List Char} (h : ofChars? s = some t) : t.IsProper := by
  unfold ofChars? at h
  obtain ⟨⟨year, s₁⟩, -, h⟩ := Option.bind_eq_some_iff.1 h
  obtain ⟨s₂, -, h⟩ := Option.bind_eq_some_iff.1 h
  obtain ⟨⟨month, s₃⟩, -, h⟩ := Option.bind_eq_some_iff.1 h
  obtain ⟨s₄, -, h⟩ := Option.bind_eq_some_iff.1 h
  obtain ⟨⟨day, s₅⟩, -, h⟩ := Option.bind_eq_some_iff.1 h
  dsimp only at h
  split at h
  rotate_left
  · cases h
  split at h
  rotate_left
  · cases h
  obtain ⟨s₆, -, h⟩ := Option.bind_eq_some_iff.1 h
  obtain ⟨⟨hour, s₇⟩, -, h⟩ := Option.bind_eq_some_iff.1 h
  obtain ⟨s₈, -, h⟩ := Option.bind_eq_some_iff.1 h
  obtain ⟨⟨minute, s₉⟩, -, h⟩ := Option.bind_eq_some_iff.1 h
  obtain ⟨s₁₀, -, h⟩ := Option.bind_eq_some_iff.1 h
  obtain ⟨⟨second, s₁₁⟩, -, h⟩ := Option.bind_eq_some_iff.1 h
  obtain ⟨⟨nanos, s₁₂⟩, fraction, h⟩ := Option.bind_eq_some_iff.1 h
  obtain ⟨⟨offset, s₁₃⟩, east, h⟩ := Option.bind_eq_some_iff.1 h
  dsimp only at h
  split at h
  · cases h
  split at h
  · cases h
  obtain ⟨_, -, h⟩ := Option.bind_eq_some_iff.1 h
  obtain ⟨seconds, nanoseconds⟩ := ofParts?_eq_some.1 h
  have minutes := readOffset_minutes east
  have less := readFraction_lt fraction
  intro past
  rw [nanoseconds] at past
  rw [seconds]
  split at past <;> omega

theorem isProper_of_ofText? {s : String} (h : ofText? s = some t) : t.IsProper :=
  isProper_of_ofChars? h

end Read

theorem isProper_of_add? {d : Duration} (proper : t.IsProper) {e : Instant}
    (h : t.add? d = some e) : e.IsProper := by
  unfold add? at h
  intro past
  split at h
  · rename_i inside
    rw [(ofParts?_eq_some.1 h).1]
    exact proper inside.1
  · have nanos := (ofParts?_eq_some.1 h).2
    omega

end Instant

end SignIn
