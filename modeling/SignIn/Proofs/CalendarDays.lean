import SignIn.Calendar.Date

/-!
# Days and dates

The date of a count of days is one that the calendar has (`isValid_ofDays`), and its count of days
is that count (`toDays_ofDays`).

An era of 400 years is cut into centuries, those into four years each, and those into years, all
counted from March. Each part is one day longer than the sum of its full parts when it ends on a
leap day, so the last part of each cut may hold a day more than the others (`InEra`).
-/

namespace SignIn

namespace Date

/-- A day of an era by its century, the four years in that, the year in those and the day in
that. -/
structure InEra (dayOfEra century four year day : Int) : Prop where
  eq : dayOfEra = 36524 * century + 1461 * four + 365 * year + day
  century_ge : 0 ≤ century
  century_le : century ≤ 3
  four_ge : 0 ≤ four
  four_le : four ≤ 24
  year_ge : 0 ≤ year
  year_le : year ≤ 3
  day_ge : 0 ≤ day
  day_le : day ≤ 365
  leap : day = 365 → year = 3 ∧ (four = 24 → century = 3)

theorem exists_inEra {d : Int} (hd : 0 ≤ d) (hd' : d < 146097) : ∃ c q r s, InEra d c q r s := by
  obtain ⟨c, hc, hc', lower, upper⟩ : ∃ c : Int, 0 ≤ c ∧ c ≤ 3 ∧ 36524 * c ≤ d ∧
      (d < 36524 * c + 36524 ∨ c = 3 ∧ d = 146096) :=
    ⟨(d - d / 146096) / 36524, by omega, by omega, by omega, by omega⟩
  obtain ⟨q, hq, hq', lower', upper'⟩ : ∃ q : Int, 0 ≤ q ∧ q ≤ 24 ∧ 1461 * q ≤ d - 36524 * c ∧
      d - 36524 * c < 1461 * q + 1461 :=
    ⟨(d - 36524 * c) / 1461, by omega, by omega, by omega, by omega⟩
  generalize hn : d - 36524 * c - 1461 * q = n
  obtain ⟨r, hr, hr', lower'', upper''⟩ : ∃ r : Int, 0 ≤ r ∧ r ≤ 3 ∧ 365 * r ≤ n ∧
      (n < 365 * r + 365 ∨ r = 3) := by
    rcases Int.lt_or_le n 1460 with h | h
    · exact ⟨n / 365, by omega, by omega, by omega, by omega⟩
    · exact ⟨3, by omega, by omega, by omega, by omega⟩
  exact ⟨c, q, r, n - 365 * r, by omega, hc, hc', hq, hq', hr, hr', by omega, by omega, by omega⟩

variable {d c q r s : Int}

theorem InEra.year_eq (h : InEra d c q r s) :
    (d - d / 1460 + d / 36524 - d / 146096) / 365 = 100 * c + 4 * q + r := by
  obtain ⟨eq, hc, hc', hq, hq', hr, hr', hs, hs', leap⟩ := h
  have centuries : d / 36524 - d / 146096 = c := by
    have : 1461 * q + 365 * r + s < 36524 ∨ c = 3 ∧ q = 24 ∧ r = 3 ∧ s = 365 := by omega
    rcases this with inside | ⟨rfl, rfl, rfl, rfl⟩
    · have full : d / 36524 = c := by omega
      omega
    · subst eq
      decide
  -- The leap days before this one, or one more on the last day of all.
  have leaps : d / 1460 = 25 * c + q ∨ d / 1460 = 25 * c + q + 1 ∧ r = 3 ∧ 0 < s := by omega
  have last : s = 365 → d / 1460 = 25 * c + q + 1 := by omega
  have : d - d / 1460 + (d / 36524 - d / 146096) =
      365 * (100 * c + 4 * q + r) + (25 * c + q - d / 1460 + s) := by rw [centuries]; omega
  omega

theorem InEra.day_eq (h : InEra d c q r s) :
    d - (365 * (100 * c + 4 * q + r) + (100 * c + 4 * q + r) / 4 - (100 * c + 4 * q + r) / 100) =
      s := by
  obtain ⟨eq, hc, hc', hq, hq', hr, hr', -, -, -⟩ := h
  omega

/-- The date of a day of an era, by the year counted from March, the month counted from March and the
day of the year. -/
theorem ofDays_eq {days era : Int} (h : InEra d c q r s) (hdays : days + 719468 = 146097 * era + d) :
    ofDays days =
      let month := (5 * s + 2) / 153
      let day := s - (153 * month + 2) / 5 + 1
      let year := 400 * era + (100 * c + 4 * q + r)
      if month < 10 then ⟨year, (month + 3).toNat, day.toNat⟩
      else ⟨year + 1, (month - 9).toNat, day.toNat⟩ := by
  have inside : 0 ≤ d ∧ d < 146097 := by obtain ⟨eq, _⟩ := h; omega
  have hera : (146097 * era + d) / 146097 = era := by omega
  have hd : (146097 * era + d) % 146097 = d := by omega
  unfold ofDays
  dsimp only
  rw [hdays, hera, hd, h.year_eq, h.day_eq]

theorem exists_era (days : Int) :
    ∃ era c q r s d, InEra d c q r s ∧ days + 719468 = 146097 * era + d := by
  obtain ⟨c, q, r, s, h⟩ := exists_inEra (d := (days + 719468) % 146097) (by omega) (by omega)
  exact ⟨(days + 719468) / 146097, c, q, r, s, _, h, by omega⟩

/-- The count of days of the date of a count of days. -/
theorem toDays_ofDays (days : Int) : (ofDays days).toDays = days := by
  obtain ⟨era, c, q, r, s, d, h, hdays⟩ := exists_era days
  rw [ofDays_eq h hdays]
  obtain ⟨eq, hc, hc', hq, hq', hr, hr', hs, hs', -⟩ := h
  have hm : 0 ≤ (5 * s + 2) / 153 ∧ (5 * s + 2) / 153 ≤ 11 := by omega
  have hday : 0 ≤ s - (153 * ((5 * s + 2) / 153) + 2) / 5 := by omega
  dsimp only
  generalize (5 * s + 2) / 153 = m at *
  split <;> rename_i hlt <;> unfold toDays <;> dsimp only
  · rw [if_neg (by omega), if_neg (by omega)]
    omega
  · rw [if_pos (by omega), if_pos (by omega)]
    omega

/-- A year that has a leap day at its end, counted from March, ends in a leap year. -/
theorem InEra.isLeapYear (h : InEra d c q r 365) (era : Int) :
    isLeapYear (400 * era + (100 * c + 4 * q + r) + 1) = true := by
  obtain ⟨-, hc, hc', hq, hq', -, -, -, -, leap⟩ := h
  obtain ⟨rfl, last⟩ := leap rfl
  have four : (400 * era + (100 * c + 4 * q + 3) + 1) % 4 = 0 := by omega
  have century : (400 * era + (100 * c + 4 * q + 3) + 1) % 100 ≠ 0 ∨
      (400 * era + (100 * c + 4 * q + 3) + 1) % 400 = 0 := by omega
  simpa [Date.isLeapYear, four] using century

theorem isValid_ofDays (days : Int) : (ofDays days).IsValid := by
  obtain ⟨era, c, q, r, s, d, h, hdays⟩ := exists_era days
  rw [ofDays_eq h hdays]
  have hs := h.day_ge
  have hs' := h.day_le
  have leap := fun (last : s = 365) => (last ▸ h).isLeapYear era
  generalize 400 * era + (100 * c + 4 * q + r) = year at leap ⊢
  clear h hdays
  generalize hm : (5 * s + 2) / 153 = m
  have : m = 11 ∨ m = 0 ∨ m = 1 ∨ m = 2 ∨ m = 3 ∨ m = 4 ∨ m = 5 ∨ m = 6 ∨ m = 7 ∨ m = 8 ∨ m = 9 ∨
      m = 10 := by omega
  -- Only February has a length that depends on the year, and only it can have the last day.
  rcases this with february | others
  · subst february
    by_cases last : s = 365
    · simp [IsValid, daysInMonth, leap last, last]
    · have least : ∀ y, 28 ≤ daysInMonth y 2 := fun y => by unfold daysInMonth; split <;> grind
      refine ⟨by simp, by simp, ?_, Nat.le_trans ?_ (least _)⟩ <;> simp <;> omega
  · rcases others with rfl | rfl | rfl | rfl | rfl | rfl | rfl | rfl | rfl | rfl | rfl <;>
      simp [IsValid, daysInMonth] <;> omega

end Date

end SignIn
