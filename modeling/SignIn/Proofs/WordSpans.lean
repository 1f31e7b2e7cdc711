import Mathlib.Algebra.Group.Int.Defs
import Mathlib.Algebra.Group.Nat.Defs
import SignIn.Service.Basic

/-!
# The end of a session in machine words

A machine is handed a length of time in unsigned words and adds it to a moment in words with a sign,
of which those for seconds have 64 bits and those for nanoseconds 32. Sums of words wrap around, and
an unsigned word is read with a sign as its bits stand. Main statement: no length and no moment makes
that happen, so the end of a session in words is its end in exact numbers
(`Service.expiryInWords?_eq`).
-/

namespace SignIn

/-- A span in words with a sign. -/
structure WordSpan where
  seconds : Int64
  nanos : Int32

namespace WordSpan

/-- A length of time as a span, if it can be counted in milliseconds. Its seconds are compared
before they are read with a sign. -/
def ofLength? (seconds : UInt64) (nanos : UInt32) : Option WordSpan :=
  if 9223372036854775 < seconds then none
  else if seconds.toInt64 = 9223372036854775 ∧ 807000000 < nanos then none
  else some ⟨seconds.toInt64, nanos.toInt32⟩

def IsPositive (span : WordSpan) : Prop := 0 < span.seconds ∨ span.seconds = 0 ∧ 0 < span.nanos

instance (span : WordSpan) : Decidable span.IsPositive := inferInstanceAs (Decidable (_ ∨ _))

/-- The moment at a second and nanoseconds in it, if there is one. -/
def moment? (seconds : Int64) (nanos : Int32) : Option Instant :=
  Instant.ofParts? seconds.toInt nanos.toInt.toNat

/-- The moment a span later, if it is in range. A span that leaves a leap second takes it for the
second before it. -/
def after? (span : WordSpan) (t : Instant) : Option Instant :=
  let seconds := Int64.ofInt t.seconds
  let nanos := Int32.ofNat t.nanos
  if 1000000000 ≤ nanos ∧ span.seconds = 0 ∧ nanos < 2000000000 - span.nanos then
    moment? seconds (nanos + span.nanos)
  else
    let sum := (if 1000000000 ≤ nanos then nanos - 1000000000 else nanos) + span.nanos
    if sum < 1000000000 then moment? (seconds + span.seconds) sum
    else moment? (seconds + span.seconds + 1) (sum - 1000000000)

/-- A span has the seconds and the nanoseconds of a length of time. -/
structure Counts (span : WordSpan) (d : Duration) : Prop where
  seconds : span.seconds.toInt = d.seconds
  nanos : span.nanos.toInt = d.nanos

section Words

variable {a b : Int64} {m n : Int32}

theorem toInt_add64 (low : -2 ^ 63 ≤ a.toInt + b.toInt) (high : a.toInt + b.toInt < 2 ^ 63) :
    (a + b).toInt = a.toInt + b.toInt := by
  rw [Int64.toInt_add]
  exact Int.bmod_eq_of_le (by omega) (by omega)

theorem toInt_add32 (low : -2 ^ 31 ≤ m.toInt + n.toInt) (high : m.toInt + n.toInt < 2 ^ 31) :
    (m + n).toInt = m.toInt + n.toInt := by
  rw [Int32.toInt_add]
  exact Int.bmod_eq_of_le (by omega) (by omega)

theorem toInt_sub32 (low : -2 ^ 31 ≤ m.toInt - n.toInt) (high : m.toInt - n.toInt < 2 ^ 31) :
    (m - n).toInt = m.toInt - n.toInt := by
  rw [Int32.toInt_sub]
  exact Int.bmod_eq_of_le (by omega) (by omega)

theorem toInt_toInt64 {seconds : UInt64} (h : seconds.toNat < 2 ^ 63) :
    seconds.toInt64.toInt = seconds.toNat := by
  rw [← Int64.toInt_ofNat_of_lt h, ← UInt64.toInt64_ofNat', UInt64.ofNat_toNat]

theorem toInt_toInt32 {nanos : UInt32} (h : nanos.toNat < 2 ^ 31) :
    nanos.toInt32.toInt = nanos.toNat := by
  rw [← Int32.toInt_ofNat_of_lt h, ← UInt32.toInt32_ofNat', UInt32.ofNat_toNat]

end Words

variable {span : WordSpan} {d : Duration}

/-- A length of time is a span exactly if it can be counted, and then nothing of it is lost. -/
theorem ofLength?_cases (seconds : UInt64) (nanos : UInt32) (h : nanos.toNat < 1000000000) :
    let d : Duration := ⟨seconds.toNat, nanos.toNat, h⟩
    (d.totalNanos ≤ Duration.largest.totalNanos ∧
        ∃ span, ofLength? seconds nanos = some span ∧ span.Counts d) ∨
      (Duration.largest.totalNanos < d.totalNanos ∧ ofLength? seconds nanos = none) := by
  intro d
  have total : d.totalNanos = 1000000000 * seconds.toNat + nanos.toNat := rfl
  have largest : Duration.largest.totalNanos = 9223372036854775807000000 := rfl
  have long : 9223372036854775 < seconds ↔ 9223372036854775 < seconds.toNat :=
    UInt64.lt_iff_toNat_lt
  have rest : 807000000 < nanos ↔ 807000000 < nanos.toNat := UInt32.lt_iff_toNat_lt
  rw [ofLength?, total, largest]
  by_cases tooLong : 9223372036854775 < seconds.toNat
  · rw [if_pos (long.2 tooLong)]
    exact .inr ⟨by omega, rfl⟩
  -- Seconds that passed the comparison leave the bit of the sign clear.
  have read : seconds.toInt64.toInt = seconds.toNat := toInt_toInt64 (by omega)
  have most : seconds.toInt64 = 9223372036854775 ↔ seconds.toNat = 9223372036854775 := by
    rw [← Int64.toInt_inj, read]
    exact Int.natCast_inj
  rw [if_neg (mt long.1 tooLong)]
  by_cases more : seconds.toNat = 9223372036854775 ∧ 807000000 < nanos.toNat
  · rw [if_pos ⟨most.2 more.1, rest.2 more.2⟩]
    exact .inr ⟨by omega, rfl⟩
  · rw [if_neg fun h => more ⟨most.1 h.1, rest.1 h.2⟩]
    exact .inl ⟨by omega, _, rfl, read, toInt_toInt32 (by omega)⟩

theorem counts_of_ofLength? {seconds : UInt64} {nanos : UInt32} (h : nanos.toNat < 1000000000)
    (read : ofLength? seconds nanos = some span) : span.Counts ⟨seconds.toNat, nanos.toNat, h⟩ := by
  rcases ofLength?_cases seconds nanos h with ⟨-, other, same, counts⟩ | ⟨-, none⟩
  · cases read.symm.trans same
    exact counts
  · cases read.symm.trans none

theorem moment?_carry {seconds : Int64} {sum : Int32} {total : Nat} (hsum : sum.toInt = total)
    (low : total < 2000000000) (high : seconds.toInt < 2 ^ 62) :
    (if sum < 1000000000 then moment? seconds sum
        else moment? (seconds + 1) (sum - 1000000000)) =
      Instant.ofParts? (seconds.toInt + total / 1000000000) (total % 1000000000) := by
  have second : (1000000000 : Int32).toInt = 1000000000 := rfl
  have one : (1 : Int64).toInt = 1 := rfl
  have short : sum < 1000000000 ↔ total < 1000000000 := by
    rw [Int32.lt_iff_toInt_lt, hsum, second]
    omega
  have ge := seconds.le_toInt
  by_cases h : total < 1000000000
  · have whole : (total : Int) / 1000000000 = 0 := by omega
    rw [if_pos (short.2 h), moment?, hsum, Int.toNat_natCast, whole, Int.add_zero,
      Nat.mod_eq_of_lt h]
  · have whole : (total : Int) / 1000000000 = 1 := by omega
    have rest : ((total : Int) - 1000000000).toNat = total % 1000000000 := by omega
    rw [if_neg (mt short.1 h), moment?, toInt_add64 (by omega) (by omega), one,
      toInt_sub32 (by omega) (by omega), hsum, second, whole, rest]

section Moment

variable (t : Instant)

theorem toInt_seconds : (Int64.ofInt t.seconds).toInt = t.seconds := by
  have ge := t.seconds_ge
  have le := t.seconds_le
  exact Int64.toInt_ofInt_of_le (by omega) (by omega)

theorem toInt_nanos : (Int32.ofNat t.nanos).toInt = t.nanos := by
  have lt := t.nanos_lt
  exact Int32.toInt_ofNat_of_lt (by omega)

theorem second_le_nanos_iff : (1000000000 : Int32) ≤ .ofNat t.nanos ↔ 1000000000 ≤ t.nanos := by
  have second : (1000000000 : Int32).toInt = 1000000000 := rfl
  rw [Int32.le_iff_toInt_le, toInt_nanos, second]
  omega

/-- The nanoseconds of a moment without those of a leap second. -/
theorem toInt_pastSecond : (if (1000000000 : Int32) ≤ .ofNat t.nanos
      then Int32.ofNat t.nanos - 1000000000 else .ofNat t.nanos).toInt =
    (t.nanos % 1000000000 : Nat) := by
  have lt := t.nanos_lt
  have nanos := toInt_nanos t
  have second : (1000000000 : Int32).toInt = 1000000000 := rfl
  by_cases leap : 1000000000 ≤ t.nanos
  · rw [if_pos ((second_le_nanos_iff t).2 leap), toInt_sub32 (by omega) (by omega), nanos, second]
    omega
  · rw [if_neg (mt (second_le_nanos_iff t).1 leap), nanos]
    omega

end Moment

namespace Counts

variable (h : span.Counts d)

include h

theorem isPositive_iff : span.IsPositive ↔ 0 < d.totalNanos := by
  have seconds := h.seconds
  have nanos := h.nanos
  have zero64 : (0 : Int64).toInt = 0 := rfl
  have zero32 : (0 : Int32).toInt = 0 := rfl
  rw [IsPositive, Int64.lt_iff_toInt_lt, Int32.lt_iff_toInt_lt, ← Int64.toInt_inj,
    Duration.totalNanos]
  omega

theorem stays_iff (t : Instant) :
    1000000000 ≤ Int32.ofNat t.nanos ∧ span.seconds = 0 ∧
        Int32.ofNat t.nanos < 2000000000 - span.nanos ↔
      1000000000 ≤ t.nanos ∧ d.seconds = 0 ∧ t.nanos + d.nanos < 2000000000 := by
  have spanNanos := h.nanos
  have spanLt := d.nanos_lt
  have two : (2000000000 : Int32).toInt = 2000000000 := rfl
  have zero : (0 : Int64).toInt = 0 := rfl
  rw [second_le_nanos_iff, ← Int64.toInt_inj, h.seconds, zero, Int32.lt_iff_toInt_lt, toInt_nanos,
    toInt_sub32 (by omega) (by omega), two, spanNanos]
  omega

/-- No sum wraps around: neither that of the seconds of a moment and a span, nor that of their
nanoseconds, inside a leap second or not. -/
theorem after?_eq (short : d.seconds ≤ 9223372036854775) (t : Instant) :
    span.after? t = t.add? d := by
  have spanSeconds := h.seconds
  have spanNanos := h.nanos
  have spanLt := d.nanos_lt
  have secondsGe := t.seconds_ge
  have secondsLe := t.seconds_le
  have nanosLt := t.nanos_lt
  have seconds := toInt_seconds t
  have nanos := toInt_nanos t
  unfold after? Instant.add?
  dsimp only
  by_cases stays : 1000000000 ≤ t.nanos ∧ d.seconds = 0 ∧ t.nanos + d.nanos < 2000000000
  · rw [if_pos ((h.stays_iff t).2 stays), if_pos stays, moment?, seconds,
      toInt_add32 (by omega) (by omega), nanos, spanNanos]
    rfl
  have ends : (Int64.ofInt t.seconds + span.seconds).toInt = t.seconds + d.seconds := by
    rw [toInt_add64 (by omega) (by omega), seconds, spanSeconds]
  -- Out of a leap second the moment counts as one of the second before, in words as in numbers.
  rw [if_neg (mt (h.stays_iff t).1 stays), if_neg stays, ← ends]
  have past := toInt_pastSecond t
  refine moment?_carry ?_ (by omega) (by omega)
  rw [toInt_add32 (by omega) (by omega), past, spanNanos]
  omega

end Counts

end WordSpan

namespace Service

/-- When a session that begins now ends, if its length is more than nothing and can be counted. -/
def expiryInWords? (seconds : UInt64) (nanos : UInt32) (now : Instant) : Option Instant :=
  match WordSpan.ofLength? seconds nanos with
  | none => none
  | some span => if span.IsPositive then span.after? now else none

theorem toNat_max_one (seconds : UInt64) : (max 1 seconds).toNat = max 1 seconds.toNat := by
  have le : 1 ≤ seconds ↔ 1 ≤ seconds.toNat := UInt64.le_iff_toNat_le
  change (if 1 ≤ seconds then seconds else 1).toNat = _
  by_cases h : 1 ≤ seconds.toNat
  · rw [if_pos (le.2 h), Nat.max_eq_right h]
  · rw [if_neg (mt le.1 h), Nat.max_eq_left (Nat.le_of_not_le h)]
    rfl

theorem expiryInWords?_eq (seconds : UInt64) (nanos : UInt32) (h : nanos.toNat < 1000000000)
    (now : Instant) :
    expiryInWords? seconds nanos now = expiry? ⟨seconds.toNat, nanos.toNat, h⟩ now := by
  rw [expiryInWords?, expiry?]
  rcases WordSpan.ofLength?_cases seconds nanos h with ⟨fits, span, read, counts⟩ | ⟨tooLong, none⟩
  · have short : seconds.toNat ≤ 9223372036854775 := by
      simp only [Duration.totalNanos, Duration.largest] at fits
      omega
    rw [read]
    simp only [counts.isPositive_iff, counts.after?_eq short, fits, and_true]
  · rw [none]
    exact (if_neg fun usable => Nat.not_le.2 tooLong usable.2).symm

end Service

end SignIn
