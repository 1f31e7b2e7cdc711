import SignIn.Calendar.Date

/-!
# Moments and spans of time

A moment is a second since 1970-01-01T00:00:00Z and nanoseconds in it, within the years -262143 to
262142. The nanoseconds may go on past 10⁹, as they do inside a leap second; no second is barred from
that.
-/

namespace SignIn

/-- A length of time that is not negative. -/
structure Duration where
  seconds : Nat
  nanos : Nat
  nanos_lt : nanos < 1000000000 := by decide
  deriving DecidableEq, Repr

namespace Duration

def ofSeconds (seconds : Nat) : Duration := ⟨seconds, 0, by decide⟩

def totalNanos (d : Duration) : Nat := 1000000000 * d.seconds + d.nanos

/-- The largest span that can be counted in milliseconds by a signed 64-bit number. -/
def largest : Duration := ⟨9223372036854775, 807000000, by decide⟩

end Duration

structure Instant where
  seconds : Int
  nanos : Nat
  seconds_ge : -8334601228800 ≤ seconds
  seconds_le : seconds ≤ 8210266876799
  nanos_lt : nanos < 2000000000
  deriving DecidableEq, Repr

namespace Instant

/-- The first second and the last one. -/
example : (Date.toDays ⟨-262143, 1, 1⟩ * 86400, (Date.toDays ⟨262142, 12, 31⟩ + 1) * 86400 - 1) =
    (-8334601228800, 8210266876799) := by decide

/-- The moment at a second and nanoseconds in it, if there is one. -/
def ofParts? (seconds : Int) (nanos : Nat) : Option Instant :=
  if h : -8334601228800 ≤ seconds ∧ seconds ≤ 8210266876799 ∧ nanos < 2000000000 then
    some ⟨seconds, nanos, h.1, h.2.1, h.2.2⟩
  else none

theorem ofParts?_eq_some {s : Int} {n : Nat} {t : Instant} :
    ofParts? s n = some t ↔ t.seconds = s ∧ t.nanos = n := by
  unfold ofParts?
  constructor
  · intro h
    split at h
    · cases h; exact ⟨rfl, rfl⟩
    · cases h
  · rintro ⟨rfl, rfl⟩
    rw [dif_pos ⟨t.seconds_ge, t.seconds_le, t.nanos_lt⟩]

/-- Earlier or the same: by the second, then by the nanoseconds. -/
instance : LE Instant :=
  ⟨fun a b => a.seconds < b.seconds ∨ a.seconds = b.seconds ∧ a.nanos ≤ b.nanos⟩

instance : LT Instant :=
  ⟨fun a b => a.seconds < b.seconds ∨ a.seconds = b.seconds ∧ a.nanos < b.nanos⟩

instance (a b : Instant) : Decidable (a ≤ b) :=
  inferInstanceAs (Decidable (a.seconds < b.seconds ∨ a.seconds = b.seconds ∧ a.nanos ≤ b.nanos))

instance (a b : Instant) : Decidable (a < b) :=
  inferInstanceAs (Decidable (a.seconds < b.seconds ∨ a.seconds = b.seconds ∧ a.nanos < b.nanos))

theorem le_def {a b : Instant} :
    a ≤ b ↔ a.seconds < b.seconds ∨ a.seconds = b.seconds ∧ a.nanos ≤ b.nanos := Iff.rfl

theorem lt_def {a b : Instant} :
    a < b ↔ a.seconds < b.seconds ∨ a.seconds = b.seconds ∧ a.nanos < b.nanos := Iff.rfl

theorem not_le {a b : Instant} : ¬a ≤ b ↔ b < a := by
  rw [le_def, lt_def]; omega

theorem le_trans {a b c : Instant} (h : a ≤ b) (k : b ≤ c) : a ≤ c := by
  rw [le_def] at *; omega

theorem lt_of_lt_of_le {a b c : Instant} (h : a < b) (k : b ≤ c) : a < c := by
  rw [lt_def] at *; rw [le_def] at k; omega

/-- Some time later, if that moment is in range. A span that leaves a leap second takes it for the
second before it. -/
def add? (t : Instant) (d : Duration) : Option Instant :=
  if 1000000000 ≤ t.nanos ∧ d.seconds = 0 ∧ t.nanos + d.nanos < 2000000000 then
    ofParts? t.seconds (t.nanos + d.nanos)
  else
    let nanos := t.nanos % 1000000000 + d.nanos
    ofParts? (t.seconds + d.seconds + nanos / 1000000000) (nanos % 1000000000)

end Instant

end SignIn
