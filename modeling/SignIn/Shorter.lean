/-!
# What a reader leaves

A reader takes items from the front of a list and gives those that are left. There are fewer of them
than there were, so that reading on comes to an end.
-/

namespace SignIn

/-- What is left of a list after at least one item was taken. -/
abbrev Shorter {α : Type} (s : List α) := { r : List α // r.length < s.length }

namespace Shorter

variable {α : Type}

/-- What is left after the first item. -/
def tail (a : α) (rest : List α) : Shorter (a :: rest) := ⟨rest, by simp⟩

/-- What is left after so many items more than the first. -/
def drop (count : Nat) (a : α) (rest : List α) : Shorter (a :: rest) :=
  ⟨rest.drop count, by simp only [List.length_drop, List.length_cons]; omega⟩

/-- What is left, seen from one item before. -/
def after {s : List α} (left : Shorter s) (a : α) : Shorter (a :: s) :=
  ⟨left.1, Nat.lt_succ_of_lt left.2⟩

/-- What is left of a list, seen from one that is no shorter. -/
def ofLe {s t : List α} (left : Shorter s) (le : s.length ≤ t.length) : Shorter t :=
  ⟨left.1, Nat.lt_of_lt_of_le left.2 le⟩

/-- What is left of what is left. -/
def trans {s : List α} (left : Shorter s) (last : Shorter left.1) : Shorter s :=
  last.ofLe (Nat.le_of_lt left.2)

/-- What is left behind more items of a kind. -/
def dropWhile {s : List α} (left : Shorter s) (p : α → Bool) : Shorter s :=
  ⟨left.1.dropWhile p, Nat.lt_of_le_of_lt (List.dropWhile_sublist p).length_le left.2⟩

end Shorter

end SignIn
