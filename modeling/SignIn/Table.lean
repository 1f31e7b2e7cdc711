/-!
# Tables

A table has at most one value for each key. Main statements: what is found after an entry was put,
erased or dropped.
-/

namespace SignIn

/-- Values under keys, each key at most once. -/
structure Table (κ α : Type) where
  entries : List (κ × α)
  nodup : (entries.map (·.1)).Nodup

namespace Table

variable {κ α : Type} [DecidableEq κ]

def empty : Table κ α := ⟨[], List.nodup_nil⟩

instance : Inhabited (Table κ α) := ⟨empty⟩

def size (t : Table κ α) : Nat := t.entries.length

def keys (t : Table κ α) : List κ := t.entries.map (·.1)

/-- The value under a key. -/
def get? (t : Table κ α) (key : κ) : Option α := t.entries.lookup key

/-- The entries that pass a test. -/
def filter (t : Table κ α) (keep : κ × α → Bool) : Table κ α :=
  ⟨t.entries.filter keep, t.nodup.sublist (List.filter_sublist.map _)⟩

/-- The table without a key. -/
def erase (t : Table κ α) (key : κ) : Table κ α := t.filter (fun e => e.1 ≠ key)

theorem not_mem_keys_erase (t : Table κ α) (key : κ) :
    key ∉ (t.erase key).entries.map (·.1) := by
  simp [erase, filter]

/-- The table with a value under a key, in place of the value that was there. -/
def put (t : Table κ α) (key : κ) (value : α) : Table κ α :=
  ⟨(key, value) :: (t.erase key).entries,
    List.nodup_cons.2 ⟨t.not_mem_keys_erase key, (t.erase key).nodup⟩⟩

theorem lookup_filter {entries : List (κ × α)} (nodup : (entries.map (·.1)).Nodup)
    (keep : κ × α → Bool) (key : κ) :
    (entries.filter keep).lookup key = (entries.lookup key).filter (fun a => keep (key, a)) := by
  induction entries with
  | nil => rfl
  | cons e rest ih =>
    obtain ⟨k, a⟩ := e
    have ih := ih (List.nodup_cons.1 nodup).2
    have notIn := (List.nodup_cons.1 nodup).1
    rw [List.filter_cons, List.lookup_cons]
    by_cases same : key = k
    · subst same
      have none : rest.lookup key = none := by
        rw [List.lookup_eq_none_iff]
        intro p hp
        have : p.1 ≠ key := fun h => notIn (List.mem_map.2 ⟨p, hp, h⟩)
        simpa using fun h => this h.symm
      by_cases k : keep (key, a) <;> simp [ih, none, k, Option.filter]
    · have other : (key == k) = false := by simpa using same
      by_cases k : keep (k, a) <;> simp [ih, List.lookup_cons, other, k]

@[simp]
theorem get?_empty (key : κ) : (empty : Table κ α).get? key = none := rfl

theorem get?_filter (t : Table κ α) (keep : κ × α → Bool) (key : κ) :
    (t.filter keep).get? key = (t.get? key).filter (fun a => keep (key, a)) :=
  lookup_filter t.nodup keep key

@[grind =]
theorem get?_erase (t : Table κ α) (key other : κ) :
    (t.erase key).get? other = if other = key then none else t.get? other := by
  rw [erase, get?_filter]
  split
  · rename_i h; subst h; cases t.get? other <;> simp
  · rename_i h; cases t.get? other <;> simp [h]

@[grind =]
theorem get?_put (t : Table κ α) (key : κ) (value : α) (other : κ) :
    (t.put key value).get? other = if other = key then some value else t.get? other := by
  have : (t.put key value).get? other =
      if other = key then some value else (t.erase key).get? other := by
    show ((key, value) :: (t.erase key).entries).lookup other = _
    rw [List.lookup_cons]
    by_cases h : other = key
    · simp [h]
    · have : (other == key) = false := by simpa using h
      simp [h, this, get?]
  rw [this, get?_erase]
  split <;> rfl

theorem mem_keys_iff (t : Table κ α) (key : κ) : key ∈ t.keys ↔ (t.get? key).isSome := by
  rw [Option.isSome_iff_ne_none, Ne, get?, List.lookup_eq_none_iff]
  simp only [keys, List.mem_map]
  grind

end Table

end SignIn
