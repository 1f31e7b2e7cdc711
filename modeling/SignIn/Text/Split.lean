/-!
# Parts of a text

A text is cut at every separator; joined again, the parts give the text. A text may also be cut at
the first separator only.
-/

namespace SignIn.Text

/-- The parts of a text between separators; there is always one. -/
def split (separator : Char) : List Char → List (List Char)
  | [] => [[]]
  | c :: rest =>
    if c = separator then [] :: split separator rest
    else
      match split separator rest with
      | [] => [[c]]
      | part :: parts => (c :: part) :: parts

/-- Parts with a separator between them. -/
def join (separator : Char) : List (List Char) → List Char
  | [] => []
  | [part] => part
  | part :: parts => part ++ separator :: join separator parts

theorem split_ne_nil (separator : Char) (text : List Char) : split separator text ≠ [] := by
  unfold split
  split
  · simp
  · split
    · simp
    · split <;> simp

@[simp]
theorem join_split (separator : Char) (text : List Char) :
    join separator (split separator text) = text := by
  induction text with
  | nil => rfl
  | cons c rest ih =>
    rw [split]
    split
    · rename_i h
      subst h
      cases e : split c rest with
      | nil => exact absurd e (split_ne_nil c rest)
      | cons part parts => rw [e] at ih; simp [join, ih]
    · cases e : split separator rest with
      | nil => exact absurd e (split_ne_nil separator rest)
      | cons part parts =>
        rw [e] at ih
        cases parts with
        | nil => simpa [join] using ih
        | cons p ps => simpa [join] using ih

theorem not_mem_of_mem_split {separator : Char} {text part : List Char}
    (h : part ∈ split separator text) : separator ∉ part := by
  induction text generalizing part with
  | nil => simp [split] at h; simp [h]
  | cons c rest ih =>
    rw [split] at h
    split at h
    · rcases List.mem_cons.1 h with rfl | h
      · simp
      · exact ih h
    · rename_i ne
      cases e : split separator rest with
      | nil => exact absurd e (split_ne_nil separator rest)
      | cons first parts =>
        rw [e] at h
        rcases List.mem_cons.1 h with rfl | h
        · have := @ih first (by rw [e]; simp)
          simp only [List.mem_cons, not_or]
          exact ⟨fun k => ne k.symm, this⟩
        · exact ih (by rw [e]; exact List.mem_cons_of_mem _ h)

/-- What stands before the first separator and what stands after it, if there is one. -/
def cut? (separator : Char) : List Char → Option (List Char × List Char)
  | [] => none
  | c :: rest =>
    if c = separator then some ([], rest)
    else (cut? separator rest).map fun (before, after) => (c :: before, after)

theorem cut?_eq_some {separator : Char} {text before after : List Char} :
    cut? separator text = some (before, after) ↔
      text = before ++ separator :: after ∧ separator ∉ before := by
  induction text generalizing before with
  | nil => simp [cut?]
  | cons c rest ih =>
    rw [cut?]
    split
    · rename_i h
      subst h
      cases before with
      | nil => simp [eq_comm]
      | cons b before =>
        simp only [List.cons_append, List.cons.injEq, List.mem_cons, not_or]
        grind
    · rename_i ne
      cases before with
      | nil =>
        simp only [Option.map_eq_some_iff, Prod.mk.injEq, Prod.exists, List.nil_append,
          List.cons.injEq]
        grind
      | cons b before =>
        simp only [Option.map_eq_some_iff, Prod.mk.injEq, Prod.exists, List.cons_append,
          List.cons.injEq, List.mem_cons, not_or]
        constructor
        · rintro ⟨x, y, h, ⟨rfl, rfl⟩, rfl⟩
          exact ⟨⟨rfl, (ih.1 h).1⟩, fun k => ne k.symm, (ih.1 h).2⟩
        · rintro ⟨⟨rfl, h⟩, _, k⟩
          exact ⟨before, after, ih.2 ⟨h, k⟩, ⟨rfl, rfl⟩, rfl⟩

end SignIn.Text
