import SignIn.Users.UserId

/-!
# User ids that are written and read

A user id that is written reads back (`UserId.ofText?_text`): its digits are none of the marks that
would make the reader take the text for another form.
-/

namespace SignIn

namespace Text

variable {separator : Char}

theorem split_of_not_mem {part : List Char} (h : separator ∉ part) :
    split separator part = [part] := by
  induction part with
  | nil => rfl
  | cons c rest ih =>
    rw [List.mem_cons, not_or] at h
    rw [split, if_neg (Ne.symm h.1), ih h.2]

theorem split_append {part : List Char} (h : separator ∉ part) (rest : List Char) :
    split separator (part ++ separator :: rest) = part :: split separator rest := by
  induction part with
  | nil => simp [split]
  | cons c part ih =>
    rw [List.mem_cons, not_or] at h
    rw [List.cons_append, split, if_neg (Ne.symm h.1), ih h.2]

theorem split_join {parts : List (List Char)} (hne : parts ≠ [])
    (h : ∀ part ∈ parts, separator ∉ part) : split separator (join separator parts) = parts := by
  induction parts with
  | nil => exact absurd rfl hne
  | cons part parts ih =>
    rw [List.forall_mem_cons] at h
    rcases parts with _ | ⟨next, parts⟩
    · exact split_of_not_mem h.1
    · rw [join, split_append h.1, ih (by simp) h.2]
      simp

end Text

namespace Hex

theorem hyphen_not_mem_encodeChars (bytes : List UInt8) : '-' ∉ encodeChars bytes := by
  have digits : ∀ n : Fin 16, digit n ≠ '-' := by decide
  simp only [encodeChars, encodeByte, List.mem_flatMap, List.mem_cons, List.not_mem_nil, or_false,
    not_exists, not_and, not_or]
  intro b _
  have hb := b.toNat_lt
  exact ⟨(digits ⟨b.toNat / 16, by omega⟩).symm, (digits ⟨b.toNat % 16, by omega⟩).symm⟩

theorem encodeChars_append (a b : List UInt8) :
    encodeChars (a ++ b) = encodeChars a ++ encodeChars b := by simp [encodeChars]

end Hex

namespace UserId

/-- The bytes of an id in the groups in which they are written. -/
def groups (id : UserId) : List (List UInt8) :=
  let b := id.bytes.toList
  [b.take 4, (b.drop 4).take 2, (b.drop 6).take 2, (b.drop 8).take 2, b.drop 10]

theorem chars_eq (id : UserId) : id.chars = Text.join '-' (id.groups.map Hex.encodeChars) := rfl

theorem flatten_groups (id : UserId) : id.groups.flatten = id.bytes.toList := by
  have next : ∀ (b : List UInt8) (n : Nat), (b.drop n).take 2 ++ b.drop (n + 2) = b.drop n := by
    intro b n
    rw [← List.drop_drop, List.take_append_drop]
  simp only [groups, List.flatten_cons, List.flatten_nil, List.append_nil, next,
    List.take_append_drop]

theorem ofHyphenated?_chars (id : UserId) : ofHyphenated? id.chars = some id := by
  have parts : Text.split '-' id.chars = id.groups.map Hex.encodeChars := by
    rw [chars_eq]
    refine Text.split_join (by simp [groups]) fun part h => ?_
    obtain ⟨bytes, -, rfl⟩ := List.mem_map.1 h
    exact Hex.hyphen_not_mem_encodeChars bytes
  have lengths : (id.groups.map fun group => (Hex.encodeChars group).length) = [8, 4, 4, 4, 12] := by
    simp [groups]
  have whole := id.flatten_groups
  unfold ofHyphenated?
  rw [parts]
  simp only [groups, List.map_cons, List.map_nil, List.flatten_cons, List.flatten_nil,
    List.append_nil] at lengths whole ⊢
  rw [if_pos lengths]
  simp only [List.append_assoc, ← Hex.encodeChars_append, whole, Hex.decodeChars_encodeChars,
    Option.bind_some, ofBytes?_toList]

theorem length_chars (id : UserId) : id.chars.length = 36 := by
  simp [chars_eq, groups, Text.join]

/-- An id starts with a digit, so it is not taken for one with the name of a scheme before it. -/
theorem not_scheme (id : UserId) : schemes.contains (id.chars.take 9) = false := by
  have digits : ∀ n : Fin 16, Hex.digit n ≠ 'u' ∧ Hex.digit n ≠ 'U' := by decide
  rcases h : id.bytes.toList with _ | ⟨b, rest⟩
  · have : id.bytes.toList.length = 16 := by simp
    rw [h] at this
    cases this
  · have hb := b.toNat_lt
    have first := digits ⟨b.toNat / 16, by omega⟩
    simp [chars_eq, groups, h, Text.join, Hex.encodeChars, Hex.encodeByte, schemes, first]

theorem ofText?_text (id : UserId) : ofText? id.text = some id := by
  simp only [ofText?, text, String.toList_ofList, ofChars?, length_chars, not_scheme]
  simp [ofHyphenated?_chars]

end UserId

end SignIn
