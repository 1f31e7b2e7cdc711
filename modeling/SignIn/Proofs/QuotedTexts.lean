import Mathlib.Tactic.SplitIfs
import SignIn.Text.Quoted
import SignIn.Text.Split

/-!
# Where a quoted text ends

The form of a character in a quoted text says which character it is and where it ends
(`Text.quotedChar_append_inj`), and so does the form of a text, whatever comes after it
(`Text.quoted_append_inj`).
-/

namespace SignIn.Text

section CodePoints

theorem digitChar_inj {a b : Nat} (ha : a < 16) (hb : b < 16) (h : a.digitChar = b.digitChar) :
    a = b := by
  have digits : ∀ a b : Fin 16, Nat.digitChar a = Nat.digitChar b → a = b := by decide
  exact congrArg Fin.val (digits ⟨a, ha⟩ ⟨b, hb⟩ h)

/-- A number of several digits is written longer than one of a single digit. -/
theorem singleton_ne_toDigits (c d : Char) (n : Nat) : [c] ≠ Nat.toDigits 16 n ++ [d] := by
  intro same
  have length := congrArg List.length same
  have positive := Nat.length_toDigits_pos (b := 16) (n := n)
  simp only [List.length_append, List.length_singleton] at length
  omega

theorem toDigits_inj : ∀ {a b : Nat}, Nat.toDigits 16 a = Nat.toDigits 16 b → a = b := by
  intro a
  induction a using Nat.strongRecOn with
  | ind a ih =>
    intro b same
    rw [Nat.toDigits_eq_if (by decide), Nat.toDigits_eq_if (by decide) (n := b)] at same
    split_ifs at same with small less less
    · exact digitChar_inj small less (List.singleton_inj.1 same)
    · exact absurd same (singleton_ne_toDigits _ _ _)
    · exact absurd same.symm (singleton_ne_toDigits _ _ _)
    · obtain ⟨before, last⟩ := List.append_inj' same rfl
      have quotients : a / 16 = b / 16 := ih (a / 16) (by omega) before
      have remainders : a % 16 = b % 16 :=
        digitChar_inj (Nat.mod_lt a (by decide)) (Nat.mod_lt b (by decide))
          (List.singleton_inj.1 last)
      omega

theorem brace_not_mem_toDigits (n : Nat) : '\x7d' ∉ Nat.toDigits 16 n := by
  have digits : ∀ d : Fin 16, '\x7d' ≠ Nat.digitChar d := by decide
  induction n using Nat.strongRecOn with
  | ind n ih =>
    rw [Nat.toDigits_eq_if (by decide)]
    split
    · rename_i small
      exact fun inside => digits ⟨n, small⟩ (List.mem_singleton.1 inside)
    · rw [List.mem_append, List.mem_singleton, not_or]
      exact ⟨ih (n / 16) (by omega), digits ⟨n % 16, Nat.mod_lt n (by decide)⟩⟩

end CodePoints

/-- The characters whose forms are a backslash and one character. -/
def shortForms : List (Char × Char) :=
  [('\x22', '\x22'), ('\\', '\\'), ('\n', 'n'), ('\r', 'r'), ('\t', 't'), ('\x00', '0')]

theorem quotedChar_cases (c : Char) :
    (∃ form, (c, form) ∈ shortForms ∧ quotedChar c = ['\\', form]) ∨
      quotedChar c = '\\' :: 'u' :: '\x7b' :: codePoint c ++ ['\x7d'] ∨
      quotedChar c = [c] ∧ c ≠ '\\' ∧ c ≠ '\x22' := by
  unfold quotedChar
  split_ifs <;> simp_all [shortForms]

theorem shortForms_inj {a b form : Char} (ha : (a, form) ∈ shortForms)
    (hb : (b, form) ∈ shortForms) : a = b := by
  have forms : ∀ p ∈ shortForms, ∀ q ∈ shortForms, p.2 = q.2 → p.1 = q.1 := by decide
  exact forms _ ha _ hb rfl

theorem u_not_shortForm (c : Char) : (c, 'u') ∉ shortForms := by
  have forms : ∀ p ∈ shortForms, p.2 ≠ 'u' := by decide
  exact fun inside => forms _ inside rfl

theorem codePoint_append_inj {a b : Char} {s t : List Char}
    (h : codePoint a ++ '\x7d' :: s = codePoint b ++ '\x7d' :: t) : a = b ∧ s = t := by
  -- Both are cut at the brace, which no digit is.
  have cut : cut? '\x7d' (codePoint a ++ '\x7d' :: s) = some (codePoint a, s) :=
    cut?_eq_some.2 ⟨rfl, brace_not_mem_toDigits a.toNat⟩
  have cut' : cut? '\x7d' (codePoint a ++ '\x7d' :: s) = some (codePoint b, t) :=
    cut?_eq_some.2 ⟨h, brace_not_mem_toDigits b.toNat⟩
  obtain ⟨digits, rest⟩ := Prod.mk.inj (Option.some.inj (cut.symm.trans cut'))
  exact ⟨Char.toNat_inj.1 (toDigits_inj digits), rest⟩

theorem quotedChar_append_inj {a b : Char} {s t : List Char} :
    quotedChar a ++ s = quotedChar b ++ t ↔ a = b ∧ s = t := by
  refine ⟨fun same => ?_, by rintro ⟨rfl, rfl⟩; rfl⟩
  rcases quotedChar_cases a with ⟨x, short, e⟩ | e | ⟨e, plain, -⟩ <;>
    rcases quotedChar_cases b with ⟨y, short', e'⟩ | e' | ⟨e', plain', -⟩ <;> rw [e, e'] at same <;>
    simp only [List.cons_append, List.nil_append, List.cons.injEq, true_and, List.append_assoc] at same
  · obtain ⟨rfl, rest⟩ := same
    exact ⟨shortForms_inj short short', rest⟩
  · exact absurd (same.1 ▸ short) (u_not_shortForm a)
  · exact absurd same.1.symm plain'
  · exact absurd (same.1 ▸ short') (u_not_shortForm b)
  · exact codePoint_append_inj same
  · exact absurd same.1.symm plain'
  · exact absurd same.1 plain
  · exact absurd same.1 plain
  · exact same

theorem quotedChar_ne_quote (c : Char) (s t : List Char) : quotedChar c ++ s ≠ '\x22' :: t := by
  intro same
  rcases quotedChar_cases c with ⟨x, -, e⟩ | e | ⟨e, -, quote⟩ <;> rw [e] at same <;>
    simp only [List.cons_append, List.cons.injEq] at same
  · exact absurd same.1 (by decide)
  · exact absurd same.1 (by decide)
  · exact quote same.1

theorem flatMap_quotedChar_inj : ∀ {a b s t : List Char},
    a.flatMap quotedChar ++ '\x22' :: s = b.flatMap quotedChar ++ '\x22' :: t → a = b ∧ s = t
  | [], [], s, t, h => ⟨rfl, (List.cons.inj h).2⟩
  | [], d :: b, s, t, h => by
    rw [List.flatMap_cons, List.append_assoc] at h
    exact absurd h.symm (quotedChar_ne_quote d _ _)
  | c :: a, [], s, t, h => by
    rw [List.flatMap_cons, List.append_assoc] at h
    exact absurd h (quotedChar_ne_quote c _ _)
  | c :: a, d :: b, s, t, h => by
    rw [List.flatMap_cons, List.flatMap_cons, List.append_assoc, List.append_assoc] at h
    obtain ⟨rfl, rest⟩ := quotedChar_append_inj.1 h
    obtain ⟨rfl, rfl⟩ := flatMap_quotedChar_inj rest
    exact ⟨rfl, rfl⟩

/-- A quoted text is the form of one text only, and it ends where no other one ends. -/
theorem quoted_append_inj {a b : String} {s t : List Char} :
    (quoted a).toList ++ s = (quoted b).toList ++ t ↔ a = b ∧ s = t := by
  refine ⟨fun same => ?_, by rintro ⟨rfl, rfl⟩; rfl⟩
  rw [quoted, quoted, String.toList_ofList, String.toList_ofList] at same
  simp only [List.cons_append, List.append_assoc, List.nil_append, List.cons.injEq, true_and] at same
  obtain ⟨texts, rest⟩ := flatMap_quotedChar_inj same
  exact ⟨String.toList_inj.1 texts, rest⟩

end SignIn.Text
