import SignIn.Json.Value
import SignIn.Proofs.JsonSpellings

/-!
# JSON that is written and read

A record of texts that is written as an object reads back (`readRecord_compact`), whatever
characters the texts have: the compact form is one of the spellings of the object
(`isObject_compact`).
-/

namespace SignIn

namespace Json

open Utf8

theorem isUnit_control {c : Char} (h : c.toNat < 0x20) :
    IsUnit c.toNat ['0', '0', Nat.digitChar (c.toNat / 16), Nat.digitChar (c.toNat % 16)] := by
  have digit : ∀ n : Fin 16, Hex.value? (Nat.digitChar n) = some n.val := by decide
  have high : Hex.value? (Nat.digitChar (c.toNat / 16)) = some (c.toNat / 16) :=
    digit ⟨c.toNat / 16, by omega⟩
  have low : Hex.value? (Nat.digitChar (c.toNat % 16)) = some (c.toNat % 16) :=
    digit ⟨c.toNat % 16, by omega⟩
  refine ⟨0, 0, c.toNat / 16, c.toNat % 16, ?_, by omega⟩
  simp only [List.map_cons, List.map_nil, high, low]
  rfl

/-- A character is written as a letter after a backslash, as four hexadecimal digits, or as it
is. -/
theorem spells_escapedChar (c : Char) : Spells c (escapedChar c) := by
  unfold escapedChar
  split_ifs with quote slash back tab line feed home control
  · exact .letter (by simp [letterEscapes, quote])
  · exact .letter (by simp [letterEscapes, slash])
  · exact .letter (by simp [letterEscapes, back])
  · exact .letter (by simp [letterEscapes, tab])
  · exact .letter (by simp [letterEscapes, line])
  · exact .letter (by simp [letterEscapes, feed])
  · exact .letter (by simp [letterEscapes, home])
  · exact .unit (isUnit_control control)
  · exact .plain (Nat.not_lt.1 control) quote slash

theorem isText_textChars (text : String) : IsText text (textChars text) := by
  refine ⟨text.toList.map escapedChar, ?_, ?_⟩
  · rw [List.forall₂_map_right_iff]
    exact List.forall₂_same.2 fun c _ => spells_escapedChar c
  · rw [textChars, List.flatMap_def]
    rfl

/-- Members with texts for values, as they are in an object. -/
def textMembers (members : List (String × String)) : List (String × Json) :=
  members.map fun member => (member.1, .text member.2)

/-- A member as it is written. -/
def memberText (member : String × String) : List Char :=
  textChars member.1 ++ ':' :: textChars member.2

theorem isMember_memberText (member : String × String) :
    IsMember member (memberText member) := by
  refine ⟨_, _, [], [], [], [], isText_textChars member.1, isText_textChars member.2, isBlanks_nil,
    isBlanks_nil, isBlanks_nil, isBlanks_nil, ?_⟩
  simp [memberText]

theorem memberChars_eq_join (members : List (String × String)) :
    memberChars (textMembers members) = Text.join ',' (members.map memberText) := by
  induction members with
  | nil => rfl
  | cons member members ih =>
    rcases members with _ | ⟨next, members⟩
    · rfl
    · rw [List.map_cons, Text.join, ← ih]
      · rw [textMembers, List.map_cons, memberChars, Json.chars, memberText]
        · rw [← textMembers, List.append_assoc]
        · simp
      · simp

theorem isObject_compact (members : List (String × String)) :
    IsObject members (object (textMembers members)).chars := by
  refine ⟨members.map memberText, [], [], ?_, isBlanks_nil, isBlanks_nil, ?_⟩
  · rw [List.forall₂_map_right_iff]
    exact List.forall₂_same.2 fun member _ => isMember_memberText member
  · rw [Json.chars, memberChars_eq_join]
    rfl

/-- A record that is written as an object reads back. -/
theorem readRecord_compact {n : Nat} (shape : Shape n) (values : Vector String n)
    (hnodup : shape.fields.toList.Nodup) :
    readRecord shape (encode (object (textMembers (fieldsOf shape values))).compact) =
      .ok values := by
  rw [compact, encode_ofList]
  exact readRecord_spelled (isObject_compact _) (.refl _) hnodup

end Json

end SignIn
