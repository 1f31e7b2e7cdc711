import SignIn.Json.Scan

/-!
# Values passed over

A value whose content does not matter is only checked for its form: brackets, commas, colons and
the forms of scalars. Main statement: what follows it is never more than there was.
-/

namespace SignIn.Json

/-- The kind of a bracket that is open. -/
inductive Bracket
  | list
  | object

namespace Bracket

def closing : Bracket → UInt8
  | list => 0x5d
  | object => 0x7d

def endInside : Bracket → Cause
  | list => .endInList
  | object => .endInObject

def endExpected : Bracket → Cause
  | list => .expectedListEnd
  | object => .expectedObjectEnd

end Bracket

/-- Reads the colon after a key. -/
def readColon (s : List UInt8) : Except Fault (Shorter s) :=
  match h : skipBlanks s with
  | [] => .error ⟨.endInObject, 0⟩
  | b :: rest =>
    if b = 0x3a then .ok (afterBlanks h) else refuse .expectedColon (b :: rest)

/-- Passes over the key of a member, or over nothing in a list. -/
def skipKey (bracket : Bracket) (s : List UInt8) :
    Except Fault { r : List UInt8 // r.length ≤ s.length } :=
  match bracket with
  | .list => .ok ⟨s, Nat.le_refl _⟩
  | .object =>
    match h : skipBlanks s with
    | [] => .error ⟨.endInObject, 0⟩
    | b :: rest =>
      if b = 0x22 then
        match skipText rest with
        | .error fault => .error fault
        | .ok left =>
          (readColon left.1).map fun last =>
            ⟨last.1, Nat.le_of_lt ((afterBlanks h).trans (left.trans last)).2⟩
      else refuse .keyNotText (b :: rest)

/-- Passes over a value that is no list and no object. -/
def skipScalar (b : UInt8) (rest : List UInt8) : Except Fault (List UInt8) :=
  if b = 0x6e then readIdent [0x75, 0x6c, 0x6c] rest
  else if b = 0x74 then readIdent [0x72, 0x75, 0x65] rest
  else if b = 0x66 then readIdent [0x61, 0x6c, 0x73, 0x65] rest
  else if b = 0x2d then skipNumber rest
  else if isDigit b then skipNumber (b :: rest)
  else if b = 0x22 then (skipText rest).map (·.1)
  else refuse .expectedValue (b :: rest)

theorem length_le_of_skipScalar {b : UInt8} {rest r : List UInt8}
    (h : skipScalar b rest = .ok r) : r.length ≤ rest.length + 1 := by
  unfold skipScalar at h
  split at h
  · have := length_le_of_readIdent h; omega
  split at h
  · have := length_le_of_readIdent h; omega
  split at h
  · have := length_le_of_readIdent h; omega
  split at h
  · have := length_le_of_skipNumber h; omega
  split at h
  · exact length_le_of_skipNumber h
  split at h
  · cases e : skipText rest with
    | error fault => rw [e] at h; cases h
    | ok left =>
      rw [e] at h
      cases h
      exact Nat.le_succ_of_le (Nat.le_of_lt left.2)
  · cases h

/-- What is expected next while a value is passed over. -/
inductive Stage
  | next
  | value
  | first

namespace Stage

def rank : Stage → Nat
  | next => 0
  | value => 1
  | first => 2

end Stage

/-- Passes over the rest of a value inside the open brackets, the innermost first: a value itself,
what stands behind an opening bracket, or what stands behind a value. -/
def passOver (stage : Stage) (opened : List Bracket) (s : List UInt8) :
    Except Fault { r : List UInt8 // r.length ≤ s.length } :=
  have shorter := length_skipBlanks_le s
  match stage, opened with
  | .value, _ =>
    match h : skipBlanks s with
    | [] => .error ⟨.endInValue, 0⟩
    | b :: rest =>
      have : rest.length < s.length := by simp only [h, List.length_cons] at shorter; omega
      if b = 0x5b then (passOver .first (.list :: opened) rest).map fun r => ⟨r.1, by omega⟩
      else if b = 0x7b then (passOver .first (.object :: opened) rest).map fun r => ⟨r.1, by omega⟩
      else
        match e : skipScalar b rest with
        | .error fault => .error fault
        | .ok left =>
          have := length_le_of_skipScalar e
          (passOver .next opened left).map fun r => ⟨r.1, by omega⟩
  | .first, [] => .ok ⟨s, Nat.le_refl _⟩
  | .first, bracket :: outer =>
    match h : skipBlanks s with
    | [] => .error ⟨bracket.endInside, 0⟩
    | b :: rest =>
      have : rest.length < s.length := by simp only [h, List.length_cons] at shorter; omega
      if b = bracket.closing then (passOver .next outer rest).map fun r => ⟨r.1, by omega⟩
      else
        match skipKey bracket (b :: rest) with
        | .error fault => .error fault
        | .ok left =>
          have := left.2
          have : left.1.length ≤ s.length := by simp only [List.length_cons] at this; omega
          (passOver .value opened left.1).map fun r => ⟨r.1, by omega⟩
  | .next, [] => .ok ⟨s, Nat.le_refl _⟩
  | .next, bracket :: outer =>
    match h : skipBlanks s with
    | [] => .error ⟨bracket.endInside, 0⟩
    | b :: rest =>
      have : rest.length < s.length := by simp only [h, List.length_cons] at shorter; omega
      if b = 0x2c then
        match skipKey bracket rest with
        | .error fault => .error fault
        | .ok left =>
          have := left.2
          (passOver .value opened left.1).map fun r => ⟨r.1, by omega⟩
      else if b = bracket.closing then (passOver .next outer rest).map fun r => ⟨r.1, by omega⟩
      else refuse bracket.endExpected (b :: rest)
termination_by (s.length, stage.rank)
decreasing_by
  all_goals simp_wf
  all_goals first
    | (apply Prod.Lex.left; omega)
    | (rw [Prod.lex_def]; simp only [Stage.rank]; omega)

/-- Passes over one value. -/
def skipValue (s : List UInt8) : Except Fault { r : List UInt8 // r.length ≤ s.length } :=
  passOver .value [] s

end SignIn.Json
