import SignIn.Bytes.Hex
import SignIn.Bytes.Utf8
import SignIn.Json.Number
import SignIn.Shorter

/-!
# Reading JSON text

Every step takes bytes from the front and returns those that are left. Main statements: white
space, a text and a value that is passed over each leave no more than there was.
-/

namespace SignIn.Json

def isBlank (b : UInt8) : Bool := b == 0x20 || b == 0x0a || b == 0x09 || b == 0x0d

def skipBlanks (s : List UInt8) : List UInt8 := s.dropWhile isBlank

theorem length_skipBlanks_le (s : List UInt8) : (skipBlanks s).length ≤ s.length :=
  (List.dropWhile_sublist isBlank).length_le

/-- What is left behind the first byte that is no blank. -/
def afterBlanks {s : List UInt8} {b : UInt8} {rest : List UInt8} (h : skipBlanks s = b :: rest) :
    Shorter s :=
  (Shorter.tail b rest).ofLe (h ▸ length_skipBlanks_le s)

/-- Bytes of a character. -/
def charBytes (code : Nat) : List UInt8 := Utf8.encode (Char.ofNat code).toString

/-- The character that a letter after a backslash stands for. -/
def simpleEscape (b : UInt8) : Option UInt8 :=
  if b = 0x22 ∨ b = 0x5c ∨ b = 0x2f then some b
  else if b = 0x62 then some 0x08
  else if b = 0x66 then some 0x0c
  else if b = 0x6e then some 0x0a
  else if b = 0x72 then some 0x0d
  else if b = 0x74 then some 0x09
  else none

/-- Reads four hexadecimal digits. -/
def readUnit (s : List UInt8) : Except Fault (Nat × Shorter s) :=
  match s with
  | a :: b :: c :: d :: rest =>
    let value (b : UInt8) := Hex.value? (Char.ofNat b.toNat)
    match value a, value b, value c, value d with
    | some i, some j, some k, some l =>
      .ok (4096 * i + 256 * j + 16 * k + l, (((Shorter.tail d rest).after c).after b).after a)
    | _, _, _, _ => .error ⟨.invalidEscape, rest.length⟩
  | _ => .error ⟨.endInText, 0⟩

/-- Reads the second half of a pair of escapes that stand for one character. -/
def readTrail (s : List UInt8) : Except Fault (Nat × Shorter s) :=
  match s with
  | [] => .error ⟨.endInText, 0⟩
  | 0x5c :: [] => .error ⟨.endInText, 0⟩
  | 0x5c :: 0x75 :: rest =>
    match readUnit rest with
    | .error fault => .error fault
    | .ok (unit, left) =>
      if 0xdc00 ≤ unit ∧ unit ≤ 0xdfff then
        .ok (unit, (left.after 0x75).after 0x5c)
      else .error ⟨.loneSurrogate, left.1.length⟩
  | 0x5c :: _ :: rest => .error ⟨.endInEscape, rest.length⟩
  | _ :: rest => .error ⟨.endInEscape, rest.length⟩

/-- Reads an escape after its backslash. -/
def readEscape (s : List UInt8) : Except Fault (List UInt8 × Shorter s) :=
  match s with
  | [] => .error ⟨.endInText, 0⟩
  | 0x75 :: rest =>
    match readUnit rest with
    | .error fault => .error fault
    | .ok (unit, left) =>
      if 0xdc00 ≤ unit ∧ unit ≤ 0xdfff then .error ⟨.loneSurrogate, left.1.length⟩
      else if 0xd800 ≤ unit ∧ unit ≤ 0xdbff then
        match readTrail left.1 with
        | .error fault => .error fault
        | .ok (trail, last) =>
          .ok (charBytes (0x10000 + 1024 * (unit - 0xd800) + (trail - 0xdc00)),
            (left.trans last).after 0x75)
      else .ok (charBytes unit, left.after 0x75)
  | b :: rest =>
    match simpleEscape b with
    | some c => .ok ([c], .tail b rest)
    | none => .error ⟨.invalidEscape, rest.length⟩

/-- Reads the bytes of a text after its first quotation mark. -/
def readTextBytes (s : List UInt8) : Except Fault (List UInt8 × Shorter s) :=
  match s with
  | [] => .error ⟨.endInText, 0⟩
  | b :: rest =>
    if b = 0x22 then .ok ([], .tail b rest)
    else if b = 0x5c then
      match readEscape rest with
      | .error fault => .error fault
      | .ok (bytes, left) =>
        have := (left.after b).2
        match readTextBytes left.1 with
        | .error fault => .error fault
        | .ok (more, last) => .ok (bytes ++ more, (left.trans last).after b)
    else if b < 0x20 then .error ⟨.controlCharacter, rest.length⟩
    else
      have := (Shorter.tail b rest).2
      match readTextBytes rest with
      | .error fault => .error fault
      | .ok (more, last) => .ok (b :: more, last.after b)
termination_by s.length
decreasing_by all_goals assumption

/-- Reads a text after its first quotation mark. Bytes that are no text are refused at its last
one. -/
def readText (s : List UInt8) : Except Fault (String × Shorter s) :=
  match readTextBytes s with
  | .error fault => .error fault
  | .ok (bytes, left) =>
    match Utf8.decode bytes with
    | some value => .ok (value, left)
    | none => .error ⟨.invalidCodePoint, left.1.length + 1⟩

/-- Passes over a text after its first quotation mark. Its characters are not looked at. -/
def skipText (s : List UInt8) : Except Fault (Shorter s) :=
  match s with
  | [] => .error ⟨.endInText, 0⟩
  | 0x5c :: [] => .error ⟨.endInText, 0⟩
  | 0x5c :: 0x75 :: rest =>
    match readUnit rest with
    | .error fault => .error fault
    | .ok (_, left) =>
      let left := (left.after 0x75).after 0x5c
      have := left.2
      (skipText left.1).map left.trans
  | 0x5c :: b :: rest =>
    if (simpleEscape b).isNone then .error ⟨.invalidEscape, rest.length⟩
    else
      let left := (Shorter.tail b rest).after 0x5c
      have := left.2
      (skipText left.1).map left.trans
  | b :: rest =>
    if b = 0x22 then .ok (.tail b rest)
    else if b < 0x20 then .error ⟨.controlCharacter, rest.length + 1⟩
    else
      have := (Shorter.tail b rest).2
      (skipText rest).map fun last => last.after b
termination_by s.length
decreasing_by all_goals assumption

/-- Reads the rest of a word such as `null`. -/
def readIdent : List UInt8 → (s : List UInt8) → Except Fault (List UInt8)
  | [], s => .ok s
  | _ :: _, [] => .error ⟨.endInValue, 0⟩
  | x :: word, b :: rest =>
    if b = x then readIdent word rest else .error ⟨.expectedIdent, rest.length⟩

theorem length_le_of_readIdent {word s r : List UInt8} (h : readIdent word s = .ok r) :
    r.length ≤ s.length := by
  induction word generalizing s with
  | nil => cases h; exact Nat.le_refl _
  | cons x word ih =>
    match s with
    | [] => cases h
    | b :: rest =>
      rw [readIdent] at h
      split at h
      · have := ih h; simp only [List.length_cons]; omega
      · cases h

/-- Passes over the digits of an exponent after its letter. -/
def skipExponent (s : List UInt8) : Except Fault (List UInt8) :=
  match afterSign s with
  | [] => .error ⟨.invalidNumber, 0⟩
  | b :: rest => if isDigit b then .ok (afterDigits rest) else .error ⟨.invalidNumber, rest.length⟩

theorem length_le_of_skipExponent {s r : List UInt8} (h : skipExponent s = .ok r) :
    r.length ≤ s.length := by
  unfold skipExponent at h
  have le := length_afterSign_le s
  split at h
  · cases h
  · rename_i rest eq
    rw [eq] at le
    split at h
    · cases h
      have := length_afterDigits_le rest
      simp only [List.length_cons] at le; omega
    · cases h

/-- Passes over a number after its sign. -/
def skipNumber (s : List UInt8) : Except Fault (List UInt8) :=
  match s with
  | [] => .error ⟨.invalidNumber, 0⟩
  | b :: rest =>
    let left := afterDigits rest
    if ¬isDigit b then .error ⟨.invalidNumber, rest.length⟩
    else if b = 0x30 ∧ left.length < rest.length then refuse .invalidNumber rest
    else
      match left with
      | 0x2e :: fraction =>
        let left := afterDigits fraction
        if left.length = fraction.length then refuse .invalidNumber fraction
        else
          match left with
          | 0x65 :: exponent | 0x45 :: exponent => skipExponent exponent
          | _ => .ok left
      | 0x65 :: exponent | 0x45 :: exponent => skipExponent exponent
      | _ => .ok left

theorem length_le_of_skipNumber {s r : List UInt8} (h : skipNumber s = .ok r) :
    r.length ≤ s.length := by
  unfold skipNumber at h
  split at h
  · cases h
  · rename_i b rest
    have le := length_afterDigits_le rest
    dsimp only at h
    split at h
    · cases h
    · split at h
      · cases h
      · split at h
        · rename_i fraction eq
          have le' := length_afterDigits_le fraction
          rw [eq] at le
          simp only [List.length_cons] at le ⊢
          split at h
          · cases h
          · split at h
            · rename_i eq'
              rw [eq'] at le'
              have := length_le_of_skipExponent h
              simp only [List.length_cons] at le'; omega
            · rename_i eq'
              rw [eq'] at le'
              have := length_le_of_skipExponent h
              simp only [List.length_cons] at le'; omega
            · cases h; omega
        · rename_i eq
          rw [eq] at le
          have := length_le_of_skipExponent h
          simp only [List.length_cons] at le ⊢; omega
        · rename_i eq
          rw [eq] at le
          have := length_le_of_skipExponent h
          simp only [List.length_cons] at le ⊢; omega
        · cases h; simp only [List.length_cons]; omega

end SignIn.Json
