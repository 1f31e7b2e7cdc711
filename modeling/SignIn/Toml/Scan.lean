import SignIn.Bytes.Hex
import SignIn.Shorter

/-!
# Reading TOML text

A text that a step does not take is refused as a whole, so no reason is kept.
-/

namespace SignIn.Toml

/-- A reader takes a value from the front. -/
abbrev Reader (α : Type) := (s : List Char) → Option (α × Shorter s)

def isBlank (c : Char) : Bool := c == ' ' || c == '\t'

/-- Characters that stand in comments and texts as they are. -/
def isPlain (c : Char) : Bool := c == '\t' || (0x20 ≤ c.toNat && c.toNat != 0x7f)

def skipBlanks (s : List Char) : List Char := s.dropWhile isBlank

theorem length_skipBlanks_le (s : List Char) : (skipBlanks s).length ≤ s.length :=
  (List.dropWhile_sublist isBlank).length_le

theorem length_dropPlain_le (s : List Char) : (s.dropWhile isPlain).length ≤ s.length :=
  (List.dropWhile_sublist isPlain).length_le

/-- Takes the end of a line. -/
def afterLine (s : List Char) : Option (Shorter s) :=
  match s with
  | '\n' :: rest => some (.tail '\n' rest)
  | '\r' :: '\n' :: rest => some ((Shorter.tail '\n' rest).after '\r')
  | _ => none

/-- Skips a comment up to the end of its line. -/
def skipComment (s : List Char) : List Char :=
  match s with
  | '#' :: rest => rest.dropWhile isPlain
  | _ => s

theorem length_skipComment_le (s : List Char) : (skipComment s).length ≤ s.length := by
  unfold skipComment
  split
  · have := length_dropPlain_le ‹List Char›
    simp only [List.length_cons]; omega
  · exact Nat.le_refl _

/-- Skips blanks and the comment behind them. -/
def skipInLine (s : List Char) : List Char := skipComment (skipBlanks s)

theorem length_skipInLine_le (s : List Char) : (skipInLine s).length ≤ s.length :=
  Nat.le_trans (length_skipComment_le _) (length_skipBlanks_le s)

/-- Skips blanks, comments and the ends of lines. -/
def skipFiller (s : List Char) : { r : List Char // r.length ≤ s.length } :=
  match afterLine (skipInLine s) with
  | none => ⟨skipInLine s, length_skipInLine_le s⟩
  | some rest =>
    let rest := rest.ofLe (length_skipInLine_le s)
    have := rest.2
    let left := skipFiller rest.1
    ⟨left.1, Nat.le_trans left.2 (Nat.le_of_lt rest.2)⟩
termination_by s.length
decreasing_by assumption

/-- The character whose code so many hexadecimal digits at the front are. -/
def code? (count : Nat) (s : List Char) : Option Char :=
  let digits := s.take count
  let code : Option Nat := digits.foldlM (fun n c => (Hex.value? c).map (16 * n + ·)) 0
  match code with
  | some n => if digits.length = count ∧ n.isValidChar then some (Char.ofNat n) else none
  | none => none

/-- Reads an escape after its backslash. -/
def readEscape : Reader Char
  | [] => none
  | c :: rest =>
    let keep (char : Char) : Option (Char × Shorter (c :: rest)) := some (char, .tail c rest)
    let code (count : Nat) : Option (Char × Shorter (c :: rest)) :=
      (code? count rest).map fun char => (char, .drop count c rest)
    if c = 'b' then keep '\x08'
    else if c = 't' then keep '\t'
    else if c = 'n' then keep '\n'
    else if c = 'f' then keep '\x0c'
    else if c = 'r' then keep '\r'
    else if c = 'e' then keep '\x1b'
    else if c = '\x22' ∨ c = '\\' then keep c
    else if c = 'x' then code 2
    else if c = 'u' then code 4
    else if c = 'U' then code 8
    else none

/-- Reads a text of one line with escapes, after its first quotation mark. -/
def readBasic (s : List Char) : Option (List Char × Shorter s) :=
  match s with
  | [] => none
  | c :: rest =>
    if c = '\x22' then some ([], .tail c rest)
    else if c = '\\' then
      match readEscape rest with
      | none => none
      | some (char, left) =>
        have := left.2
        (readBasic left.1).map fun (more, last) => (char :: more, (left.trans last).after c)
    else if isPlain c then
      (readBasic rest).map fun (more, last) => (c :: more, last.after c)
    else none
termination_by s.length
decreasing_by all_goals simp only [List.length_cons]; omega

/-- Reads a text of one line without escapes, after its first apostrophe. -/
def readLiteral : Reader (List Char)
  | [] => none
  | c :: rest =>
    if c = '\'' then some ([], .tail c rest)
    else if isPlain c then (readLiteral rest).map fun (more, last) => (c :: more, last.after c)
    else none

/-- The quotation marks that end a text of several lines, if it ends here: two more than the three
may belong to the text. -/
def closing? (mark : Char) (s : List Char) : Option Nat :=
  let run := (s.takeWhile (· == mark)).length
  if 3 ≤ run then some (min run 5) else none

/-- Skips a line end after a backslash with all blanks and line ends behind it. -/
def afterContinuation (s : List Char) : Option (Shorter s) :=
  (afterLine (skipBlanks s)).map fun rest =>
    (rest.dropWhile fun c => isBlank c || c == '\n' || c == '\r').ofLe (length_skipBlanks_le s)

/-- Reads a text of several lines after its first three marks, with escapes if the mark is a
quotation mark. A line end is a line feed, however it is written. -/
def readLines (mark : Char) (s : List Char) : Option (List Char × Shorter s) :=
  match s with
  | [] => none
  | c :: rest =>
    match closing? mark (c :: rest) with
    | some (n + 1) => some (List.replicate (n + 1 - 3) mark, .drop n c rest)
    | _ =>
      let next (char : List Char) (left : Shorter (c :: rest)) :
          Option (List Char × Shorter (c :: rest)) :=
        have := left.2
        (readLines mark left.1).map fun (more, last) => (char ++ more, left.trans last)
      if c = '\\' ∧ mark = '\x22' then
        match afterContinuation rest with
        | some left => next [] (left.after c)
        | none =>
          match readEscape rest with
          | none => none
          | some (char, left) => next [char] (left.after c)
      else
        match afterLine (c :: rest) with
        | some left => next ['\n'] left
        | none => if isPlain c then next [c] (.tail c rest) else none
termination_by s.length
decreasing_by assumption

/-- Reads a text of several lines after its first three marks. A line end right behind them does not
count. -/
def readMultiline (mark : Char) (s : List Char) : Option (List Char × Shorter s) :=
  match afterLine s with
  | some rest => (readLines mark rest.1).map fun (text, last) => (text, rest.trans last)
  | none => readLines mark s

def isBareKey (c : Char) : Bool := c.isAlphanum || c == '_' || c == '-'

/-- Reads one part of a key. -/
def readKeyPart (s : List Char) : Option (String × Shorter s) :=
  match s with
  | [] => none
  | c :: rest =>
    let part : Option (List Char × Shorter (c :: rest)) :=
      if c = '\x22' then (readBasic rest).map fun (text, left) => (text, left.after c)
      else if c = '\'' then (readLiteral rest).map fun (text, left) => (text, left.after c)
      else if isBareKey c then
        some (c :: rest.takeWhile isBareKey, (Shorter.tail c rest).dropWhile isBareKey)
      else none
    part.map fun (text, left) => (String.ofList text, left)

/-- Takes a character that blanks may stand before. -/
def afterMark (mark : Char) (s : List Char) : Option (Shorter s) :=
  match skipBlanks s, length_skipBlanks_le s with
  | c :: rest, le => if c = mark then some ((Shorter.tail c rest).ofLe le) else none
  | [], _ => none

/-- Reads a key: parts with points between them, and blanks around the points. -/
def readKey (s : List Char) : Option (List String × Shorter s) :=
  match readKeyPart (skipBlanks s) with
  | none => none
  | some (part, left) =>
    let left := left.ofLe (length_skipBlanks_le s)
    match afterMark '.' left.1 with
    | some rest =>
      have := (left.trans rest).2
      (readKey rest.1).map fun (parts, last) => (part :: parts, (left.trans rest).trans last)
    | none => some ([part], left)
termination_by s.length
decreasing_by assumption

end SignIn.Toml
