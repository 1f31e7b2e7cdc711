import SignIn.Toml.Entry
import SignIn.Toml.Scalar

/-!
# TOML values

A value is a bare one, a text between marks, a list between brackets or a table between braces.
Lists and tables stand inside one another to a limited depth.
-/

namespace SignIn.Toml

/-- Reads items with commas between them up to a closing bracket. A comma may follow the last. -/
def readItems {α : Type} (closing : Char) (item : Reader α) (s : List Char) :
    Option (List α × Shorter s) :=
  match skipFiller s with
  | ⟨[], _⟩ => none
  | ⟨c :: rest, le⟩ =>
    if c = closing then some ([], (Shorter.tail c rest).ofLe le)
    else
      match item (c :: rest) with
      | none => none
      | some (a, left) =>
        let left := left.ofLe le
        match skipFiller left.1 with
        | ⟨[], _⟩ => none
        | ⟨d :: last, le⟩ =>
          let last := left.trans ((Shorter.tail d last).ofLe le)
          if d = closing then some ([a], last)
          else if d = ',' then
            have := last.2
            (readItems closing item last.1).map fun (more, final) => (a :: more, last.trans final)
          else none
termination_by s.length
decreasing_by assumption

/-- Reads a key with its value. -/
def readAssignment (value : Reader Tree) : Reader (List String × Tree) := fun s =>
  match readKey s with
  | none => none
  | some (key, left) =>
    match afterMark '=' left.1 with
    | none => none
    | some rest =>
      (value (skipBlanks rest.1)).map fun (tree, last) =>
        ((key, tree), (left.trans rest).trans (last.ofLe (length_skipBlanks_le rest.1)))

/-- Reads a text between marks, after the first one: three marks begin a text of several lines. -/
def readMarked (mark : Char) (s : List Char) : Option (List Char × Shorter s) :=
  let line (s : List Char) : Option (List Char × Shorter s) :=
    if mark = '\x22' then readBasic s else readLiteral s
  match s with
  | c :: d :: rest =>
    if c = mark ∧ d = mark then
      (readMultiline mark rest).map fun (text, left) => (text, (left.after d).after c)
    else line (c :: d :: rest)
  | [c] => line [c]
  | [] => none

/-- Reads a value that is no list and no table. -/
def readScalar (c : Char) (rest : List Char) : Option (Tree × Shorter (c :: rest)) :=
  if c = '\x22' ∨ c = '\'' then
    (readMarked c rest).map fun (text, left) => (.text (String.ofList text), left.after c)
  else readBare (c :: rest)

/-- Reads a value with no more than so many lists and tables inside one another. -/
def readValue : Nat → Reader Tree
  | _, [] => none
  | 0, c :: rest => if c = '[' ∨ c = '\x7b' then none else readScalar c rest
  | depth + 1, c :: rest =>
    if c = '[' then
      (readItems ']' (readValue depth) rest).map fun (items, left) => (.list items, left.after c)
    else if c = '\x7b' then
      match readItems '\x7d' (readAssignment (readValue depth)) rest with
      | none => none
      | some (assignments, left) =>
        (Entry.ofAssignments assignments).map fun tree => (tree, left.after c)
    else readScalar c rest

end SignIn.Toml
