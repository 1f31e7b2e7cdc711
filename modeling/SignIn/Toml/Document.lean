import SignIn.Toml.Value

/-!
# TOML texts

A text is a sequence of statements, each on its own line: a header that opens a table or one more
table of a list, or a key with its value in the table that was opened last.
-/

namespace SignIn.Toml

inductive Statement
  | opensTable (path : List String)
  | opensNext (path : List String)
  | assigns (path : List String) (tree : Tree)

/-- Lists and tables in values stand inside one another to this depth. -/
def maxDepth : Nat := 80

/-- Reads the path in a header and the bracket behind it. -/
def readHeader (s : List Char) : Option (List String × Shorter s) :=
  match readKey s with
  | none => none
  | some (path, left) => (afterMark ']' left.1).map fun rest => (path, left.trans rest)

/-- Reads the path in the header of one more table of a list, and both brackets behind it. -/
def readNextHeader (s : List Char) : Option (List String × Shorter s) :=
  match readHeader s with
  | some (path, ⟨']' :: rest, lt⟩) => some (path, (Shorter.tail ']' rest).ofLe (Nat.le_of_lt lt))
  | _ => none

/-- Reads a statement. -/
def readStatement : Reader Statement
  | '[' :: '[' :: rest =>
    (readNextHeader rest).map fun (path, left) => (.opensNext path, (left.after '[').after '[')
  | '[' :: rest => (readHeader rest).map fun (path, left) => (.opensTable path, left.after '[')
  | s =>
    (readAssignment (readValue maxDepth) s).map fun ((path, tree), left) =>
      (.assigns path tree, left)

/-- What is left of a line after its statement: nothing but a comment, and the end of the line. -/
def afterStatement (s : List Char) : Option { r : List Char // r.length ≤ s.length } :=
  match skipInLine s, length_skipInLine_le s with
  | [], le => some ⟨[], le⟩
  | c :: rest, le =>
    (afterLine (c :: rest)).map fun left => ⟨left.1, Nat.le_of_lt (left.ofLe le).2⟩

/-- Reads statements up to the end. -/
def readStatements (s : List Char) : Option (List Statement) :=
  match skipFiller s with
  | ⟨[], _⟩ => some []
  | ⟨c :: start, le⟩ =>
    match readStatement (c :: start) with
    | none => none
    | some (statement, left) =>
      match afterStatement left.1 with
      | none => none
      | some rest =>
        have := Nat.lt_of_le_of_lt rest.2 (left.ofLe le).2
        (readStatements rest.1).map (statement :: ·)
termination_by s.length
decreasing_by assumption

/-- The entries that were read, and the path of the table that was opened last. -/
structure Draft where
  root : List (String × Entry)
  path : List String

namespace Draft

def empty : Draft := ⟨[], []⟩

/-- Takes a statement in, if it may stand there. -/
def take (draft : Draft) : Statement → Option Draft
  | .opensTable path =>
    (Entry.openAt path Entry.openTable draft.root).map fun root => ⟨root, path⟩
  | .opensNext path =>
    (Entry.openAt path Entry.openNext draft.root).map fun root => ⟨root, path⟩
  | .assigns path tree =>
    (Entry.within false draft.path (Entry.assignAt path tree) .header draft.root).map fun root =>
      { draft with root }

end Draft

/-- The entries of a text. A byte order mark in front does not count. -/
def entries? (text : String) : Option (List (String × Tree)) := do
  let chars := match text.toList with
    | '\ufeff' :: rest => rest
    | chars => chars
  let draft ← (← readStatements chars).foldlM Draft.take Draft.empty
  return Entry.trees draft.root

end SignIn.Toml
