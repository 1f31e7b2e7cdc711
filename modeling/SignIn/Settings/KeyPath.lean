import SignIn.Bytes.Words
import SignIn.Entries
import SignIn.Settings.Tree
import SignIn.Text.Split

/-!
# Paths in keys

A key on the top level of settings may be a path: names with points between them, each with indices
in brackets behind it. Settings are put together key by key: a table is merged into what stands
at the path, and any other value replaces it.
-/

namespace SignIn

/-- One place on a path. An index below zero counts from the end. -/
inductive Place
  | key (name : String)
  | item (index : Int)
  deriving DecidableEq, Repr

namespace Place

def isNameChar (c : Char) : Bool := c.isAlphanum || c == '_' || c == '-'

/-- Reads an index of 64 bits with its closing bracket. -/
def index? (text : List Char) : Option Place :=
  let number := text.dropLast
  let digits := if number.head? = some '-' then number.drop 1 else number
  if text.getLast? ≠ some ']' ∨ digits.isEmpty ∨ ¬digits.all Char.isDigit then none
  else
    let n : Int := digits.foldl (fun n c => 10 * n + (c.toNat - 48)) 0
    let n := if number.head? = some '-' then -n else n
    if Bytes.IsSigned64 n then some (.item n) else none

/-- Reads a name with the indices behind it. -/
def part? (text : List Char) : Option (List Place) :=
  match Text.split '[' text with
  | [] => none
  | name :: indices =>
    if name.isEmpty ∨ ¬name.all isNameChar then none
    else (indices.mapM index?).map (.key (String.ofList name) :: ·)

/-- The path that a key is; any other key is a name. -/
def ofKey (key : String) : List Place :=
  match (Text.split '.' key.toList).mapM part? with
  | some parts => parts.flatten
  | none => [.key key]

end Place

namespace Tree

/-- The entries of a table; anything else has none. -/
def entries : Tree → List (String × Tree)
  | .table entries => entries
  | _ => []

/-- The items of a list; anything else has none. -/
def items : Tree → List Tree
  | .list items => items
  | _ => []

/-- The items with one changed. Where there are too few, absent ones are added at the end, or in
front for an index that counts from the end. -/
def changeItem (index : Int) (change : Tree → Tree) (items : List Tree) : List Tree :=
  if 0 ≤ index then
    (items ++ List.replicate (index.toNat + 1 - items.length) absent).modify index.toNat change
  else
    (List.replicate (index.natAbs - items.length) absent ++ items).modify
      (items.length - index.natAbs) change

/-- Changes what stands at a path. Tables and lists that are not there are made. -/
def change (path : List Place) (f : Tree → Tree) (tree : Tree) : Tree :=
  match path with
  | [] => f tree
  | .key name :: path =>
    .table (Entries.alter name (fun old => change path f (old.getD absent)) tree.entries)
  | .item index :: path => .list (changeItem index (change path f) tree.items)

mutual

/-- Merges a table into a tree entry by entry; any other value replaces the tree. -/
def merge : Tree → Tree → Tree
  | .table new, old => .table (mergeEntries new old.entries)
  | new, _ => new

def mergeEntries : List (String × Tree) → List (String × Tree) → List (String × Tree)
  | [], old => old
  | (key, value) :: rest, old =>
    mergeEntries rest (Entries.alter key (fun found => merge value (found.getD absent)) old)

end

/-- The tree that the entries of a settings file make. -/
def ofTopLevel (entries : List (String × Tree)) : Tree :=
  entries.foldl (fun tree (key, value) => tree.change (Place.ofKey key) (merge value)) (.table [])

end Tree

end SignIn
