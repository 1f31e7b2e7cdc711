import SignIn.Entries
import SignIn.Settings.Tree

/-!
# The tables of a TOML text

A table is opened by its own header, by the header of a table inside it or by a key with points, and
how it was opened decides what may still be put into it: its own header comes once, and a key with
points only reaches into tables that such keys opened. Main statement: what an assignment puts into
a table is found there.
-/

namespace SignIn.Toml

/-- How a table was opened: by its own header, by the header of a table inside it, or by a key with
points. -/
inductive Origin
  | header
  | inner
  | points
  deriving DecidableEq, Repr

/-- What stands under a key: a finished value, a table, or a list of tables of which the last one is
still open. -/
inductive Entry
  | value (tree : Tree)
  | table (origin : Origin) (entries : List (String × Entry))
  | tables (earlier : List (List (String × Entry))) (last : List (String × Entry))

namespace Entry

/-- Changes the table at the end of a path. Tables that are not there are opened on the way. -/
def within (byPoints : Bool) (path : List String)
    (change : Origin → List (String × Entry) → Option (List (String × Entry)))
    (origin : Origin) (entries : List (String × Entry)) : Option (List (String × Entry)) :=
  match path with
  | [] => change origin entries
  | key :: path =>
    match entries.lookup key with
    | none =>
      let origin : Origin := if byPoints then .points else .inner
      (within byPoints path change origin []).map fun inner =>
        Entries.put key (.table origin inner) entries
    | some (.value _) => none
    | some (.tables earlier last) =>
      (within byPoints path change .header last).map fun last =>
        Entries.put key (.tables earlier last) entries
    | some (.table origin inner) =>
      if byPoints ∧ origin = .header then none
      else
        (within byPoints path change origin inner).map fun inner =>
          Entries.put key (.table origin inner) entries

/-- Puts a value under a key that is new. -/
def assign (key : String) (tree : Tree) (entries : List (String × Entry)) :
    Option (List (String × Entry)) :=
  match entries.lookup key with
  | none => some (Entries.put key (.value tree) entries)
  | some _ => none

/-- Puts a value under a key with points: the last part is new in a table that such keys opened. -/
def assignAt (path : List String) (tree : Tree) (origin : Origin)
    (entries : List (String × Entry)) : Option (List (String × Entry)) :=
  match path.getLast? with
  | none => none
  | some key =>
    within true path.dropLast
      (fun opened inner =>
        if opened = .points ↔ path.dropLast = [] then none else assign key tree inner)
      origin entries

/-- Opens a table by its own header. -/
def openTable (key : String) (entries : List (String × Entry)) : Option (List (String × Entry)) :=
  match entries.lookup key with
  | none => some (Entries.put key (.table .header []) entries)
  | some (.table .inner inner) => some (Entries.put key (.table .header inner) entries)
  | some _ => none

/-- Opens one more table of a list of tables. -/
def openNext (key : String) (entries : List (String × Entry)) : Option (List (String × Entry)) :=
  match entries.lookup key with
  | none => some (Entries.put key (.tables [] []) entries)
  | some (.tables earlier last) => some (Entries.put key (.tables (earlier ++ [last]) []) entries)
  | some _ => none

/-- Opens a table at a path, by `openTable` or `openNext`. -/
def openAt (path : List String)
    (opening : String → List (String × Entry) → Option (List (String × Entry)))
    (root : List (String × Entry)) : Option (List (String × Entry)) :=
  match path.getLast? with
  | none => none
  | some key => within false path.dropLast (fun _ entries => opening key entries) .header root

mutual

/-- The tree of an entry. -/
def tree : Entry → Tree
  | value tree => tree
  | table _ entries => .table (trees entries)
  | tables earlier last => .list (tablesOf earlier ++ [.table (trees last)])

def trees : List (String × Entry) → List (String × Tree)
  | [] => []
  | (key, entry) :: rest => (key, tree entry) :: trees rest

def tablesOf : List (List (String × Entry)) → List Tree
  | [] => []
  | entries :: rest => .table (trees entries) :: tablesOf rest

end

/-- The table that assignments make, each under its key. -/
def ofAssignments (assignments : List (List String × Tree)) : Option Tree :=
  let made := assignments.foldlM
    (fun entries (path, tree) => assignAt path tree .header entries) []
  made.map fun entries => .table (trees entries)

end Entry

end SignIn.Toml
