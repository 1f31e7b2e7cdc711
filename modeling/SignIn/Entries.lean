/-!
# Entries

Values under keys, in the order in which the keys were first put.
-/

namespace SignIn.Entries

variable {α : Type}

/-- The entries with the value under a key changed or, if there is none, made at the end. -/
def alter (key : String) (change : Option α → α) : List (String × α) → List (String × α)
  | [] => [(key, change none)]
  | (k, value) :: rest =>
    if k = key then (k, change (some value)) :: rest else (k, value) :: alter key change rest

/-- The entries with a value under a key, in place of the value that was there. -/
def put (key : String) (value : α) (entries : List (String × α)) : List (String × α) :=
  alter key (fun _ => value) entries

end SignIn.Entries
