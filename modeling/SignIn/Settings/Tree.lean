import SignIn.Decimal.Binary64

/-!
# Trees of settings

What a settings file holds before its fields are looked up. In a table the first entry with a key
counts.
-/

namespace SignIn

inductive Tree
  | absent
  | bool (value : Bool)
  | integer (value : Int)
  | floating (value : Binary64)
  | text (value : String)
  | list (items : List Tree)
  | table (entries : List (String × Tree))
  deriving Inhabited

end SignIn
