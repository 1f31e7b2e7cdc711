import SignIn.Settings.Tree
import SignIn.Text.Quoted

/-!
# Faults in settings

Why a tree does not fit what is looked up in it: a field is missing, a value is of another type, or
a list is too short for the fields in it. A fault tells the path to where it lies.
-/

namespace SignIn

/-- One step down a tree. -/
inductive Step
  | key (name : String)
  | item (index : Nat)
  deriving DecidableEq, Repr

/-- A path in text. A point stands between two names that follow each other. -/
def Step.pathText : List Step → String
  | [] => ""
  | .item index :: path => s!"[{index}]" ++ pathText path
  | [.key name] => name
  | .key name :: .item index :: path => name ++ pathText (.item index :: path)
  | .key name :: path => name ++ "." ++ pathText path

/-- What was found. Words are numbers that a value was already taken for. -/
inductive Found
  | nothing
  | boolean (value : Bool)
  | integer (value : Int)
  | floating (value : Binary64)
  | text (value : String)
  | sequence
  | map
  | signedWord (value : Int)
  | unsignedWord (value : UInt64)
  deriving DecidableEq, Repr

namespace Found

def ofTree : Tree → Found
  | .absent => nothing
  | .bool value => boolean value
  | .integer value => integer value
  | .floating value => floating value
  | .text value => text value
  | .list _ => sequence
  | .table _ => map

def description : Found → String
  | nothing => "unit value"
  | boolean value => s!"boolean `{value}`"
  | integer value => s!"integer `{value}`"
  | floating value => s!"floating point `{value.pointText}`"
  | text value => s!"string {Text.quoted value}"
  | sequence => "sequence"
  | map => "map"
  | signedWord value => s!"64-bit integer `{value}`"
  | unsignedWord value => s!"64-bit unsigned integer `{value}`"

end Found

/-- What was looked for. -/
inductive Wanted
  | text
  | integer
  | word64
  | word32
  | boolean
  | sequence
  | record (name : String)
  deriving DecidableEq, Repr

namespace Wanted

def description : Wanted → String
  | text => "a string"
  | integer => "an integer"
  | word64 => "an unsigned 64 bit or less integer"
  | word32 => "an unsigned 32 bit integer"
  | boolean => "a boolean"
  | sequence => "a sequence"
  | record name => s!"struct {name}"

/-- Whether values of other types are taken for what is wanted where that can be done. -/
def isLenient : Wanted → Bool
  | text | integer | word64 | boolean => true
  | word32 | sequence | record _ => false

end Wanted

inductive SettingsFault
  | missing (path : List Step)
  | mismatch (found : Found) (wanted : Wanted) (path : List Step)
  | tooShort (size : Nat) (name : String) (fields : Nat) (path : List Step)
  deriving DecidableEq, Repr

namespace SettingsFault

/-- The same fault, seen from one step above. -/
def under (step : Step) : SettingsFault → SettingsFault
  | missing path => missing (step :: path)
  | mismatch found wanted path => mismatch found wanted (step :: path)
  | tooShort size name fields path => tooShort size name fields (step :: path)

/-- The message about a fault. The file is told with a value that could not be taken for what is
wanted. -/
def message (file : Option String) : SettingsFault → String
  | missing path => s!"missing configuration field {Text.quoted (Step.pathText path)}"
  | mismatch found wanted path =>
    let place := match file with
      | some name => if wanted.isLenient ∧ found ≠ .nothing then s!" in {name}" else ""
      | none => ""
    s!"invalid type: {found.description}, expected {wanted.description} " ++
      s!"for key `{Step.pathText path}`" ++ place
  | tooShort size name fields path =>
    let elements := if fields = 1 then "1 element" else s!"{fields} elements"
    s!"invalid length {size}, expected struct {name} with {elements} " ++
      s!"for key `{Step.pathText path}`"

end SettingsFault

end SignIn
