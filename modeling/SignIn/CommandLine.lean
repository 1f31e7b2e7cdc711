import SignIn.Text.Split

/-!
# The command line

The only option names the settings file. It may be given once, its value in the same argument after
an equals sign or as the next one. An argument that begins with a hyphen is never a value of its
own.
-/

namespace SignIn

namespace CommandLine

/-- Why a command line is not accepted. Asking for help is one of the reasons. -/
inductive Refusal
  | displayHelp
  | unknownArgument
  | invalidValue
  | argumentConflict
  | tooManyValues
  deriving DecidableEq, Repr

/-- What was read so far: the value that counts, an option whose value is open or not yet taken
over, and whether only values may follow. -/
structure Reading where
  settings : Option String
  pending : Option (Option String)
  onlyValues : Bool

namespace Reading

def start : Reading := ⟨none, none, false⟩

/-- Takes the option over that is pending. -/
def settle (r : Reading) : Except Refusal Reading :=
  match r.pending, r.settings with
  | none, _ => .ok r
  | some none, _ => .error .invalidValue
  | some (some value), none => .ok { r with settings := some value, pending := none }
  | some (some _), some _ => .error .argumentConflict

/-- Reads an argument that begins with two hyphens. -/
def long (r : Reading) (name : List Char) (value : Option (List Char)) :
    Except Refusal Reading := do
  if name = "settings".toList then
    let r ← r.settle
    match value with
    | none => .ok { r with pending := some none }
    | some value => settle { r with pending := some (some (String.ofList value)) }
  else if name = "help".toList then
    if value.isSome then .error .tooManyValues
    else
      let _ ← r.settle
      .error .displayHelp
  else .error .unknownArgument

/-- Reads one argument. -/
def step (r : Reading) (argument : String) : Except Refusal Reading := do
  if r.onlyValues then .error .unknownArgument
  else
    match argument.toList with
    | ['-', '-'] => .ok { r with onlyValues := true }
    | '-' :: '-' :: rest =>
      match Text.cut? '=' rest with
      | some (name, value) => r.long name (some value)
      | none => r.long rest none
    | '-' :: c :: _ =>
      if c = 'h' then
        let _ ← r.settle
        .error .displayHelp
      else .error .unknownArgument
    | _ =>
      if r.pending = some none then .ok { r with pending := some (some argument) }
      else .error .unknownArgument

end Reading

/-- The settings file that the arguments name, if they name one. -/
def parse (arguments : List String) : Except Refusal (Option String) := do
  let r ← arguments.foldlM Reading.step Reading.start
  return (← r.settle).settings

end CommandLine

end SignIn
