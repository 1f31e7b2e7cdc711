import SignIn.Bytes.Base64
import SignIn.Text.Split

/-!
# Password hashes in text

A hash is written as `$algorithm$v=version$name=value,...$salt$output`. All parts after the
algorithm may be missing, from the end on, and the version and the parameters also before others.
-/

namespace SignIn

/-- The parts of a hash in text. -/
structure Phc where
  algorithm : List Char
  version : Option Nat
  params : List (List Char × List Char)
  salt : Option (List Char)
  output : Option (List UInt8)
  deriving DecidableEq, Repr

namespace Phc

def isNameChar (c : Char) : Bool := c.isDigit || c.isLower || c == '-'

def isValueChar (c : Char) : Bool := c.isAlphanum || c == '/' || c == '+' || c == '.' || c == '-'

/-- The name of an algorithm or a parameter. -/
def isName (s : List Char) : Bool := !s.isEmpty && s.length ≤ 32 && s.all isNameChar

/-- The value of a parameter. -/
def isValue (s : List Char) : Bool := s.length ≤ 64 && s.all isValueChar

/-- Reads a decimal number below `2 ^ 32`, without zeros in front. -/
def decimal? (s : List Char) : Option Nat :=
  let n := s.foldl (fun n c => 10 * n + (c.toNat - 48)) 0
  if isValue s ∧ !s.isEmpty ∧ s.all Char.isDigit ∧ (s.head? = some '0' → s.length = 1) ∧ n < UInt32.size
  then some n else none

/-- Reads one parameter. -/
def param? (s : List Char) : Option (List Char × List Char) :=
  match Text.split '=' s with
  | [name, value] => if isName name && isValue value then some (name, value) else none
  | _ => none

/-- Reads the parameters, 127 characters of text at most. -/
def params? (s : List Char) : Option (List (List Char × List Char)) :=
  if s.length ≤ 127 then (Text.split ',' s).mapM param? else none

/-- Reads an output of ten to 64 bytes. -/
def output? (s : List Char) : Option (List UInt8) := do
  let bytes ← Base64.decodeChars s
  if 10 ≤ bytes.length ∧ bytes.length ≤ 64 then some bytes else none

/-- Reads the salt and the output, as far as they are there. -/
def ending? (algorithm : List Char) (version : Option Nat) (params : List (List Char × List Char))
    (fields : List (List Char)) : Option Phc := do
  match fields with
  | [] => some ⟨algorithm, version, params, none, none⟩
  | salt :: rest =>
    if ¬isValue salt ∨ salt.length < 4 then none
    match rest with
    | [] => some ⟨algorithm, version, params, some salt, none⟩
    | [output] => some ⟨algorithm, version, params, some salt, some (← output? output)⟩
    | _ => none

/-- Reads the parameters, if they are there, and what follows. -/
def withParams? (algorithm : List Char) (version : Option Nat) (fields : List (List Char)) :
    Option Phc := do
  match fields with
  | field :: rest =>
    if field.contains '=' then ending? algorithm version (← params? field) rest
    else ending? algorithm version [] fields
  | [] => ending? algorithm version [] []

/-- Reads the version, if it is there, and what follows. -/
def withVersion? (algorithm : List Char) (fields : List (List Char)) : Option Phc := do
  match fields with
  | ('v' :: '=' :: version) :: rest =>
    if version.contains ',' then withParams? algorithm none fields
    else withParams? algorithm (some (← decimal? version)) rest
  | _ => withParams? algorithm none fields

/-- Reads a hash in text. -/
def ofChars? (s : List Char) : Option Phc :=
  match Text.split '$' s with
  | [] :: algorithm :: fields => if isName algorithm then withVersion? algorithm fields else none
  | _ => none

/-- The hash that a text holds. -/
def ofText? (text : String) : Option Phc := ofChars? text.toList

/-- The form of a parameter. -/
def paramChars (param : List Char × List Char) : List Char := param.1 ++ '=' :: param.2

def chars (phc : Phc) : List Char :=
  let fields := [some phc.algorithm, phc.version.map fun n => 'v' :: '=' :: Nat.toDigits 10 n,
    if phc.params.isEmpty then none else some (Text.join ',' (phc.params.map paramChars)),
    phc.salt, phc.output.map Base64.encodeChars]
  fields.reduceOption.flatMap fun field => '$' :: field

/-- A hash in text. -/
def text (phc : Phc) : String := String.ofList phc.chars

end Phc

end SignIn
