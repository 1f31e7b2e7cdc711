import SignIn.Text.Quoted

/-!
# Why JSON text is refused

Each cause has a fixed wording. A fault also says where reading stopped, as the number of bytes
left; the position in lines and columns follows from it.
-/

namespace SignIn.Json

/-- What stands where a text or a record was expected. -/
inductive Found
  | null
  | bool (value : Bool)
  | integer (value : Int)
  | floating (digits : String)
  | text (value : String)
  | list
  | object

def Found.message : Found → String
  | null => "null"
  | bool value => s!"boolean `{value}`"
  | integer value => s!"integer `{value}`"
  | floating digits => s!"floating point `{digits}`"
  | text value => s!"string {Text.quoted value}"
  | list => "sequence"
  | object => "map"

inductive Cause
  | endInValue
  | endInList
  | endInObject
  | endInText
  | expectedValue
  | expectedIdent
  | expectedColon
  | expectedListEnd
  | expectedObjectEnd
  | keyNotText
  | trailingComma
  | trailingCharacters
  | invalidNumber
  | numberOutOfRange
  | invalidEscape
  | controlCharacter
  | loneSurrogate
  | endInEscape
  | invalidCodePoint
  | missingField (name : String)
  | duplicateField (name : String)
  | wrongType (found : Found) (expected : String)
  | wrongLength (length : Nat) (expected : String)

def Cause.message : Cause → String
  | endInValue => "EOF while parsing a value"
  | endInList => "EOF while parsing a list"
  | endInObject => "EOF while parsing an object"
  | endInText => "EOF while parsing a string"
  | expectedValue => "expected value"
  | expectedIdent => "expected ident"
  | expectedColon => "expected `:`"
  | expectedListEnd => "expected `,` or `]`"
  | expectedObjectEnd => "expected `,` or `\x7d`"
  | keyNotText => "key must be a string"
  | trailingComma => "trailing comma"
  | trailingCharacters => "trailing characters"
  | invalidNumber => "invalid number"
  | numberOutOfRange => "number out of range"
  | invalidEscape => "invalid escape"
  | controlCharacter => "control character (\\u0000-\\u001F) found while parsing a string"
  | loneSurrogate => "lone leading surrogate in hex escape"
  | endInEscape => "unexpected end of hex escape"
  | invalidCodePoint => "invalid unicode code point"
  | missingField name => s!"missing field `{name}`"
  | duplicateField name => s!"duplicate field `{name}`"
  | wrongType found expected => s!"invalid type: {found.message}, expected {expected}"
  | wrongLength length expected => s!"invalid length {length}, expected {expected}"

/-- A refusal, with the number of bytes after the place where reading stopped. -/
structure Fault where
  cause : Cause
  left : Nat

/-- Lines count from one, and columns are the bytes of the line up to the place. -/
def Fault.message (fault : Fault) (input : List UInt8) : String :=
  let before := input.take (input.length - fault.left)
  let line := 1 + before.count 10
  let column := (before.reverse.takeWhile (· != 10)).length
  s!"{fault.cause.message} at line {line} column {column}"

end SignIn.Json
