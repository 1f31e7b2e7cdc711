/-!
# JSON values in writing

The compact form: no white space, members in order, and in texts only the escapes that JSON asks
for.
-/

namespace SignIn

/-- What answers and stored sessions are made of. -/
inductive Json
  | null
  | bool (value : Bool)
  | text (value : String)
  | object (members : List (String × Json))

namespace Json

/-- The form of one character inside a text: short escapes for five controls, the quotation mark
and the backslash, four hexadecimal digits for the other controls, and all else as it is. -/
def escapedChar (c : Char) : List Char :=
  if c = '\x22' then ['\\', '\x22']
  else if c = '\\' then ['\\', '\\']
  else if c = '\x08' then ['\\', 'b']
  else if c = '\t' then ['\\', 't']
  else if c = '\n' then ['\\', 'n']
  else if c = '\x0c' then ['\\', 'f']
  else if c = '\r' then ['\\', 'r']
  else if c.toNat < 0x20 then
    ['\\', 'u', '0', '0', Nat.digitChar (c.toNat / 16), Nat.digitChar (c.toNat % 16)]
  else [c]

/-- A text between quotation marks. -/
def textChars (s : String) : List Char :=
  '\x22' :: s.toList.flatMap escapedChar ++ ['\x22']

mutual

/-- The compact form of a value. -/
def chars : Json → List Char
  | null => ['n', 'u', 'l', 'l']
  | bool true => ['t', 'r', 'u', 'e']
  | bool false => ['f', 'a', 'l', 's', 'e']
  | text s => textChars s
  | object members => '\x7b' :: memberChars members ++ ['\x7d']

/-- Members with commas between them. -/
def memberChars : List (String × Json) → List Char
  | [] => []
  | [(name, value)] => textChars name ++ ':' :: value.chars
  | (name, value) :: rest => textChars name ++ ':' :: value.chars ++ ',' :: memberChars rest

end

/-- The compact form of a value as a text. -/
def compact (value : Json) : String := String.ofList value.chars

end Json

end SignIn
