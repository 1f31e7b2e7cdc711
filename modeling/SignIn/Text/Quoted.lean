import SignIn.Text.Unprintable

/-!
# Quoted text

A text between quotation marks in which every unprintable character is visible, for logs and
messages: backslash escapes for the quotation mark, the backslash, line feed, carriage return, tab
and NUL, and `\u{...}` with the code point for all others that have no form of their own.
-/

namespace SignIn.Text

/-- The hexadecimal digits of a code point. -/
def codePoint (c : Char) : List Char := Nat.toDigits 16 c.toNat

/-- The form of one character inside a quoted text. -/
def quotedChar (c : Char) : List Char :=
  if c = '\x22' then ['\\', '\x22']
  else if c = '\\' then ['\\', '\\']
  else if c = '\n' then ['\\', 'n']
  else if c = '\r' then ['\\', 'r']
  else if c = '\t' then ['\\', 't']
  else if c = '\x00' then ['\\', '0']
  else if isUnprintable c then '\\' :: 'u' :: '\x7b' :: codePoint c ++ ['\x7d']
  else [c]

/-- A text between quotation marks. -/
def quoted (text : String) : String :=
  String.ofList ('\x22' :: text.toList.flatMap quotedChar ++ ['\x22'])

/-- An optional value as `None` or `Some(...)`, given the form of the value. -/
def optional {α : Type} (form : α → String) : Option α → String
  | none => "None"
  | some a => s!"Some({form a})"

/-- A record: its name, and each field with its value. -/
def record (name : String) (fields : List (String × String)) : String :=
  let body := fields.map fun (field, value) => field ++ ": " ++ value
  name ++ " \x7b " ++ ", ".intercalate body ++ " \x7d"

end SignIn.Text
