import SignIn.Bytes.Words
import SignIn.Calendar.InstantText
import SignIn.Settings.Tree
import SignIn.Text.Split
import SignIn.Toml.Scan

/-!
# Bare TOML values

A value without marks of its own is a Boolean, a number or a moment. Integers fit a signed 64-bit
word, and other numbers are doubles but no infinity, unless it is written out. A moment is kept as
its text in one form.
-/

namespace SignIn.Toml

/-- The value of a run of digits in a base. -/
def digitsIn (base : Nat) (digits : List Char) : Option Nat :=
  digits.foldlM
    (fun n c => (Hex.value? c).bind fun d => if d < base then some (base * n + d) else none) 0

/-- Digits without the underscores between them. An underscore stands between two digits. -/
def withoutUnderscores (text : List Char) : Option (List Char) :=
  let parts := Text.split '_' text
  if parts.any List.isEmpty then none else some parts.flatten

/-- The digits of a decimal number without zeros in front. -/
def wholeDigits (text : List Char) : Option (List Char) := do
  let digits ← withoutUnderscores text
  if digits.all Char.isDigit ∧ (digits.head? = some '0' → digits.length = 1) then some digits
  else none

/-- A sign and what follows it. -/
def splitSign (text : List Char) : Bool × List Char :=
  match text with
  | '-' :: rest => (true, rest)
  | '+' :: rest => (false, rest)
  | _ => (false, text)

/-- An integer, if it fits a signed word. -/
def boundedInteger (n : Int) : Option Tree :=
  if Bytes.IsSigned64 n then some (.integer n) else none

/-- Reads an integer. -/
def integer? (text : List Char) : Option Tree := do
  let based (base : Nat) (digits : List Char) : Option Tree := do
    boundedInteger (← digitsIn base (← withoutUnderscores digits))
  match text with
  | '0' :: 'x' :: digits => based 16 digits
  | '0' :: 'o' :: digits => based 8 digits
  | '0' :: 'b' :: digits => based 2 digits
  | _ =>
    let (negative, digits) := splitSign text
    let n ← digitsIn 10 (← wholeDigits digits)
    boundedInteger (if negative then -n else n)

/-- Reads the exponent of a number after its letter. -/
def exponent? (text : List Char) : Option Int := do
  let (negative, digits) := splitSign text
  let digits ← withoutUnderscores digits
  if ¬digits.all Char.isDigit then none
  else
    let n ← digitsIn 10 digits
    some (if negative then -n else n)

/-- Reads a number with a fraction, an exponent or both. -/
def decimal? (text : List Char) : Option Tree := do
  let (negative, body) := splitSign text
  let mantissa := body.takeWhile fun c => c != 'e' && c != 'E'
  let exponent ← match body.drop mantissa.length with
    | [] => some 0
    | _ :: exponent => exponent? exponent
  let whole ← wholeDigits (mantissa.takeWhile (· != '.'))
  let fraction ← match mantissa.dropWhile (· != '.') with
    | [] => some []
    | _ :: fraction => withoutUnderscores fraction
  let isWhole := !body.any fun c => c == '.' || c == 'e' || c == 'E'
  if isWhole ∨ ¬fraction.all Char.isDigit then none
  else
    let digits ← digitsIn 10 (whole ++ fraction)
    match Binary64.ofDecimal negative digits (exponent - fraction.length) with
    | .infinite _ => none
    | x => some (.floating x)

/-- Reads an infinity or what is no number. -/
def special? (text : List Char) : Option Tree :=
  let (negative, body) := splitSign text
  if body = "inf".toList then some (.floating (.infinite negative))
  else if body = "nan".toList then some (.floating .nan)
  else none

/-- A number of so many digits within bounds, and what follows it. -/
def field? (width least most : Nat) (s : List Char) : Option (Nat × List Char) :=
  let digits := s.take width
  if digits.length = width ∧ digits.all Char.isDigit then
    let n := Instant.digitsValue digits
    if least ≤ n ∧ n ≤ most then some (n, s.drop width) else none
  else none

def mark? (mark : Char) (s : List Char) : Option (List Char) :=
  match s with
  | c :: rest => if c = mark then some rest else none
  | [] => none

/-- Reads a date and gives its text. -/
def date? (s : List Char) : Option (List Char × List Char) := do
  let (year, rest) ← field? 4 0 9999 s
  let (month, rest) ← field? 2 1 12 (← mark? '-' rest)
  let (day, rest) ← field? 2 1 31 (← mark? '-' rest)
  let date : Date := ⟨year, month, day⟩
  if date.IsValid then some (s.take 10, rest) else none

/-- Reads the fraction of a second and gives its text: nine digits at most, and without zeros at
the end beyond the first digit. -/
def fraction? (s : List Char) : Option (List Char × List Char) :=
  match s with
  | '.' :: rest =>
    let digits := rest.takeWhile Char.isDigit
    let kept := ((digits.take 9).reverse.dropWhile (· == '0')).reverse
    if digits.isEmpty then none
    else some ('.' :: (if kept.isEmpty then ['0'] else kept), rest.drop digits.length)
  | _ => some ([], s)

/-- Reads a time of day, with or without seconds, and gives its text. -/
def time? (s : List Char) : Option (List Char × List Char) := do
  let (_, rest) ← field? 2 0 23 s
  let (_, rest) ← field? 2 0 59 (← mark? ':' rest)
  match rest with
  | ':' :: seconds =>
    let (_, rest) ← field? 2 0 60 seconds
    let (fraction, rest) ← fraction? rest
    some (s.take 8 ++ fraction, rest)
  | _ => some (s.take 5, rest)

/-- Reads an offset from UTC, which is the end, and gives its text. -/
def offset? (s : List Char) : Option (List Char) := do
  match s with
  | [] => some []
  | ['Z'] | ['z'] => some ['Z']
  | sign :: body =>
    if sign ≠ '+' ∧ sign ≠ '-' then none
    else
      let (hours, rest) ← field? 2 0 23 body
      let (minutes, rest) ← field? 2 0 59 (← mark? ':' rest)
      if ¬rest.isEmpty then none
      else some ((if hours = 0 ∧ minutes = 0 then '+' else sign) :: body)

/-- Reads a moment: a date, a time of day, or both with or without an offset. -/
def moment? (s : List Char) : Option Tree := do
  let text ← match date? s with
    | some (date, []) => some date
    | some (date, mark :: rest) =>
      if mark = 'T' ∨ mark = 't' ∨ mark = ' ' then
        let (time, rest) ← time? rest
        some (date ++ 'T' :: time ++ (← offset? rest))
      else none
    | none =>
      match time? s with
      | some (time, []) => some time
      | _ => none
  some (.text (String.ofList text))

/-- Reads a bare value. -/
def bare? (text : List Char) : Option Tree :=
  if text = "true".toList then some (.bool true)
  else if text = "false".toList then some (.bool false)
  else (integer? text).or ((special? text).or ((moment? text).or (decimal? text)))

def isBareValue (c : Char) : Bool :=
  c.isAlphanum || c == '_' || c == '+' || c == '-' || c == '.' || c == ':'

/-- The bare value at the front. A blank may stand between a date and a time of day. -/
def bareValue (s : List Char) : List Char :=
  let first := s.takeWhile isBareValue
  match s.drop first.length with
  | ' ' :: c :: rest =>
    if (date? first).any (fun date => date.2.isEmpty) ∧ c.isDigit then
      first ++ ' ' :: (c :: rest).takeWhile isBareValue
    else first
  | _ => first

/-- Reads the bare value at the front. -/
def readBare (s : List Char) : Option (Tree × Shorter s) :=
  let text := bareValue s
  match s, text with
  | c :: rest, _ :: more => (bare? text).map fun value => (value, .drop more.length c rest)
  | _, _ => none

end SignIn.Toml
