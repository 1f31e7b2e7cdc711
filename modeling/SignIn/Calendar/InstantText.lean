import SignIn.Calendar.Instant
import SignIn.Text.Blank

/-!
# Moments in text

A moment is written as `2024-01-02T03:04:05.100Z`: no, three, six or nine digits of a fraction, as
few as are exact, and a sign before a year outside 0 to 9999. Reading is more liberal: one-digit
fields, any offset from UTC, white space between parts, and digits of a fraction past the ninth
are cut off.
-/

namespace SignIn

/-- Decimal digits, with zeros in front up to a width. -/
def Text.padded (width n : Nat) : List Char :=
  let digits := Nat.toDigits 10 n
  List.replicate (width - digits.length) '0' ++ digits

namespace Instant

open Text

def yearChars (year : Int) : List Char :=
  if 0 ≤ year ∧ year ≤ 9999 then padded 4 year.toNat
  else (if year < 0 then '-' else '+') :: padded 4 year.natAbs

/-- The fraction of a second, without its last digits in threes while they are zero. -/
def fractionChars (nanos : Nat) : List Char :=
  if nanos = 0 then []
  else if nanos % 1000000 = 0 then '.' :: padded 3 (nanos / 1000000)
  else if nanos % 1000 = 0 then '.' :: padded 6 (nanos / 1000)
  else '.' :: padded 9 nanos

def chars (t : Instant) : List Char :=
  let date := Date.ofDays (t.seconds / 86400)
  let ofDay := (t.seconds % 86400).toNat
  let second := ofDay % 60 + t.nanos / 1000000000
  yearChars date.year ++ '-' :: padded 2 date.month ++ '-' :: padded 2 date.day ++
    'T' :: padded 2 (ofDay / 3600) ++ ':' :: padded 2 (ofDay / 60 % 60) ++ ':' :: padded 2 second ++
    fractionChars (t.nanos % 1000000000) ++ ['Z']

/-- A moment in text. -/
def text (t : Instant) : String := String.ofList t.chars

/-- The value of a run of digits. -/
def digitsValue (digits : List Char) : Nat :=
  digits.foldl (fun n c => 10 * n + (c.toNat - 48)) 0

/-- A number of one to `most` digits, and what follows it. -/
def readNumber (most : Nat) (s : List Char) : Option (Nat × List Char) :=
  let digits := (s.take most).takeWhile Char.isDigit
  if digits.isEmpty then none else some (digitsValue digits, s.drop digits.length)

/-- A year: four digits at most, or any number of them after a sign. -/
def readYear (s : List Char) : Option (Int × List Char) :=
  match trimStart s with
  | '-' :: rest => (readNumber rest.length rest).map fun (n, rest) => (-(n : Int), rest)
  | '+' :: rest => (readNumber rest.length rest).map fun (n, rest) => ((n : Int), rest)
  | rest => (readNumber 4 rest).map fun (n, rest) => ((n : Int), rest)

/-- A field of one or two digits within bounds; white space may stand before it. -/
def readField (least most : Nat) (s : List Char) : Option (Nat × List Char) := do
  let (n, rest) ← readNumber 2 (trimStart s)
  if least ≤ n ∧ n ≤ most then some (n, rest) else none

/-- A separator; white space may stand before it. -/
def readMark (mark : Char) (s : List Char) : Option (List Char) :=
  match trimStart s with
  | c :: rest => if c = mark then some rest else none
  | [] => none

/-- The nanoseconds of a fraction, if one stands here. -/
def readFraction (s : List Char) : Option (Nat × List Char) :=
  match s with
  | '.' :: rest =>
    let digits := rest.takeWhile Char.isDigit
    if digits.isEmpty then none
    else
      some (digitsValue ((digits ++ List.replicate 9 '0').take 9), rest.drop digits.length)
  | _ => some (0, s)

/-- Two digits, the first of them up to `most`. -/
def readPair (most : Char) (s : List Char) : Option (Nat × List Char) :=
  match s with
  | a :: b :: rest =>
    if a.isDigit ∧ b.isDigit ∧ a ≤ most then some (digitsValue [a, b], rest) else none
  | _ => none

/-- Seconds to the east of Greenwich: `Z`, `UTC`, or a sign, hours and minutes. -/
def readOffset (s : List Char) : Option (Int × List Char) :=
  match s with
  | 'Z' :: rest | 'z' :: rest => some (0, rest)
  | u :: t :: c :: rest =>
    if u.toUpper = 'U' ∧ t.toUpper = 'T' ∧ c.toUpper = 'C' then some (0, rest)
    else if u = '+' then east (t :: c :: rest)
    else if u = '-' ∨ u = '\u2212' then (east (t :: c :: rest)).map fun (n, rest) => (-n, rest)
    else none
  | _ => none
where
  east (s : List Char) : Option (Int × List Char) := do
    let (hours, rest) ← readPair '9' s
    let (minutes, rest) ← readPair '5' (rest.dropWhile fun c => c == ':' || isBlank c)
    some (hours * 3600 + minutes * 60, rest)

/-- Reads a moment. The sixtieth second of any minute is a leap second. -/
def ofChars? (s : List Char) : Option Instant := do
  let (year, s) ← readYear s
  let s ← readMark '-' s
  let (month, s) ← readField 1 12 s
  let s ← readMark '-' s
  let (day, s) ← readField 1 31 s
  let s ← match s with
    | c :: rest => if c = 'T' ∨ c = 't' ∨ c = ' ' then some rest else none
    | [] => none
  let (hour, s) ← readField 0 23 s
  let s ← readMark ':' s
  let (minute, s) ← readField 0 59 s
  let s ← readMark ':' s
  let (second, s) ← readField 0 60 s
  let (nanos, s) ← readFraction s
  let (offset, s) ← readOffset (trimStart s)
  if ¬(trimStart s).isEmpty ∨ 86400 ≤ offset.natAbs then none
  let date : Date := ⟨year, month, day⟩
  if ¬date.IsValid then none
  let local? := (date.toDays * 86400 + hour * 3600 + minute * 60 + min second 59 : Int)
  let nanos := if second = 60 then nanos + 1000000000 else nanos
  let _ ← ofParts? local? nanos
  ofParts? (local? - offset) nanos

/-- The moment that a text names, read liberally. -/
def ofText? (s : String) : Option Instant := ofChars? s.toList

end Instant

end SignIn
