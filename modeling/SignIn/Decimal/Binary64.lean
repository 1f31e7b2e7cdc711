/-!
# Double-precision numbers

The numbers of the IEEE 754 format binary64 as exact values: a natural number below `2 ^ 53` times
a power of two. Every operation rounds the exact result to the nearest such number, a tie to the
even one.
-/

namespace SignIn

/-- A double: a sign with a magnitude `mantissa * 2 ^ exponent`, an infinity, or no number. -/
inductive Binary64
  | finite (negative : Bool) (mantissa : Nat) (exponent : Int)
  | infinite (negative : Bool)
  | nan
  deriving DecidableEq, Repr

namespace Binary64

/-- A quotient rounded to the nearest natural number, a tie to the even one. -/
def roundDiv (num den : Nat) : Nat :=
  let q := num / den
  let twice := 2 * (num % den)
  if twice < den then q
  else if den < twice then q + 1
  else if q % 2 = 0 then q else q + 1

/-- A ratio over a power of two, as a ratio. -/
def scaled (num den : Nat) (exponent : Int) : Nat × Nat :=
  if 0 ≤ exponent then (num, den <<< exponent.toNat) else (num <<< exponent.natAbs, den)

/-- The double nearest to a ratio of natural numbers. -/
def ofRatio (negative : Bool) (num den : Nat) : Binary64 :=
  if num = 0 then .finite negative 0 (-1074)
  else
    let guess := max ((Nat.log2 num : Int) - (Nat.log2 den : Int) - 53) (-1074)
    let (n, d) := scaled num den guess
    let exponent := if 1 <<< 53 ≤ n / d then guess + 1 else guess
    let (n, d) := scaled num den exponent
    let mantissa := roundDiv n d
    let (mantissa, exponent) :=
      if mantissa = 1 <<< 53 then (1 <<< 52, exponent + 1) else (mantissa, exponent)
    if 971 < exponent then .infinite negative else .finite negative mantissa exponent

/-- The double nearest to `digits * 10 ^ exponent`. Beyond any double's size no power is built. -/
def ofDecimal (negative : Bool) (digits : Nat) (exponent : Int) : Binary64 :=
  let size := (Nat.toDigits 10 digits).length
  if digits = 0 then .finite negative 0 (-1074)
  else if 400 < size + exponent then .infinite negative
  else if size + exponent < -400 then .finite negative 0 (-1074)
  else if 0 ≤ exponent then ofRatio negative (digits * Nat.pow 10 exponent.toNat) 1
  else ofRatio negative digits (Nat.pow 10 exponent.natAbs)

/-- The magnitude of `mantissa * 2 ^ exponent` as a ratio. -/
def ratio (mantissa : Nat) (exponent : Int) : Nat × Nat :=
  if 0 ≤ exponent then (mantissa <<< exponent.toNat, 1) else (mantissa, 1 <<< exponent.natAbs)

/-- The product of two doubles. -/
def mul : Binary64 → Binary64 → Binary64
  | .finite s m e, .finite t n f =>
    let (a, b) := ratio m e
    let (c, d) := ratio n f
    ofRatio (s != t) (a * c) (b * d)
  | .infinite s, .infinite t => .infinite (s != t)
  | .infinite s, .finite t n _ => if n = 0 then .nan else .infinite (s != t)
  | .finite s m _, .infinite t => if m = 0 then .nan else .infinite (s != t)
  | .nan, _ => .nan
  | _, .nan => .nan

/-- The quotient of two doubles, the second of which is not zero. -/
def div : Binary64 → Binary64 → Binary64
  | .finite s m e, .finite t n f =>
    let (a, b) := ratio m e
    let (c, d) := ratio n f
    if c = 0 then .nan else ofRatio (s != t) (a * d) (b * c)
  | .infinite s, .finite t _ _ => .infinite (s != t)
  | .finite s _ _, .infinite t => .finite (s != t) 0 (-1074)
  | _, _ => .nan

def isZero : Binary64 → Bool
  | .finite _ m _ => m == 0
  | _ => false

/-- The nearest integer as a word, a tie away from zero; what lies outside goes to the nearer end,
and no number to zero. -/
def toWord : Binary64 → UInt64
  | .finite true _ _ => 0
  | .finite false m e =>
    let (num, den) := ratio m e
    UInt64.ofNat (min ((2 * num + den) / (2 * den)) (UInt64.size - 1))
  | .infinite true => 0
  | .infinite false => UInt64.ofNat (UInt64.size - 1)
  | .nan => 0

/-- Ends of the interval of ratios that round to a magnitude, over a common denominator, and the
magnitude itself. -/
def roundingInterval (mantissa : Nat) (exponent : Int) : Nat × Nat × Nat × Nat :=
  let (num, den) := ratio mantissa exponent
  let (unit, _) := ratio 1 exponent
  let below := if mantissa = 1 <<< 52 ∧ -1074 < exponent then unit else 2 * unit
  (4 * num - below, 4 * num, 4 * num + 2 * unit, 4 * den)

/-- The decimal exponent of the first digit of a ratio. -/
def leadingExponent (num den : Nat) : Int :=
  if den ≤ num then (Nat.toDigits 10 (num / den)).length - 1
  else
    let p := (Nat.toDigits 10 (den / num)).length
    if num * Nat.pow 10 (p - 1) ≥ den then 1 - (p : Int) else -(p : Int)

/-- The two neighbours of a value on the grid of multiples of `10 ^ place` that lie in its rounding
interval; of two the nearer. -/
def gridHit (interval : Nat × Nat × Nat × Nat) (isEven : Bool) (place : Int) : Option Nat :=
  let (low, value, high, den) := interval
  let (up, down) := if 0 ≤ place then (1, Nat.pow 10 place.toNat) else (Nat.pow 10 place.natAbs, 1)
  let near := value * up / (den * down)
  let inside (n : Nat) : Bool :=
    let x := n * den * down
    if isEven then low * up ≤ x && x ≤ high * up else low * up < x && x < high * up
  let belowHit := inside near && 0 < near
  if belowHit && inside (near + 1) then
    let low := value * up - near * den * down
    let high := (near + 1) * den * down - value * up
    some (if low < high ∨ low = high ∧ near % 2 = 0 then near else near + 1)
  else if belowHit then some near
  else if inside (near + 1) then some (near + 1)
  else none

/-- The fewest decimal digits that read back as a magnitude, and the place of the last of them. -/
def shortest (mantissa : Nat) (exponent : Int) : Nat × Int :=
  let (num, den) := ratio mantissa exponent
  let top := leadingExponent num den
  let interval := roundingInterval mantissa exponent
  let hit := (List.range 17).findSome? fun (n : Nat) =>
    let place : Int := top - n
    (gridHit interval (mantissa % 2 == 0) place).map fun digits => (digits, place)
  hit.getD (0, 0)

/-- Digits with the last of them at a decimal place, all written out. -/
def positional (digits : Nat) (place : Int) : List Char :=
  let text := Nat.toDigits 10 digits
  if 0 ≤ place then text ++ List.replicate place.toNat '0'
  else
    let after := place.natAbs
    let text := List.replicate (after + 1 - text.length) '0' ++ text
    let whole := text.take (text.length - after)
    let fraction := (text.drop (text.length - after)).reverse.dropWhile (· == '0') |>.reverse
    if fraction.isEmpty then whole else whole ++ '.' :: fraction

/-- A double in positional notation with the fewest digits that read back. -/
def text : Binary64 → String
  | .finite negative mantissa exponent =>
    let sign := if negative then ['-'] else []
    let magnitude :=
      if mantissa = 0 then ['0']
      else
        let (digits, place) := shortest mantissa exponent
        positional digits place
    String.ofList (sign ++ magnitude)
  | .infinite negative => if negative then "-inf" else "inf"
  | .nan => "NaN"

/-- The same text, with a decimal point in every finite number. -/
def pointText (x : Binary64) : String :=
  match x with
  | .finite _ _ _ => if x.text.toList.contains '.' then x.text else x.text ++ ".0"
  | _ => x.text

/-- The fewest digits that read back, with a decimal point where sixteen places hold the number and
with an exponent outside them. -/
def compactText : Binary64 → String
  | .finite negative mantissa exponent =>
    let sign := if negative then ['-'] else []
    let magnitude :=
      if mantissa = 0 then ['0', '.', '0']
      else
        let (digits, place) := shortest mantissa exponent
        let text := Nat.toDigits 10 digits
        let pointAfter := text.length + place
        if 0 ≤ place ∧ pointAfter ≤ 16 then positional digits place ++ ['.', '0']
        else if -5 < pointAfter ∧ pointAfter ≤ 16 then positional digits place
        else
          let fraction := text.drop 1
          text.take 1 ++ (if fraction.isEmpty then [] else '.' :: fraction) ++
            'e' :: (toString (pointAfter - 1)).toList
    String.ofList (sign ++ magnitude)
  | .infinite negative => if negative then "-inf" else "inf"
  | .nan => "NaN"

end Binary64

end SignIn
