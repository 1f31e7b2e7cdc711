import SignIn.Decimal.Binary64
import SignIn.Json.Fault

/-!
# Numbers in JSON text

Integers that fit a 64-bit word, signed or unsigned, keep their value; every other number is taken
as a double. Digits past the ones that fit a word count only for their place.
-/

namespace SignIn.Json

def isDigit (b : UInt8) : Bool := 0x30 ≤ b && b ≤ 0x39

def digitValue (b : UInt8) : Nat := b.toNat - 0x30

def digitsOf (s : List UInt8) : List UInt8 := s.takeWhile isDigit

def afterDigits (s : List UInt8) : List UInt8 := s.dropWhile isDigit

theorem length_afterDigits_le (s : List UInt8) : (afterDigits s).length ≤ s.length :=
  (List.dropWhile_sublist isDigit).length_le

/-- Passes over a sign, if one stands here. -/
def afterSign : List UInt8 → List UInt8
  | 0x2b :: rest | 0x2d :: rest => rest
  | s => s

theorem length_afterSign_le (s : List UInt8) : (afterSign s).length ≤ s.length := by
  unfold afterSign
  split <;> simp

/-- Takes digits into a number while it stays below `2 ^ bits`, and gives those left out. -/
def absorb (bits : Nat) : Nat → List UInt8 → Nat × List UInt8
  | n, [] => (n, [])
  | n, d :: rest =>
    if 10 * n + digitValue d < 1 <<< bits then absorb bits (10 * n + digitValue d) rest
    else (n, d :: rest)

/-- A refusal of the byte in front, which counts as read. -/
def refuse {α : Type} (cause : Cause) (s : List UInt8) : Except Fault α :=
  .error ⟨cause, s.length - 1⟩

/-- A double times a power of ten. It is divided in steps of `10 ^ 308` where the power is smaller
than any double. -/
def scale (x : Binary64) (exponent : Int) : Option Binary64 :=
  if x.isZero then some x
  else if 308 < exponent then none
  else if 0 ≤ exponent then
    match x.mul (.ofDecimal false 1 exponent) with
    | .infinite _ => none
    | y => some y
  else if -308 ≤ exponent then some (x.div (.ofDecimal false 1 (-exponent)))
  else scale (x.div (.ofDecimal false 1 308)) (exponent + 308)
termination_by exponent.natAbs
decreasing_by omega

def signed (negative : Bool) : Binary64 → Binary64
  | .finite _ m e => .finite negative m e
  | x => x

/-- A double from a significand and a power of ten, at the end of its text. -/
def double (negative : Bool) (significand : Nat) (exponent : Int) (rest : List UInt8) :
    Except Fault Found :=
  match scale (.ofRatio false significand 1) exponent with
  | some x => .ok (.floating (signed negative x).compactText)
  | none => .error ⟨.numberOutOfRange, rest.length⟩

/-- Reads what follows the letter of an exponent. -/
def readExponent (negative : Bool) (significand : Nat) (exponent : Int) (s : List UInt8) :
    Except Fault (Found × List UInt8) := do
  let below := s.head? == some 0x2d
  let s := afterSign s
  match s with
  | [] => .error ⟨.endInValue, 0⟩
  | b :: rest =>
    if isDigit b then
      let (n, beyond) := absorb 31 0 (digitsOf s)
      let rest := afterDigits s
      if beyond.isEmpty then
        let exponent := if below then exponent - n else exponent + n
        .ok (← double negative significand exponent rest, rest)
      else if significand ≠ 0 ∧ ¬below then
        .error ⟨.numberOutOfRange, rest.length + beyond.length - 1⟩
      else .ok (.floating (Binary64.finite negative 0 (-1074)).compactText, rest)
    else .error ⟨.invalidNumber, rest.length⟩

/-- Reads a number after its sign. -/
def readNumber (negative : Bool) (s : List UInt8) : Except Fault (Found × List UInt8) := do
  let digits := digitsOf s
  match s, digits with
  | [], _ => .error ⟨.endInValue, 0⟩
  | _ :: rest, [] => .error ⟨.invalidNumber, rest.length⟩
  | _ :: rest, 0x30 :: _ :: _ => refuse .invalidNumber rest
  | _, _ =>
    let (significand, beyond) := absorb 64 0 digits
    match afterDigits s with
    | 0x2e :: rest =>
      let fraction := digitsOf rest
      let (significand, left) := absorb 64 significand fraction
      let exponent : Int := beyond.length - (fraction.length - left.length : Nat)
      match fraction, afterDigits rest with
      | [], [] => .error ⟨.endInValue, 0⟩
      | [], rest => refuse .invalidNumber rest
      | _, 0x65 :: rest | _, 0x45 :: rest => readExponent negative significand exponent rest
      | _, rest => .ok (← double negative significand exponent rest, rest)
    | 0x65 :: rest | 0x45 :: rest => readExponent negative significand beyond.length rest
    | rest =>
      if ¬beyond.isEmpty ∨ negative ∧ (significand = 0 ∨ 0x8000000000000000 < significand) then
        .ok (← double negative significand beyond.length rest, rest)
      else .ok (.integer (if negative then -significand else significand), rest)

end SignIn.Json
