/-!
# Base64 without padding

The alphabet is `A-Z a-z 0-9 + /`. Reading is strict: no padding, no other character, no last
group of one character, and no bit set beyond the last byte. So each byte string has one text.
-/

namespace SignIn.Base64

/-- The character of a value below sixty-four. -/
def symbol (n : Nat) : Char :=
  if n < 26 then Char.ofNat (65 + n)
  else if n < 52 then Char.ofNat (71 + n)
  else if n < 62 then Char.ofNat (n - 4)
  else if n = 62 then '+' else '/'

/-- The value of a character of the alphabet. -/
def value? (c : Char) : Option Nat :=
  let n := c.toNat
  if 65 ≤ n ∧ n ≤ 90 then some (n - 65)
  else if 97 ≤ n ∧ n ≤ 122 then some (n - 71)
  else if 48 ≤ n ∧ n ≤ 57 then some (n + 4)
  else if n = 43 then some 62
  else if n = 47 then some 63
  else none

/-- Three bytes make four characters; one or two left over make two or three. -/
def encodeChars : List UInt8 → List Char
  | [] => []
  | [a] => [symbol (a.toNat / 4), symbol (a.toNat % 4 * 16)]
  | [a, b] =>
    [symbol (a.toNat / 4), symbol (a.toNat % 4 * 16 + b.toNat / 16), symbol (b.toNat % 16 * 4)]
  | a :: b :: c :: rest =>
    symbol (a.toNat / 4) :: symbol (a.toNat % 4 * 16 + b.toNat / 16) ::
      symbol (b.toNat % 16 * 4 + c.toNat / 64) :: symbol (c.toNat % 64) :: encodeChars rest

def decodeChars : List Char → Option (List UInt8)
  | [] => some []
  | [_] => none
  | [a, b] => do
    let x ← value? a
    let y ← value? b
    if y % 16 = 0 then some [UInt8.ofNat (4 * x + y / 16)] else none
  | [a, b, c] => do
    let x ← value? a
    let y ← value? b
    let z ← value? c
    if z % 4 = 0 then
      some [UInt8.ofNat (4 * x + y / 16), UInt8.ofNat (y % 16 * 16 + z / 4)]
    else none
  | a :: b :: c :: d :: rest => do
    let x ← value? a
    let y ← value? b
    let z ← value? c
    let w ← value? d
    let bytes ← decodeChars rest
    some (UInt8.ofNat (4 * x + y / 16) :: UInt8.ofNat (y % 16 * 16 + z / 4) ::
      UInt8.ofNat (z % 4 * 64 + w) :: bytes)

theorem value?_symbol {n : Nat} (h : n < 64) : value? (symbol n) = some n := by
  have : ∀ m : Fin 64, value? (symbol m) = some m.val := by decide
  exact this ⟨n, h⟩

private theorem ofNat_eq_of_toNat {n : Nat} {b : UInt8} (h : n = b.toNat) : UInt8.ofNat n = b := by
  simp [h]

theorem decodeChars_encodeChars (bytes : List UInt8) :
    decodeChars (encodeChars bytes) = some bytes := by
  fun_induction encodeChars bytes with
  | case1 => rfl
  | case2 a =>
    have ha := a.toNat_lt
    have h1 := value?_symbol (n := a.toNat / 4) (by omega)
    have h2 := value?_symbol (n := a.toNat % 4 * 16) (by omega)
    simp [decodeChars, h1, h2, -UInt8.ofNat_add, -UInt8.ofNat_mul]
    exact ofNat_eq_of_toNat (by omega)
  | case3 a b =>
    have ha := a.toNat_lt
    have hb := b.toNat_lt
    have h1 := value?_symbol (n := a.toNat / 4) (by omega)
    have h2 := value?_symbol (n := a.toNat % 4 * 16 + b.toNat / 16) (by omega)
    have h3 := value?_symbol (n := b.toNat % 16 * 4) (by omega)
    simp [decodeChars, h1, h2, h3, -UInt8.ofNat_add, -UInt8.ofNat_mul]
    exact ⟨ofNat_eq_of_toNat (by omega), ofNat_eq_of_toNat (by omega)⟩
  | case4 a b c rest ih =>
    have ha := a.toNat_lt
    have hb := b.toNat_lt
    have hc := c.toNat_lt
    have h1 := value?_symbol (n := a.toNat / 4) (by omega)
    have h2 := value?_symbol (n := a.toNat % 4 * 16 + b.toNat / 16) (by omega)
    have h3 := value?_symbol (n := b.toNat % 16 * 4 + c.toNat / 64) (by omega)
    have h4 := value?_symbol (n := c.toNat % 64) (by omega)
    simp [decodeChars, h1, h2, h3, h4, ih, -UInt8.ofNat_add, -UInt8.ofNat_mul]
    exact ⟨ofNat_eq_of_toNat (by omega), ofNat_eq_of_toNat (by omega),
      ofNat_eq_of_toNat (by omega)⟩

end SignIn.Base64
