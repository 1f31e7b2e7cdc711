/-!
# Words and blocks of bytes

Fixed-width words written and read in either byte order, and a byte string cut into blocks.
-/

namespace SignIn.Bytes

/-- The blocks of a byte string, each of `size` bytes but for a shorter last one. -/
def blocks (size : Nat) (positive : 0 < size) (bytes : List UInt8) : List (List UInt8) :=
  if bytes.isEmpty then [] else bytes.take size :: blocks size positive (bytes.drop size)
termination_by bytes.length
decreasing_by
  have : bytes ≠ [] := by simpa using ‹¬bytes.isEmpty = true›
  have := List.length_pos_iff.2 this
  simp; omega

/-- The four bytes of a word, most significant first. -/
def ofWord32 (w : UInt32) : List UInt8 :=
  [(w >>> 24).toUInt8, (w >>> 16).toUInt8, (w >>> 8).toUInt8, w.toUInt8]

/-- Words read from groups of four bytes, most significant first. -/
def words32 : List UInt8 → List UInt32
  | a :: b :: c :: d :: rest =>
    (a.toUInt32 <<< 24 ||| b.toUInt32 <<< 16 ||| c.toUInt32 <<< 8 ||| d.toUInt32) :: words32 rest
  | _ => []

/-- The four bytes of a number below `2 ^ 32`, least significant first. -/
def littleEndian32 (n : Nat) : List UInt8 :=
  [UInt8.ofNat n, UInt8.ofNat (n >>> 8), UInt8.ofNat (n >>> 16), UInt8.ofNat (n >>> 24)]

/-- The eight bytes of a number below `2 ^ 64`, most significant first. -/
def bigEndian64 (n : Nat) : List UInt8 :=
  [UInt8.ofNat (n >>> 56), UInt8.ofNat (n >>> 48), UInt8.ofNat (n >>> 40),
    UInt8.ofNat (n >>> 32), UInt8.ofNat (n >>> 24), UInt8.ofNat (n >>> 16),
    UInt8.ofNat (n >>> 8), UInt8.ofNat n]

/-- The eight bytes of a word, least significant first. -/
def ofWord64 (w : UInt64) : List UInt8 :=
  [w.toUInt8, (w >>> 8).toUInt8, (w >>> 16).toUInt8, (w >>> 24).toUInt8, (w >>> 32).toUInt8,
    (w >>> 40).toUInt8, (w >>> 48).toUInt8, (w >>> 56).toUInt8]

/-- Words read from groups of eight bytes, least significant first. -/
def words64 : List UInt8 → List UInt64
  | a :: b :: c :: d :: e :: f :: g :: h :: rest =>
    (a.toUInt64 ||| b.toUInt64 <<< 8 ||| c.toUInt64 <<< 16 ||| d.toUInt64 <<< 24 |||
      e.toUInt64 <<< 32 ||| f.toUInt64 <<< 40 ||| g.toUInt64 <<< 48 ||| h.toUInt64 <<< 56) ::
      words64 rest
  | _ => []

/-- Whether an integer fits a signed word of eight bytes. -/
def IsSigned64 (n : Int) : Prop := -0x8000000000000000 ≤ n ∧ n < 0x8000000000000000

instance (n : Int) : Decidable (IsSigned64 n) := by unfold IsSigned64; infer_instance

/-- A byte string filled up with zero bytes to a given size. -/
def padTo (size : Nat) (bytes : List UInt8) : List UInt8 :=
  bytes ++ List.replicate (size - bytes.length) 0

end SignIn.Bytes
