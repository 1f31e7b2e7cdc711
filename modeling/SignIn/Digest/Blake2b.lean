import SignIn.Bytes.Words

/-!
# BLAKE2b

The hash without a key, for digests of one to sixty-four bytes.
-/

namespace SignIn.Blake2b

def initial : Vector UInt64 8 :=
  #v[0x6a09e667f3bcc908, 0xbb67ae8584caa73b, 0x3c6ef372fe94f82b, 0xa54ff53a5f1d36f1,
    0x510e527fade682d1, 0x9b05688c2b3e6c1f, 0x1f83d9abfb41bd6b, 0x5be0cd19137e2179]

/-- The order in which a round takes the words of the block. -/
def sigma : List (Vector (Fin 16) 16) :=
  [#v[0, 1, 2, 3, 4, 5, 6, 7, 8, 9, 10, 11, 12, 13, 14, 15],
   #v[14, 10, 4, 8, 9, 15, 13, 6, 1, 12, 0, 2, 11, 7, 5, 3],
   #v[11, 8, 12, 0, 5, 2, 15, 13, 10, 14, 3, 6, 7, 1, 9, 4],
   #v[7, 9, 3, 1, 13, 12, 11, 14, 2, 6, 5, 10, 4, 0, 15, 8],
   #v[9, 0, 5, 7, 2, 4, 10, 15, 14, 1, 11, 12, 6, 8, 3, 13],
   #v[2, 12, 6, 10, 0, 11, 8, 3, 4, 13, 7, 5, 15, 14, 1, 9],
   #v[12, 5, 1, 15, 14, 13, 4, 10, 0, 7, 6, 3, 9, 2, 8, 11],
   #v[13, 11, 7, 14, 12, 1, 3, 9, 5, 0, 15, 4, 8, 6, 2, 10],
   #v[6, 15, 14, 9, 11, 3, 0, 8, 12, 2, 13, 7, 1, 4, 10, 5],
   #v[10, 2, 8, 4, 7, 6, 1, 5, 15, 11, 9, 14, 3, 12, 13, 0],
   #v[0, 1, 2, 3, 4, 5, 6, 7, 8, 9, 10, 11, 12, 13, 14, 15],
   #v[14, 10, 4, 8, 9, 15, 13, 6, 1, 12, 0, 2, 11, 7, 5, 3]]

def rotateRight (w : UInt64) (n : UInt64) : UInt64 := w >>> n ||| w <<< (64 - n)

/-- Mixes two words of the block into four of the working words. -/
def mix (v : Vector UInt64 16) (a b c d : Fin 16) (x y : UInt64) : Vector UInt64 16 :=
  let v := v.set a (v[a] + v[b] + x)
  let v := v.set d (rotateRight (v[d] ^^^ v[a]) 32)
  let v := v.set c (v[c] + v[d])
  let v := v.set b (rotateRight (v[b] ^^^ v[c]) 24)
  let v := v.set a (v[a] + v[b] + y)
  let v := v.set d (rotateRight (v[d] ^^^ v[a]) 16)
  let v := v.set c (v[c] + v[d])
  v.set b (rotateRight (v[b] ^^^ v[c]) 63)

def round (m : Vector UInt64 16) (v : Vector UInt64 16) (s : Vector (Fin 16) 16) :
    Vector UInt64 16 :=
  let v := mix v 0 4 8 12 m[s[0]] m[s[1]]
  let v := mix v 1 5 9 13 m[s[2]] m[s[3]]
  let v := mix v 2 6 10 14 m[s[4]] m[s[5]]
  let v := mix v 3 7 11 15 m[s[6]] m[s[7]]
  let v := mix v 0 5 10 15 m[s[8]] m[s[9]]
  let v := mix v 1 6 11 12 m[s[10]] m[s[11]]
  let v := mix v 2 7 8 13 m[s[12]] m[s[13]]
  mix v 3 4 9 14 m[s[14]] m[s[15]]

/-- The sixteen words of a block, a short one filled up with zeros. -/
def blockWords (block : List UInt8) : Vector UInt64 16 :=
  let words := (Bytes.words64 (Bytes.padTo 128 block)).toArray
  Vector.ofFn fun i => words.getD i 0

/-- Takes a block into the chaining words, given how many bytes were read up to its end. -/
def compress (h : Vector UInt64 8) (block : List UInt8) (count : Nat) (isLast : Bool) :
    Vector UInt64 8 :=
  let low := initial.set 4 (initial[4] ^^^ UInt64.ofNat count)
  let low := low.set 5 (low[5] ^^^ UInt64.ofNat (count >>> 64))
  let low := if isLast then low.set 6 (~~~low[6]) else low
  let v := sigma.foldl (round (blockWords block)) (h ++ low)
  Vector.ofFn fun i => h[i] ^^^ v[i.val] ^^^ v[i.val + 8]

/-- The blocks of a message one after another; the last one is marked. -/
def absorb (h : Vector UInt64 8) (count : Nat) : List (List UInt8) → Vector UInt64 8
  | [] => compress h [] count true
  | [block] => compress h block (count + block.length) true
  | block :: rest => absorb (compress h block (count + 128) false) (count + 128) rest

/-- The digest of `size` bytes of a message. -/
def digest (size : Nat) (message : List UInt8) : List UInt8 :=
  let start := initial.set 0 (initial[0] ^^^ 0x01010000 ^^^ UInt64.ofNat size)
  let final := absorb start 0 (Bytes.blocks 128 (by decide) message)
  (final.toList.flatMap Bytes.ofWord64).take size

end SignIn.Blake2b
