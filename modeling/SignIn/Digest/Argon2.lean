import SignIn.Digest.Blake2b

/-!
# Argon2

A memory-hard function of passwords in its three variants, for both versions in use. Memory is
an array of blocks of 1024 bytes, cut into lanes and each lane into four slices; a pass makes
every block from its predecessor and one earlier block.
-/

namespace SignIn.Argon2

/-- Which earlier blocks are looked at: `d` by the data, `i` independently of it, `id` first one
way and then the other. -/
inductive Variant
  | d
  | i
  | id
  deriving DecidableEq, Repr

def Variant.code : Variant → Nat
  | .d => 0
  | .i => 1
  | .id => 2

/-- The costs and the size of the output. -/
structure Params where
  memoryKib : Nat
  passes : Nat
  lanes : Nat
  outputSize : Nat
  deriving DecidableEq, Repr

/-- What is hashed beside the costs. -/
structure Input where
  password : List UInt8
  salt : List UInt8
  data : List UInt8
  deriving DecidableEq, Repr

/-- Sixteen words of a block. -/
structure Row where
  w0 : UInt64
  w1 : UInt64
  w2 : UInt64
  w3 : UInt64
  w4 : UInt64
  w5 : UInt64
  w6 : UInt64
  w7 : UInt64
  w8 : UInt64
  w9 : UInt64
  w10 : UInt64
  w11 : UInt64
  w12 : UInt64
  w13 : UInt64
  w14 : UInt64
  w15 : UInt64

/-- 1024 bytes as eight rows. -/
structure Block where
  r0 : Row
  r1 : Row
  r2 : Row
  r3 : Row
  r4 : Row
  r5 : Row
  r6 : Row
  r7 : Row

structure Quad where
  a : UInt64
  b : UInt64
  c : UInt64
  d : UInt64

@[inline] def mulAdd (x y : UInt64) : UInt64 :=
  x + y + 2 * (x &&& 0xffffffff) * (y &&& 0xffffffff)

@[inline] def quarter (a b c d : UInt64) : Quad :=
  let a := mulAdd a b
  let d := (d ^^^ a) >>> 32 ||| (d ^^^ a) <<< 32
  let c := mulAdd c d
  let b := (b ^^^ c) >>> 24 ||| (b ^^^ c) <<< 40
  let a := mulAdd a b
  let d := (d ^^^ a) >>> 16 ||| (d ^^^ a) <<< 48
  let c := mulAdd c d
  let b := (b ^^^ c) >>> 63 ||| (b ^^^ c) <<< 1
  ⟨a, b, c, d⟩

/-- One round without a message, its sums made harder by a product. -/
def Row.permute (r : Row) : Row :=
  let q0 := quarter r.w0 r.w4 r.w8 r.w12
  let q1 := quarter r.w1 r.w5 r.w9 r.w13
  let q2 := quarter r.w2 r.w6 r.w10 r.w14
  let q3 := quarter r.w3 r.w7 r.w11 r.w15
  let s0 := quarter q0.a q1.b q2.c q3.d
  let s1 := quarter q1.a q2.b q3.c q0.d
  let s2 := quarter q2.a q3.b q0.c q1.d
  let s3 := quarter q3.a q0.b q1.c q2.d
  ⟨s0.a, s1.a, s2.a, s3.a, s3.b, s0.b, s1.b, s2.b, s2.c, s3.c, s0.c, s1.c, s1.d, s2.d, s3.d, s0.d⟩

def Row.xor (r s : Row) : Row :=
  ⟨r.w0 ^^^ s.w0, r.w1 ^^^ s.w1, r.w2 ^^^ s.w2, r.w3 ^^^ s.w3, r.w4 ^^^ s.w4, r.w5 ^^^ s.w5,
    r.w6 ^^^ s.w6, r.w7 ^^^ s.w7, r.w8 ^^^ s.w8, r.w9 ^^^ s.w9, r.w10 ^^^ s.w10,
    r.w11 ^^^ s.w11, r.w12 ^^^ s.w12, r.w13 ^^^ s.w13, r.w14 ^^^ s.w14, r.w15 ^^^ s.w15⟩

def Row.words (r : Row) : List UInt64 :=
  [r.w0, r.w1, r.w2, r.w3, r.w4, r.w5, r.w6, r.w7, r.w8, r.w9, r.w10, r.w11, r.w12, r.w13, r.w14,
    r.w15]

/-- The first sixteen words of a list, zero where it has none. -/
def Row.ofWords (words : List UInt64) : Row :=
  let w (i : Nat) := words.getD i 0
  ⟨w 0, w 1, w 2, w 3, w 4, w 5, w 6, w 7, w 8, w 9, w 10, w 11, w 12, w 13, w 14, w 15⟩

def Block.xor (x y : Block) : Block :=
  ⟨x.r0.xor y.r0, x.r1.xor y.r1, x.r2.xor y.r2, x.r3.xor y.r3, x.r4.xor y.r4, x.r5.xor y.r5,
    x.r6.xor y.r6, x.r7.xor y.r7⟩

def Block.permuteRows (x : Block) : Block :=
  ⟨x.r0.permute, x.r1.permute, x.r2.permute, x.r3.permute, x.r4.permute, x.r5.permute,
    x.r6.permute, x.r7.permute⟩

/-- Exchanges rows and columns, a column being two words wide. -/
def Block.transpose (x : Block) : Block :=
  ⟨⟨x.r0.w0, x.r0.w1, x.r1.w0, x.r1.w1, x.r2.w0, x.r2.w1, x.r3.w0, x.r3.w1,
    x.r4.w0, x.r4.w1, x.r5.w0, x.r5.w1, x.r6.w0, x.r6.w1, x.r7.w0, x.r7.w1⟩,
  ⟨x.r0.w2, x.r0.w3, x.r1.w2, x.r1.w3, x.r2.w2, x.r2.w3, x.r3.w2, x.r3.w3,
    x.r4.w2, x.r4.w3, x.r5.w2, x.r5.w3, x.r6.w2, x.r6.w3, x.r7.w2, x.r7.w3⟩,
  ⟨x.r0.w4, x.r0.w5, x.r1.w4, x.r1.w5, x.r2.w4, x.r2.w5, x.r3.w4, x.r3.w5,
    x.r4.w4, x.r4.w5, x.r5.w4, x.r5.w5, x.r6.w4, x.r6.w5, x.r7.w4, x.r7.w5⟩,
  ⟨x.r0.w6, x.r0.w7, x.r1.w6, x.r1.w7, x.r2.w6, x.r2.w7, x.r3.w6, x.r3.w7,
    x.r4.w6, x.r4.w7, x.r5.w6, x.r5.w7, x.r6.w6, x.r6.w7, x.r7.w6, x.r7.w7⟩,
  ⟨x.r0.w8, x.r0.w9, x.r1.w8, x.r1.w9, x.r2.w8, x.r2.w9, x.r3.w8, x.r3.w9,
    x.r4.w8, x.r4.w9, x.r5.w8, x.r5.w9, x.r6.w8, x.r6.w9, x.r7.w8, x.r7.w9⟩,
  ⟨x.r0.w10, x.r0.w11, x.r1.w10, x.r1.w11, x.r2.w10, x.r2.w11, x.r3.w10, x.r3.w11,
    x.r4.w10, x.r4.w11, x.r5.w10, x.r5.w11, x.r6.w10, x.r6.w11, x.r7.w10, x.r7.w11⟩,
  ⟨x.r0.w12, x.r0.w13, x.r1.w12, x.r1.w13, x.r2.w12, x.r2.w13, x.r3.w12, x.r3.w13,
    x.r4.w12, x.r4.w13, x.r5.w12, x.r5.w13, x.r6.w12, x.r6.w13, x.r7.w12, x.r7.w13⟩,
  ⟨x.r0.w14, x.r0.w15, x.r1.w14, x.r1.w15, x.r2.w14, x.r2.w15, x.r3.w14, x.r3.w15,
    x.r4.w14, x.r4.w15, x.r5.w14, x.r5.w15, x.r6.w14, x.r6.w15, x.r7.w14, x.r7.w15⟩⟩

/-- The compression function: rows, then columns, and the input again. -/
def Block.compress (x y : Block) : Block :=
  let r := x.xor y
  r.permuteRows.transpose.permuteRows.transpose.xor r

def Block.rows (x : Block) : List Row := [x.r0, x.r1, x.r2, x.r3, x.r4, x.r5, x.r6, x.r7]

def Block.words (x : Block) : List UInt64 := x.rows.flatMap Row.words

def Block.bytes (x : Block) : List UInt8 := x.words.flatMap Bytes.ofWord64

def Block.ofWords (words : List UInt64) : Block :=
  let row (i : Nat) := Row.ofWords (words.drop (16 * i))
  ⟨row 0, row 1, row 2, row 3, row 4, row 5, row 6, row 7⟩

def Block.zero : Block := Block.ofWords []

def Block.first (x : Block) : UInt64 := x.r0.w0

/-- The variable-length hash: halves of a chain of digests, and all of the last one. -/
def longHash (size : Nat) (message : List UInt8) : List UInt8 :=
  let input := Bytes.littleEndian32 size ++ message
  if size ≤ 64 then Blake2b.digest size input
  else
    let v := Blake2b.digest 64 input
    v.take 32 ++ chain (size - 32) v
where
  chain (remaining : Nat) (v : List UInt8) : List UInt8 :=
    if remaining ≤ 64 then Blake2b.digest remaining v
    else
      let next := Blake2b.digest 64 v
      next.take 32 ++ chain (remaining - 32) next
  termination_by remaining

/-- The digest from which the first blocks of every lane are made. -/
def seed (variant : Variant) (version : Nat) (params : Params) (input : Input) : List UInt8 :=
  let number := Bytes.littleEndian32
  let text (bytes : List UInt8) := number bytes.length ++ bytes
  Blake2b.digest 64 <|
    number params.lanes ++ number params.outputSize ++ number params.memoryKib ++
      number params.passes ++ number version ++ number variant.code ++ text input.password ++
      text input.salt ++ text [] ++ text input.data

/-- Blocks in a slice of one lane. -/
def Params.sliceLength (params : Params) : Nat := params.memoryKib / (4 * params.lanes)

/-- Blocks in a lane. -/
def Params.laneLength (params : Params) : Nat := 4 * params.sliceLength

/-- Which block is being written. -/
structure Place where
  pass : Nat
  slice : Nat
  lane : Nat
  index : Nat

/-- Whether the place of the other block is drawn without looking at the data. -/
def Variant.isDataIndependent (variant : Variant) (pass slice : Nat) : Bool :=
  match variant with
  | .d => false
  | .i => true
  | .id => pass == 0 && slice < 2

/-- The draws for up to 128 places of a slice, counted from one. -/
def addresses (variant : Variant) (params : Params) (place : Place) (counter : Nat) :
    Array UInt64 :=
  let number := UInt64.ofNat
  let input := Block.ofWords [number place.pass, number place.lane, number place.slice,
    number (params.laneLength * params.lanes), number params.passes, number variant.code,
    number counter]
  ((Block.zero.compress (Block.zero.compress input)).words).toArray

/-- Where the other block is, from a draw: its lane from the upper half, and from the lower half
how far back in that lane, near places being likelier. -/
def otherBlock (params : Params) (place : Place) (draw : UInt64) : Nat :=
  let slice := params.sliceLength
  let low := (draw &&& 0xffffffff).toNat
  let high := (draw >>> 32).toNat
  let lane := if place.pass == 0 && place.slice == 0 then place.lane else high % params.lanes
  let sameLane := lane == place.lane
  let finished := if place.pass == 0 then place.slice * slice else params.laneLength - slice
  let reach :=
    if sameLane then finished + place.index - 1
    else if place.index == 0 then finished - 1 else finished
  let back := (reach * ((low * low) >>> 32)) >>> 32
  let start := if place.pass == 0 || place.slice == 3 then 0 else (place.slice + 1) * slice
  lane * params.laneLength + (start + (reach - 1 - back)) % params.laneLength

/-- The memory and the draws in use. -/
structure Progress where
  memory : Array Block
  draws : Array UInt64

/-- Writes one block. Version 19 adds the old content on later passes, version 16 replaces it. -/
def step (variant : Variant) (version : Nat) (params : Params) (place : Place)
    (progress : Progress) : Progress :=
  let inLane := place.slice * params.sliceLength + place.index
  let base := place.lane * params.laneLength
  let here := base + inLane
  let before := if inLane == 0 then base + params.laneLength - 1 else here - 1
  let independent := variant.isDataIndependent place.pass place.slice
  let draws :=
    if independent && (place.index % 128 == 0 || (place.index == 2 && progress.draws.isEmpty)) then
      addresses variant params place (place.index / 128 + 1)
    else progress.draws
  let previous := progress.memory.getD before Block.zero
  let draw := if independent then draws.getD (place.index % 128) 0 else previous.first
  let other := progress.memory.getD (otherBlock params place draw) Block.zero
  let block := previous.compress other
  let block :=
    if place.pass == 0 || version == 16 then block
    else block.xor (progress.memory.getD here Block.zero)
  ⟨progress.memory.setIfInBounds here block, draws⟩

/-- Writes the blocks of one slice in one lane. The first two of a lane are given. -/
def fillSlice (variant : Variant) (version : Nat) (params : Params) (pass slice : Nat)
    (memory : Array Block) (lane : Nat) : Array Block :=
  let start := if pass == 0 && slice == 0 then 2 else 0
  ((List.range (params.sliceLength - start)).foldl
    (fun progress i => step variant version params ⟨pass, slice, lane, start + i⟩ progress)
    ⟨memory, #[]⟩).memory

/-- Writes all blocks once. -/
def fillPass (variant : Variant) (version : Nat) (params : Params) (memory : Array Block)
    (pass : Nat) : Array Block :=
  (List.range 4).foldl
    (fun memory slice =>
      (List.range params.lanes).foldl (fillSlice variant version params pass slice) memory)
    memory

/-- The first two blocks of every lane, and zeros. -/
def start (params : Params) (seed : List UInt8) : Array Block :=
  let block (i lane : Nat) := Block.ofWords <| Bytes.words64 <|
    longHash 1024 (seed ++ Bytes.littleEndian32 i ++ Bytes.littleEndian32 lane)
  (List.range params.lanes).foldl
    (fun memory lane =>
      (memory.setIfInBounds (lane * params.laneLength) (block 0 lane)).setIfInBounds
        (lane * params.laneLength + 1) (block 1 lane))
    (Array.replicate (params.laneLength * params.lanes) Block.zero)

/-- The output of `params.outputSize` bytes. -/
def hash (variant : Variant) (version : Nat) (params : Params) (input : Input) : List UInt8 :=
  let memory := (List.range params.passes).foldl (fillPass variant version params)
    (start params (seed variant version params input))
  let last (lane : Nat) := memory.getD (lane * params.laneLength + params.laneLength - 1) Block.zero
  let final := (List.range params.lanes).foldl (fun x lane => x.xor (last lane)) Block.zero
  longHash params.outputSize final.bytes

end SignIn.Argon2
