import CookieAuth.Crypto.Blake2b

/-!
# Argon2

The memory-hard password function in its three variants and its two versions.  Memory is an array
of 1024-byte blocks; a block is kept as eight rows of sixteen words, so that the two halves of the
compression are the same permutation of rows, once before and once after a transposition.

## Main definitions

* `Argon2.Input`: everything the derived key depends on;
* `Argon2.derive`: the derived key, a byte list of exactly the requested length.

## Main results

* `Argon2.length_derive`: the derived key has the requested length.
-/

namespace CookieAuth.Crypto.Argon2

/-- How a block chooses the earlier block that it is mixed with: by the memory content (`d`), by
counters alone (`i`), or by counters in the first half of the first pass only (`id`). -/
inductive Variant where
  | d
  | i
  | id
  deriving DecidableEq, Repr

/-- The number that stands for a variant inside the hash. -/
def Variant.code : Variant → Nat
  | .d => 0
  | .i => 1
  | .id => 2

/-- The two versions of the function.  They differ in what later passes do with the old block: the
first version overwrites it, the second one adds to it. -/
inductive Version where
  | v16
  | v19
  deriving DecidableEq, Repr

/-- The number that stands for a version, inside the hash and in stored hashes. -/
def Version.code : Version → Nat
  | .v16 => 16
  | .v19 => 19

/-- Everything that the derived key depends on. -/
structure Input where
  /-- How reference blocks are chosen. -/
  variant : Variant
  /-- Which version of the function. -/
  version : Version
  /-- Memory in KiB. -/
  memory : Nat
  /-- Number of passes over the memory. -/
  passes : Nat
  /-- Number of lanes. -/
  lanes : Nat
  /-- The secret. -/
  password : List UInt8
  /-- The salt. -/
  salt : List UInt8
  /-- Associated data. -/
  data : List UInt8
  /-- Length of the derived key in bytes. -/
  length : Nat
  deriving DecidableEq, Repr

/-! ### Blocks -/

/-- Sixteen words. -/
structure Row where
  /-- Word 0. -/
  v0 : UInt64
  /-- Word 1. -/
  v1 : UInt64
  /-- Word 2. -/
  v2 : UInt64
  /-- Word 3. -/
  v3 : UInt64
  /-- Word 4. -/
  v4 : UInt64
  /-- Word 5. -/
  v5 : UInt64
  /-- Word 6. -/
  v6 : UInt64
  /-- Word 7. -/
  v7 : UInt64
  /-- Word 8. -/
  v8 : UInt64
  /-- Word 9. -/
  v9 : UInt64
  /-- Word 10. -/
  v10 : UInt64
  /-- Word 11. -/
  v11 : UInt64
  /-- Word 12. -/
  v12 : UInt64
  /-- Word 13. -/
  v13 : UInt64
  /-- Word 14. -/
  v14 : UInt64
  /-- Word 15. -/
  v15 : UInt64
  deriving Inhabited

/-- Addition strengthened by the product of the two low halves. -/
@[inline]
def mulAdd (x y : UInt64) : UInt64 :=
  x + y + 2 * ((x &&& 0xffffffff) * (y &&& 0xffffffff))

/-- Mix four words and hand them on. -/
@[inline]
def quarter {α : Type} (a b c d : UInt64) (k : UInt64 → UInt64 → UInt64 → UInt64 → α) : α :=
  let a := mulAdd a b
  let d := rotateRight (d ^^^ a) 32
  let c := mulAdd c d
  let b := rotateRight (b ^^^ c) 24
  let a := mulAdd a b
  let d := rotateRight (d ^^^ a) 16
  let c := mulAdd c d
  let b := rotateRight (b ^^^ c) 63
  k a b c d

/-- One round over a row seen as a four by four square: its columns, then its diagonals. -/
def Row.permute (r : Row) : Row :=
  quarter r.v0 r.v4 r.v8 r.v12 fun v0 v4 v8 v12 =>
  quarter r.v1 r.v5 r.v9 r.v13 fun v1 v5 v9 v13 =>
  quarter r.v2 r.v6 r.v10 r.v14 fun v2 v6 v10 v14 =>
  quarter r.v3 r.v7 r.v11 r.v15 fun v3 v7 v11 v15 =>
  quarter v0 v5 v10 v15 fun v0 v5 v10 v15 =>
  quarter v1 v6 v11 v12 fun v1 v6 v11 v12 =>
  quarter v2 v7 v8 v13 fun v2 v7 v8 v13 =>
  quarter v3 v4 v9 v14 fun v3 v4 v9 v14 =>
  ⟨v0, v1, v2, v3, v4, v5, v6, v7, v8, v9, v10, v11, v12, v13, v14, v15⟩

/-- Word by word exclusive or. -/
def Row.xor (r s : Row) : Row :=
  ⟨r.v0 ^^^ s.v0, r.v1 ^^^ s.v1, r.v2 ^^^ s.v2, r.v3 ^^^ s.v3,
    r.v4 ^^^ s.v4, r.v5 ^^^ s.v5, r.v6 ^^^ s.v6, r.v7 ^^^ s.v7,
    r.v8 ^^^ s.v8, r.v9 ^^^ s.v9, r.v10 ^^^ s.v10, r.v11 ^^^ s.v11,
    r.v12 ^^^ s.v12, r.v13 ^^^ s.v13, r.v14 ^^^ s.v14, r.v15 ^^^ s.v15⟩

/-- The words of a row in order. -/
def Row.words (r : Row) : List UInt64 :=
  [r.v0, r.v1, r.v2, r.v3, r.v4, r.v5, r.v6, r.v7,
    r.v8, r.v9, r.v10, r.v11, r.v12, r.v13, r.v14, r.v15]

/-- The row whose words stand at `16 * n` and after in an array. -/
def Row.ofWords (words : Array UInt64) (n : Nat) : Row :=
  let word := fun i => words.getD (16 * n + i) 0
  ⟨word 0, word 1, word 2, word 3, word 4, word 5, word 6, word 7,
    word 8, word 9, word 10, word 11, word 12, word 13, word 14, word 15⟩

/-- A block of memory: eight rows of sixteen words. -/
structure Block where
  /-- Row 0. -/
  r0 : Row
  /-- Row 1. -/
  r1 : Row
  /-- Row 2. -/
  r2 : Row
  /-- Row 3. -/
  r3 : Row
  /-- Row 4. -/
  r4 : Row
  /-- Row 5. -/
  r5 : Row
  /-- Row 6. -/
  r6 : Row
  /-- Row 7. -/
  r7 : Row
  deriving Inhabited

namespace Block

/-- The block of an array of 128 words. -/
def ofWords (words : Array UInt64) : Block :=
  let row := Row.ofWords words
  ⟨row 0, row 1, row 2, row 3, row 4, row 5, row 6, row 7⟩

/-- The words of a block in order. -/
def words (b : Block) : List UInt64 :=
  b.r0.words ++ b.r1.words ++ b.r2.words ++ b.r3.words
    ++ b.r4.words ++ b.r5.words ++ b.r6.words ++ b.r7.words

/-- The block of zeros. -/
def zero : Block := ofWords #[]

/-- Word by word exclusive or. -/
def xor (a b : Block) : Block :=
  ⟨a.r0.xor b.r0, a.r1.xor b.r1, a.r2.xor b.r2, a.r3.xor b.r3,
    a.r4.xor b.r4, a.r5.xor b.r5, a.r6.xor b.r6, a.r7.xor b.r7⟩

/-- Permute every row. -/
def permuteRows (b : Block) : Block :=
  ⟨b.r0.permute, b.r1.permute, b.r2.permute, b.r3.permute,
    b.r4.permute, b.r5.permute, b.r6.permute, b.r7.permute⟩

/-- The row of two words taken from each row. -/
@[inline]
def gather (b : Block) (x y : Row → UInt64) : Row :=
  ⟨x b.r0, y b.r0, x b.r1, y b.r1, x b.r2, y b.r2, x b.r3, y b.r3,
    x b.r4, y b.r4, x b.r5, y b.r5, x b.r6, y b.r6, x b.r7, y b.r7⟩

/-- Exchange rows and columns of the eight by eight matrix of word pairs. -/
def transpose (b : Block) : Block :=
  ⟨b.gather (·.v0) (·.v1), b.gather (·.v2) (·.v3), b.gather (·.v4) (·.v5),
    b.gather (·.v6) (·.v7), b.gather (·.v8) (·.v9), b.gather (·.v10) (·.v11),
    b.gather (·.v12) (·.v13), b.gather (·.v14) (·.v15)⟩

/-- The compression of two blocks into one. -/
def compress (a b : Block) : Block :=
  let sum := a.xor b
  (sum.permuteRows.transpose.permuteRows.transpose).xor sum

end Block

/-! ### Hashing to any length -/

/-- The chain behind digests longer than 64 bytes: each full digest hashes the one before it and
contributes its first half, and the last one contributes all of its bytes. -/
def stretch (digest : List UInt8) (rest : Nat) : Nat → List UInt8
  | 0 => digest
  | n + 1 =>
    let size := if n = 0 then rest else 64
    digest.take 32 ++ stretch (Blake2b.digest size digest) rest n

/-- The digest of `message` in any number of bytes, the number itself being part of what is
hashed. -/
def longDigest (length : Nat) (message : List UInt8) : List UInt8 :=
  let seed := littleEndian 4 length ++ message
  if length ≤ 64 then
    Blake2b.digest length seed
  else
    let halves := (length + 31) / 32 - 2
    stretch (Blake2b.digest 64 seed) (length - 32 * halves) halves

/-! ### Filling the memory -/

/-- Block `column` (0 or 1) of a lane before the first pass. -/
def startBlock (first : List UInt8) (lane column : Nat) : Block :=
  Block.ofWords <| wordsOfBytes 128 <|
    longDigest 1024 (first ++ littleEndian 4 column ++ littleEndian 4 lane)

namespace Input

variable (input : Input)

/-- Number of blocks in a quarter of a lane. -/
def segmentLength : Nat := input.memory / (4 * input.lanes)

/-- Number of blocks in a lane. -/
def laneLength : Nat := 4 * input.segmentLength

/-- Number of blocks in all. -/
def blockCount : Nat := input.lanes * input.laneLength

/-- The first hash, over all parameters and inputs. -/
def firstDigest : List UInt8 :=
  let field := fun bytes : List UInt8 => littleEndian 4 bytes.length ++ bytes
  Blake2b.digest 64 <|
    littleEndian 4 input.lanes ++ littleEndian 4 input.length ++ littleEndian 4 input.memory
      ++ littleEndian 4 input.passes ++ littleEndian 4 input.version.code
      ++ littleEndian 4 input.variant.code ++ field input.password ++ field input.salt
      ++ field [] ++ field input.data

/-- The memory before the first pass: two blocks in each lane, zeros elsewhere. -/
def startMemory : Array Block :=
  let first := input.firstDigest
  (List.range input.lanes).foldl
    (fun memory lane =>
      (memory.setIfInBounds (lane * input.laneLength) (startBlock first lane 0)).setIfInBounds
        (lane * input.laneLength + 1) (startBlock first lane 1))
    (Array.replicate input.blockCount Block.zero)

/-- Whether the reference blocks of this part of the memory are chosen by counters alone. -/
def countsOnly (pass slice : Nat) : Bool :=
  match input.variant with
  | .d => false
  | .i => true
  | .id => pass = 0 && slice < 2

/-- The 128 choices numbered `counter` for one segment. -/
def choices (pass slice lane counter : Nat) : Array UInt64 :=
  let words := [pass, lane, slice, input.blockCount, input.passes, input.variant.code, counter]
  let block := Block.ofWords (words.map UInt64.ofNat).toArray
  (Block.zero.compress (Block.zero.compress block)).words.toArray

/-- Where the block that the word `choice` chooses stands: the earlier blocks of the lane, or the
finished segments of another one, recent blocks being likelier. -/
def referenceIndex (pass slice lane index : Nat) (choice : UInt64) : Nat :=
  let low := (choice &&& 0xffffffff).toNat
  -- no other lane has a finished segment while the first one is being filled
  let chosen := if pass = 0 && slice = 0 then lane else (choice >>> 32).toNat % input.lanes
  let finished := if pass = 0 then slice * input.segmentLength
    else input.laneLength - input.segmentLength
  -- the block just before the new one is compressed anyway, so it is never a choice
  let size := if chosen = lane then finished + index - 1
    else if index = 0 then finished - 1 else finished
  -- squaring the choice is what favours recent blocks
  let back := size * (low * low / 0x100000000) / 0x100000000
  let start := if pass = 0 || slice = 3 then 0 else (slice + 1) * input.segmentLength
  chosen * input.laneLength + (start + (size - 1 - back)) % input.laneLength

/-- Compute block `index` of a segment. -/
def fillBlock (pass slice lane index : Nat) (choice : Option UInt64) (memory : Array Block) :
    Array Block :=
  let column := slice * input.segmentLength + index
  let position := lane * input.laneLength + column
  -- a lane is circular: its first block follows its last one of the pass before
  let before := if column = 0 then position + input.laneLength - 1 else position - 1
  let previous := memory.getD before Block.zero
  let reference := memory.getD
    (input.referenceIndex pass slice lane index (choice.getD previous.r0.v0)) Block.zero
  let block := previous.compress reference
  -- only the later version adds to what an earlier pass left instead of replacing it
  if pass = 0 || input.version = .v16 then
    memory.setIfInBounds position block
  else
    let old := memory.getD position Block.zero
    memory.setIfInBounds position (block.xor old)

/-- Compute one segment. -/
def fillSegment (pass slice lane : Nat) (memory : Array Block) : Array Block :=
  let start := if pass = 0 && slice = 0 then 2 else 0
  let indices := (List.range input.segmentLength).drop start
  if input.countsOnly pass slice then
    (indices.foldl
      (fun (memory, counter, table) index =>
        -- one table serves 128 blocks, so it is computed again only when the counter moves
        let needed := index / 128 + 1
        let table := if counter = needed then table else input.choices pass slice lane needed
        (input.fillBlock pass slice lane index table[index % 128]? memory, needed, table))
      (memory, 0, #[])).1
  else
    indices.foldl (fun memory index => input.fillBlock pass slice lane index none memory) memory

/-- The memory after all passes. -/
def filledMemory : Array Block :=
  let steps := (List.range input.passes).flatMap fun pass =>
    (List.range 4).flatMap fun slice => (List.range input.lanes).map fun lane => (pass, slice, lane)
  steps.foldl (fun memory (pass, slice, lane) => input.fillSegment pass slice lane memory)
    input.startMemory

/-- The sum of the last blocks of all lanes. -/
def finalBlock : Block :=
  let memory := input.filledMemory
  (List.range input.lanes).foldl
    (fun sum lane => sum.xor (memory.getD ((lane + 1) * input.laneLength - 1) Block.zero))
    Block.zero

end Input

/-- The derived key. -/
def derive (input : Input) : List UInt8 :=
  let key := (longDigest input.length (input.finalBlock.words.flatMap bytesOfWord)).toArray
  (List.range input.length).map fun i => key.getD i 0

theorem length_derive (input : Input) : (derive input).length = input.length := by
  simp [derive]

end CookieAuth.Crypto.Argon2
