/-!
# BLAKE2b

The unkeyed BLAKE2b hash with a chosen digest length between 1 and 64 bytes, over byte lists.

## Main definitions

* `Blake2b.digest`: the digest of a message, of a given length;
* `littleEndian`: the low-to-high bytes of a number, which the callers share.
-/

namespace CookieAuth.Crypto

/-- The `n` low bytes of `x`, least significant first. -/
def littleEndian : Nat → Nat → List UInt8
  | 0, _ => []
  | n + 1, x => UInt8.ofNat (x % 256) :: littleEndian n (x / 256)

/-- The 64-bit word whose low-to-high bytes start the list; missing bytes count as zero. -/
def wordOfBytes (bytes : List UInt8) : UInt64 :=
  (bytes.take 8).foldr (fun b w => w <<< 8 ||| b.toUInt64) 0

/-- All 64-bit words of a byte list, the last one padded with zero bytes. -/
def wordsOfBytes (count : Nat) (bytes : List UInt8) : Array UInt64 :=
  Array.ofFn fun i : Fin count => wordOfBytes (bytes.drop (8 * i))

/-- The eight bytes of a word, least significant first. -/
def bytesOfWord (w : UInt64) : List UInt8 :=
  (List.range 8).map fun i => (w >>> (8 * UInt64.ofNat i)).toUInt8

theorem length_bytesOfWord (w : UInt64) : (bytesOfWord w).length = 8 := by
  rw [bytesOfWord, List.length_map, List.length_range]

/-- Rotate a word to the right. -/
@[inline]
def rotateRight (w : UInt64) (k : UInt64) : UInt64 :=
  w >>> k ||| w <<< (64 - k)

namespace Blake2b

/-- The initial chaining value. -/
def initial : Array UInt64 := #[
  0x6a09e667f3bcc908, 0xbb67ae8584caa73b, 0x3c6ef372fe94f82b, 0xa54ff53a5f1d36f1,
  0x510e527fade682d1, 0x9b05688c2b3e6c1f, 0x1f83d9abfb41bd6b, 0x5be0cd19137e2179]

/-- The order in which each of the ten round patterns takes the message words. -/
def schedule : Array (Array Nat) := #[
  #[0, 1, 2, 3, 4, 5, 6, 7, 8, 9, 10, 11, 12, 13, 14, 15],
  #[14, 10, 4, 8, 9, 15, 13, 6, 1, 12, 0, 2, 11, 7, 5, 3],
  #[11, 8, 12, 0, 5, 2, 15, 13, 10, 14, 3, 6, 7, 1, 9, 4],
  #[7, 9, 3, 1, 13, 12, 11, 14, 2, 6, 5, 10, 4, 0, 15, 8],
  #[9, 0, 5, 7, 2, 4, 10, 15, 14, 1, 11, 12, 6, 8, 3, 13],
  #[2, 12, 6, 10, 0, 11, 8, 3, 4, 13, 7, 5, 15, 14, 1, 9],
  #[12, 5, 1, 15, 14, 13, 4, 10, 0, 7, 6, 3, 9, 2, 8, 11],
  #[13, 11, 7, 14, 12, 1, 3, 9, 5, 0, 15, 4, 8, 6, 2, 10],
  #[6, 15, 14, 9, 11, 3, 0, 8, 12, 2, 13, 7, 1, 4, 10, 5],
  #[10, 2, 8, 4, 7, 6, 1, 5, 15, 11, 9, 14, 3, 12, 13, 0]]

/-- The four positions that each of the eight mixings of a round works on: columns, then
diagonals. -/
def lanes : List (Nat × Nat × Nat × Nat) :=
  [(0, 4, 8, 12), (1, 5, 9, 13), (2, 6, 10, 14), (3, 7, 11, 15),
   (0, 5, 10, 15), (1, 6, 11, 12), (2, 7, 8, 13), (3, 4, 9, 14)]

/-- Mix the message words `x` and `y` into four words of the working vector. -/
def mix (v : Array UInt64) (positions : Nat × Nat × Nat × Nat) (x y : UInt64) : Array UInt64 :=
  let (i, j, k, l) := positions
  let a := v.getD i 0 + v.getD j 0 + x
  let d := rotateRight (v.getD l 0 ^^^ a) 32
  let c := v.getD k 0 + d
  let b := rotateRight (v.getD j 0 ^^^ c) 24
  let a := a + b + y
  let d := rotateRight (d ^^^ a) 16
  let c := c + d
  let b := rotateRight (b ^^^ c) 63
  (((v.setIfInBounds i a).setIfInBounds j b).setIfInBounds k c).setIfInBounds l d

/-- One round: eight mixings, taking the message words in the order of `order`. -/
def round (message : Array UInt64) (order : Array Nat) (v : Array UInt64) : Array UInt64 :=
  lanes.zipIdx.foldl
    (fun v (positions, n) =>
      mix v positions (message.getD (order.getD (2 * n) 0) 0)
        (message.getD (order.getD (2 * n + 1) 0) 0)) v

/-- Fold one 128-byte block into the chaining value.  `count` is the number of message bytes up to
and including the block, and `last` marks the final block. -/
def compress (h : Array UInt64) (block : List UInt8) (count : Nat) (last : Bool) :
    Array UInt64 :=
  let message := wordsOfBytes 16 block
  let v := h ++ initial
  let v := v.setIfInBounds 12 (v.getD 12 0 ^^^ UInt64.ofNat count)
  let v := v.setIfInBounds 13 (v.getD 13 0 ^^^ UInt64.ofNat (count / 0x10000000000000000))
  let v := if last then v.setIfInBounds 14 (v.getD 14 0 ^^^ 0xffffffffffffffff) else v
  let v := (List.range 12).foldl
    (fun v r => round message (schedule.getD (r % 10) #[]) v) v
  Array.ofFn fun i : Fin 8 => h.getD i 0 ^^^ v.getD i 0 ^^^ v.getD (i + 8) 0

/-- Fold a message into the chaining value: `n` full blocks, then what is left as the final one.
`count` bytes have been absorbed before. -/
def absorb (h : Array UInt64) (message : List UInt8) (count : Nat) : Nat → Array UInt64
  | 0 => compress h message (count + message.length) true
  | n + 1 =>
    absorb (compress h (message.take 128) (count + 128) false) (message.drop 128) (count + 128) n

theorem size_absorb (h : Array UInt64) (message : List UInt8) (count n : Nat) :
    (absorb h message count n).size = 8 := by
  induction n generalizing h message count with
  | zero => exact Array.size_ofFn
  | succ n ih => exact ih _ _ _

/-- The digest of `message` in `length` bytes; more than 64 bytes are never produced. -/
def digest (length : Nat) (message : List UInt8) : List UInt8 :=
  let h := initial.setIfInBounds 0 (initial.getD 0 0 ^^^ 0x01010000 ^^^ UInt64.ofNat length)
  ((absorb h message 0 ((message.length - 1) / 128)).toList.flatMap bytesOfWord).take length

theorem length_digest {length : Nat} (h : length ≤ 64) (message : List UInt8) :
    (digest length message).length = length := by
  simp only [digest, List.length_take, List.length_flatMap, length_bytesOfWord, List.map_const',
    List.sum_replicate_nat, Array.length_toList, size_absorb]
  omega

end Blake2b

end CookieAuth.Crypto
