/-! # Digests of byte sequences

A digest is a short sequence of bytes that stands for a long one. The bytes are cut into blocks,
filled up at the end with their number, and every block changes a few words. Most of the constants
are digits of the square roots and cube roots of the first primes.
-/

namespace BoardBind.Script.Digest

def blocksOf {α : Type} (size : Nat) : Nat → List α → List (List α)
  | 0, _ => []
  | _ + 1, [] => []
  | fuel + 1, items => items.take size :: blocksOf size fuel (items.drop size)

/-- The bytes of a number, the greatest one first, as many as given. -/
def bigBytes (count n : Nat) : List UInt8 :=
  ((List.range count).map fun k => UInt8.ofNat (n >>> (8 * k))).reverse

/-- The bytes of a number, the smallest one first, as many as given. -/
def littleBytes (count n : Nat) : List UInt8 :=
  (List.range count).map fun k => UInt8.ofNat (n >>> (8 * k))

/-- The number of some bytes, the greatest one first. -/
def ofBigBytes (bytes : List UInt8) : Nat :=
  bytes.foldl (fun n b => n * 256 + b.toNat) 0

/-- The number of some bytes, the smallest one first. -/
def ofLittleBytes (bytes : List UInt8) : Nat :=
  ofBigBytes bytes.reverse

/-- Fills bytes up to whole blocks: a mark, zeros, and the number of bits. -/
def padded (block size : Nat) (number : Nat → List UInt8) (bytes : List UInt8) : List UInt8 :=
  let used := (bytes.length + 1 + size) % block
  bytes ++ 0x80 :: List.replicate ((block - used) % block) 0 ++ number (bytes.length * 8)

def paddedBlocks (block size : Nat) (number : Nat → List UInt8) (bytes : List UInt8) :
    List (List UInt8) :=
  let full := padded block size number bytes
  blocksOf block (full.length / block + 1) full

def turnLeft (x : UInt32) (n : UInt32) : UInt32 :=
  (x <<< n) ||| (x >>> (32 - n))

def turnRight (x : UInt32) (n : UInt32) : UInt32 :=
  (x >>> n) ||| (x <<< (32 - n))

def turnLongRight (x : UInt64) (n : UInt64) : UInt64 :=
  (x >>> n) ||| (x <<< (64 - n))

/-- The first digits in base two of the sines of the numbers from one on. -/
def sines : Array UInt32 := #[0xd76aa478, 0xe8c7b756, 0x242070db, 0xc1bdceee, 0xf57c0faf, 0x4787c62a, 0xa8304613, 0xfd469501,
  0x698098d8, 0x8b44f7af, 0xffff5bb1, 0x895cd7be, 0x6b901122, 0xfd987193, 0xa679438e, 0x49b40821,
  0xf61e2562, 0xc040b340, 0x265e5a51, 0xe9b6c7aa, 0xd62f105d, 0x02441453, 0xd8a1e681, 0xe7d3fbc8,
  0x21e1cde6, 0xc33707d6, 0xf4d50d87, 0x455a14ed, 0xa9e3e905, 0xfcefa3f8, 0x676f02d9, 0x8d2a4c8a,
  0xfffa3942, 0x8771f681, 0x6d9d6122, 0xfde5380c, 0xa4beea44, 0x4bdecfa9, 0xf6bb4b60, 0xbebfbc70,
  0x289b7ec6, 0xeaa127fa, 0xd4ef3085, 0x04881d05, 0xd9d4d039, 0xe6db99e5, 0x1fa27cf8, 0xc4ac5665,
  0xf4292244, 0x432aff97, 0xab9423a7, 0xfc93a039, 0x655b59c3, 0x8f0ccc92, 0xffeff47d, 0x85845dd1,
  0x6fa87e4f, 0xfe2ce6e0, 0xa3014314, 0x4e0811a1, 0xf7537e82, 0xbd3af235, 0x2ad7d2bb, 0xeb86d391]

/-- How far words are turned in the rounds of the oldest digest. -/
def md5Turns : Array UInt32 :=
  #[7, 12, 17, 22, 5, 9, 14, 20, 4, 11, 16, 23, 6, 10, 15, 21]

/-- Four words. -/
structure Words4 where
  a : UInt32
  b : UInt32
  c : UInt32
  d : UInt32

def md5Block (w : Words4) (block : List UInt8) : Words4 :=
  let words := ((blocksOf 4 16 block).map fun b => UInt32.ofNat (ofLittleBytes b)).toArray
  let after := (List.range 64).foldl (fun (w : Words4) n =>
    let (mixed, index) :=
      if n < 16 then ((w.b &&& w.c) ||| (~~~w.b &&& w.d), n)
      else if n < 32 then ((w.d &&& w.b) ||| (~~~w.d &&& w.c), (5 * n + 1) % 16)
      else if n < 48 then (w.b ^^^ w.c ^^^ w.d, (3 * n + 5) % 16)
      else (w.c ^^^ (w.b ||| ~~~w.d), 7 * n % 16)
    let sum := mixed + w.a + sines.getD n 0 + words.getD index 0
    let turn := md5Turns.getD (n / 16 * 4 + n % 4) 0
    ⟨w.d, w.b + turnLeft sum turn, w.b, w.c⟩) w
  ⟨w.a + after.a, w.b + after.b, w.c + after.c, w.d + after.d⟩

def md5 (bytes : List UInt8) : List UInt8 :=
  let w := (paddedBlocks 64 8 (littleBytes 8) bytes).foldl md5Block
    ⟨0x67452301, 0xefcdab89, 0x98badcfe, 0x10325476⟩
  [w.a, w.b, w.c, w.d].flatMap fun x => littleBytes 4 x.toNat

/-- Five words. -/
structure Words5 where
  a : UInt32
  b : UInt32
  c : UInt32
  d : UInt32
  e : UInt32

def sha1Block (w : Words5) (block : List UInt8) : Words5 :=
  let start := ((blocksOf 4 16 block).map fun b => UInt32.ofNat (ofBigBytes b)).toArray
  let words := (List.range 64).foldl (fun (words : Array UInt32) k =>
    let word := fun n : Nat => words.getD (k + 16 - n) 0
    words.push (turnLeft (word 3 ^^^ word 8 ^^^ word 14 ^^^ word 16) 1)) start
  let after := (List.range 80).foldl (fun (w : Words5) n =>
    let (mixed, constant) : UInt32 × UInt32 :=
      if n < 20 then ((w.b &&& w.c) ||| (~~~w.b &&& w.d), 0x5a827999)
      else if n < 40 then (w.b ^^^ w.c ^^^ w.d, 0x6ed9eba1)
      else if n < 60 then ((w.b &&& w.c) ||| (w.b &&& w.d) ||| (w.c &&& w.d), 0x8f1bbcdc)
      else (w.b ^^^ w.c ^^^ w.d, 0xca62c1d6)
    ⟨turnLeft w.a 5 + mixed + w.e + constant + words.getD n 0, w.a, turnLeft w.b 30, w.c, w.d⟩) w
  ⟨w.a + after.a, w.b + after.b, w.c + after.c, w.d + after.d, w.e + after.e⟩

def sha1 (bytes : List UInt8) : List UInt8 :=
  let w := (paddedBlocks 64 8 (bigBytes 8) bytes).foldl sha1Block
    ⟨0x67452301, 0xefcdab89, 0x98badcfe, 0x10325476, 0xc3d2e1f0⟩
  [w.a, w.b, w.c, w.d, w.e].flatMap fun x => bigBytes 4 x.toNat

def primesBelow (limit : Nat) : List Nat :=
  (List.range limit).filter fun n =>
    2 ≤ n && (List.range n).all fun k => k < 2 || n % k ≠ 0

/-- The greatest number whose power is at most a number, found bit by bit. -/
def rootOf (power : Nat → Nat) (bits n : Nat) : Nat :=
  (List.range bits).reverse.foldl (fun root k =>
    let next := root + (1 <<< k)
    if power next ≤ n then next else root) 0

/-- The first 64 digits in base two behind the point of a square root. -/
def squareRootDigits (n : Nat) : UInt64 :=
  UInt64.ofNat (rootOf (fun x => x * x) 72 (n <<< 128))

/-- The first 64 digits in base two behind the point of a cube root. -/
def cubeRootDigits (n : Nat) : UInt64 :=
  UInt64.ofNat (rootOf (fun x => x * x * x) 70 (n <<< 192))

/-- The digits of the square roots of the first sixteen primes. -/
def squareRoots : Array UInt64 :=
  ((primesBelow 54).map squareRootDigits).toArray

/-- The digits of the cube roots of the first eighty primes. -/
def cubeRoots : Array UInt64 :=
  ((primesBelow 410).map cubeRootDigits).toArray

/-- The first digits of the cube roots of the first primes. -/
def shortCubeRoots : Array UInt32 :=
  cubeRoots.map fun x => UInt32.ofNat (x.toNat >>> 32)

def sha2Block (state : Array UInt32) (block : List UInt8) : Array UInt32 :=
  let start := ((blocksOf 4 16 block).map fun b => UInt32.ofNat (ofBigBytes b)).toArray
  let words := (List.range 48).foldl (fun (words : Array UInt32) k =>
    let word := fun n : Nat => words.getD (k + 16 - n) 0
    let low := turnRight (word 15) 7 ^^^ turnRight (word 15) 18 ^^^ (word 15 >>> 3)
    let high := turnRight (word 2) 17 ^^^ turnRight (word 2) 19 ^^^ (word 2 >>> 10)
    words.push (word 16 + low + word 7 + high)) start
  let after := (List.range 64).foldl (fun (s : Array UInt32) n =>
    let word := fun k : Nat => s.getD k 0
    let e := word 4
    let a := word 0
    let high := turnRight e 6 ^^^ turnRight e 11 ^^^ turnRight e 25
    let chosen := (e &&& word 5) ^^^ (~~~e &&& word 6)
    let first := word 7 + high + chosen + shortCubeRoots.getD n 0 + words.getD n 0
    let low := turnRight a 2 ^^^ turnRight a 13 ^^^ turnRight a 22
    let most := (a &&& word 1) ^^^ (a &&& word 2) ^^^ (word 1 &&& word 2)
    #[first + low + most, a, word 1, word 2, word 3 + first, e, word 5, word 6]) state
  state.zipWith (· + ·) after

def sha2LongBlock (state : Array UInt64) (block : List UInt8) : Array UInt64 :=
  let start := ((blocksOf 8 16 block).map fun b => UInt64.ofNat (ofBigBytes b)).toArray
  let words := (List.range 64).foldl (fun (words : Array UInt64) k =>
    let word := fun n : Nat => words.getD (k + 16 - n) 0
    let low := turnLongRight (word 15) 1 ^^^ turnLongRight (word 15) 8 ^^^ (word 15 >>> 7)
    let high := turnLongRight (word 2) 19 ^^^ turnLongRight (word 2) 61 ^^^ (word 2 >>> 6)
    words.push (word 16 + low + word 7 + high)) start
  let after := (List.range 80).foldl (fun (s : Array UInt64) n =>
    let word := fun k : Nat => s.getD k 0
    let e := word 4
    let a := word 0
    let high := turnLongRight e 14 ^^^ turnLongRight e 18 ^^^ turnLongRight e 41
    let chosen := (e &&& word 5) ^^^ (~~~e &&& word 6)
    let first := word 7 + high + chosen + cubeRoots.getD n 0 + words.getD n 0
    let low := turnLongRight a 28 ^^^ turnLongRight a 34 ^^^ turnLongRight a 39
    let most := (a &&& word 1) ^^^ (a &&& word 2) ^^^ (word 1 &&& word 2)
    #[first + low + most, a, word 1, word 2, word 3 + first, e, word 5, word 6]) state
  state.zipWith (· + ·) after

/-- A digest of eight words from some start. -/
def sha2 (start : Array UInt32) (bytes : List UInt8) : List UInt8 :=
  let state := (paddedBlocks 64 8 (bigBytes 8) bytes).foldl sha2Block start
  state.toList.flatMap fun x => bigBytes 4 x.toNat

/-- A digest of eight long words from some start. -/
def sha2Long (start : Array UInt64) (bytes : List UInt8) : List UInt8 :=
  let state := (paddedBlocks 128 16 (bigBytes 16) bytes).foldl sha2LongBlock start
  state.toList.flatMap fun x => bigBytes 8 x.toNat

def sha256 (bytes : List UInt8) : List UInt8 :=
  sha2 ((squareRoots.extract 0 8).map fun x => UInt32.ofNat (x.toNat >>> 32)) bytes

def sha224 (bytes : List UInt8) : List UInt8 :=
  (sha2 ((squareRoots.extract 8 16).map fun x => UInt32.ofNat x.toNat) bytes).take 28

def sha512 (bytes : List UInt8) : List UInt8 :=
  sha2Long (squareRoots.extract 0 8) bytes

def sha384 (bytes : List UInt8) : List UInt8 :=
  (sha2Long (squareRoots.extract 8 16) bytes).take 48

/-- The orders in which the rounds of the newest digest take the words of a block. -/
def mixOrders : Array (Array Nat) := #[
  #[0, 1, 2, 3, 4, 5, 6, 7, 8, 9, 10, 11, 12, 13, 14, 15],
  #[14, 10, 4, 8, 9, 15, 13, 6, 1, 12, 0, 2, 11, 7, 5, 3],
  #[11, 8, 12, 0, 5, 2, 15, 13, 10, 14, 3, 6, 7, 1, 9, 4],
  #[7, 9, 3, 1, 13, 12, 11, 14, 2, 6, 5, 10, 4, 0, 15, 8],
  #[9, 0, 5, 7, 2, 4, 10, 15, 14, 1, 11, 12, 6, 8, 3, 13],
  #[2, 12, 6, 10, 0, 11, 8, 3, 4, 13, 7, 5, 15, 14, 1, 9],
  #[12, 5, 1, 15, 14, 13, 4, 10, 0, 7, 6, 3, 9, 2, 8, 11],
  #[13, 11, 7, 14, 12, 1, 3, 9, 5, 0, 15, 4, 8, 6, 2, 10],
  #[6, 15, 14, 9, 11, 3, 0, 8, 12, 2, 13, 7, 1, 4, 10, 5],
  #[10, 2, 8, 4, 7, 6, 1, 5, 15, 11, 9, 14, 3, 12, 13, 0]]

/-- Mixes two words of a block into four of the state. -/
def mixed (v : Array UInt64) (a b c d : Nat) (x y : UInt64) : Array UInt64 :=
  let word := fun (v : Array UInt64) (k : Nat) => v.getD k 0
  let v := v.setIfInBounds a (word v a + word v b + x)
  let v := v.setIfInBounds d (turnLongRight (word v d ^^^ word v a) 32)
  let v := v.setIfInBounds c (word v c + word v d)
  let v := v.setIfInBounds b (turnLongRight (word v b ^^^ word v c) 24)
  let v := v.setIfInBounds a (word v a + word v b + y)
  let v := v.setIfInBounds d (turnLongRight (word v d ^^^ word v a) 16)
  let v := v.setIfInBounds c (word v c + word v d)
  v.setIfInBounds b (turnLongRight (word v b ^^^ word v c) 63)

/-- Which words of the state are mixed in a round. -/
def mixColumns : List (Nat × Nat × Nat × Nat) :=
  [(0, 4, 8, 12), (1, 5, 9, 13), (2, 6, 10, 14), (3, 7, 11, 15), (0, 5, 10, 15), (1, 6, 11, 12),
    (2, 7, 8, 13), (3, 4, 9, 14)]

/-- Changes eight words by a block; the number of bytes up to its end is known, and whether it is
the last one. -/
def blake2Block (state : Array UInt64) (block : List UInt8) (count : Nat) (isLast : Bool) :
    Array UInt64 :=
  let full := block ++ List.replicate (128 - block.length) 0
  let words := ((blocksOf 8 16 full).map fun b => UInt64.ofNat (ofLittleBytes b)).toArray
  let start := state ++ squareRoots.extract 0 8
  let start := start.setIfInBounds 12 (start.getD 12 0 ^^^ UInt64.ofNat count)
  let start := if isLast then start.setIfInBounds 14 (~~~start.getD 14 0) else start
  let after := (List.range 12).foldl (fun v round =>
    let order := mixOrders.getD (round % 10) #[]
    (mixColumns.zipIdx).foldl (fun v ((a, b, c, d), n) =>
      let word := fun k : Nat => words.getD (order.getD k 0) 0
      mixed v a b c d (word (2 * n)) (word (2 * n + 1))) v) start
  (List.range 8).foldl (fun s k =>
    s.setIfInBounds k (s.getD k 0 ^^^ after.getD k 0 ^^^ after.getD (k + 8) 0)) state

/-- The digest with a chosen number of bytes, at most 64. -/
def blake2 (size : Nat) (bytes : List UInt8) : List UInt8 :=
  let start := squareRoots.extract 0 8
  let start := start.setIfInBounds 0 (start.getD 0 0 ^^^ 0x01010000 ^^^ UInt64.ofNat size)
  let blocks := if bytes = [] then [[]] else blocksOf 128 (bytes.length / 128 + 1) bytes
  let state := (blocks.zipIdx).foldl (fun state (block, n) =>
    let isLast := n + 1 = blocks.length
    blake2Block state block (n * 128 + block.length) isLast) start
  (state.toList.flatMap fun x => littleBytes 8 x.toNat).take size

/-- Takes a byte into a checksum of 32 bits, bit by bit. -/
def crcStep (crc : UInt32) (byte : UInt8) : UInt32 :=
  (List.range 8).foldl (fun crc _ =>
    if crc &&& 0x80000000 = 0 then crc <<< 1 else (crc <<< 1) ^^^ 0x04c11db7)
    (crc ^^^ (UInt32.ofNat byte.toNat <<< 24))

/-- The bytes of a number, the smallest one first, without zeros at the end. -/
def sizeBytes : Nat → Nat → List UInt8
  | 0, _ => []
  | fuel + 1, n => if n = 0 then [] else UInt8.ofNat n :: sizeBytes fuel (n / 256)

/-- A checksum of 32 bits; the number of bytes counts as well. -/
def crc (bytes : List UInt8) : UInt32 :=
  ~~~((bytes ++ sizeBytes 16 bytes.length).foldl crcStep 0)

def turningSum (bytes : List UInt8) : Nat :=
  bytes.foldl (fun sum b => (sum / 2 + sum % 2 * 0x8000 + b.toNat) % 0x10000) 0

def foldedSum (bytes : List UInt8) : Nat :=
  let sum := bytes.foldl (fun sum b => (sum + b.toNat) % 0x100000000) 0
  let folded := sum % 0x10000 + sum / 0x10000
  folded % 0x10000 + folded / 0x10000

def hexText (bytes : List UInt8) : List Char :=
  bytes.flatMap fun b => [Nat.digitChar (b.toNat / 16), Nat.digitChar (b.toNat % 16)]

end BoardBind.Script.Digest
