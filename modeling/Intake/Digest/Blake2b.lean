import Intake.Text.Quoted

/-!
# The BLAKE2b digest

The unkeyed digest of a sequence of bytes: blocks of 128 bytes are compressed into eight
words of 64 bits in twelve rounds each. The digest used here has 16 bytes.
-/

namespace Intake

namespace Blake2b

/-- The initial words: the first 64 bits of the fractional parts of the square roots of the first
eight primes. -/
def initialWords : List UInt64 :=
  [0x6a09e667f3bcc908, 0xbb67ae8584caa73b, 0x3c6ef372fe94f82b, 0xa54ff53a5f1d36f1,
    0x510e527fade682d1, 0x9b05688c2b3e6c1f, 0x1f83d9abfb41bd6b, 0x5be0cd19137e2179]

/-- The order in which the words of a block enter the rounds; the last two rounds repeat the first
two. -/
def schedule : List (List Nat) :=
  [[0, 1, 2, 3, 4, 5, 6, 7, 8, 9, 10, 11, 12, 13, 14, 15],
    [14, 10, 4, 8, 9, 15, 13, 6, 1, 12, 0, 2, 11, 7, 5, 3],
    [11, 8, 12, 0, 5, 2, 15, 13, 10, 14, 3, 6, 7, 1, 9, 4],
    [7, 9, 3, 1, 13, 12, 11, 14, 2, 6, 5, 10, 4, 0, 15, 8],
    [9, 0, 5, 7, 2, 4, 10, 15, 14, 1, 11, 12, 6, 8, 3, 13],
    [2, 12, 6, 10, 0, 11, 8, 3, 4, 13, 7, 5, 15, 14, 1, 9],
    [12, 5, 1, 15, 14, 13, 4, 10, 0, 7, 6, 3, 9, 2, 8, 11],
    [13, 11, 7, 14, 12, 1, 3, 9, 5, 0, 15, 4, 8, 6, 2, 10],
    [6, 15, 14, 9, 11, 3, 0, 8, 12, 2, 13, 7, 1, 4, 10, 5],
    [10, 2, 8, 4, 7, 6, 1, 5, 15, 11, 9, 14, 3, 12, 13, 0],
    [0, 1, 2, 3, 4, 5, 6, 7, 8, 9, 10, 11, 12, 13, 14, 15],
    [14, 10, 4, 8, 9, 15, 13, 6, 1, 12, 0, 2, 11, 7, 5, 3]]

/-- The places of the working words that the eight mixings of a round combine: columns first, then
diagonals. -/
def lanes : List (Nat × Nat × Nat × Nat) :=
  [(0, 4, 8, 12), (1, 5, 9, 13), (2, 6, 10, 14), (3, 7, 11, 15),
    (0, 5, 10, 15), (1, 6, 11, 12), (2, 7, 8, 13), (3, 4, 9, 14)]

/-- A word rotated to the right. -/
def rotateRight (x : UInt64) (n : UInt64) : UInt64 :=
  (x >>> n) ||| (x <<< (64 - n))

/-- One mixing of four working words with two words of the block. -/
def mix (v : Array UInt64) (lane : Nat × Nat × Nat × Nat) (x y : UInt64) : Array UInt64 :=
  let (ia, ib, ic, id) := lane
  let a := v.getD ia 0 + v.getD ib 0 + x
  let d := rotateRight (v.getD id 0 ^^^ a) 32
  let c := v.getD ic 0 + d
  let b := rotateRight (v.getD ib 0 ^^^ c) 24
  let a := a + b + y
  let d := rotateRight (d ^^^ a) 16
  let c := c + d
  let b := rotateRight (b ^^^ c) 63
  (((v.setIfInBounds ia a).setIfInBounds ib b).setIfInBounds ic c).setIfInBounds id d

/-- The words of a round, two for each mixing. -/
def pairs : List Nat → List (Nat × Nat)
  | a :: b :: rest => (a, b) :: pairs rest
  | _ => []

/-- One round over the words of a block. -/
def round (block v : Array UInt64) (order : List Nat) : Array UInt64 :=
  (lanes.zip (pairs order)).foldl
    (fun v (lane, a, b) => mix v lane (block.getD a 0) (block.getD b 0)) v

/-- Compress one block into the state; `count` is the number of bytes so far. -/
def compress (state : Array UInt64) (block : Array UInt64) (count : Nat) (final : Bool) :
    Array UInt64 :=
  let start := (state.toList ++ initialWords).toArray
  let start := start.setIfInBounds 12 (start.getD 12 0 ^^^ count.toUInt64)
  let start := start.setIfInBounds 13 (start.getD 13 0 ^^^ (count / Nat.pow 2 64).toUInt64)
  let start := if final then start.setIfInBounds 14 (start.getD 14 0 ^^^ 0xFFFFFFFFFFFFFFFF) else start
  let v := schedule.foldl (round block) start
  ((List.range 8).map fun i => state.getD i 0 ^^^ v.getD i 0 ^^^ v.getD (i + 8) 0).toArray

/-- The word of the first eight bytes, the least significant first; missing bytes are zero. -/
def word (bytes : List UInt8) : UInt64 :=
  ((bytes.take 8).foldr (fun (b : UInt8) n => n * 256 + b.toNat) 0).toUInt64

/-- The sixteen words of a block. -/
def words (bytes : List UInt8) : Array UInt64 :=
  ((List.range 16).map fun i => word (bytes.drop (8 * i))).toArray

/-- Compress all bytes, `count` of which have been compressed before; the last block, which may be
empty only if there are no bytes at all, ends the digest. -/
def absorb (state : Array UInt64) (count : Nat) (bytes : List UInt8) : Array UInt64 :=
  if bytes.length ≤ 128 then compress state (words bytes) (count + bytes.length) true
  else absorb (compress state (words bytes) (count + 128) false) (count + 128) (bytes.drop 128)
termination_by bytes.length
decreasing_by simp only [List.length_drop]; omega

/-- The two hexadecimal digits of each byte of a word, the least significant byte first. -/
def wordText (w : UInt64) : List Char :=
  (List.range 8).flatMap fun i => hexText 2 ((w.toNat / Nat.pow 256 i) % 256)

/-- The state before the first block, for digests of a given number of bytes. -/
def initialState (size : UInt64) : Array UInt64 :=
  match initialWords with
  | first :: rest => ((first ^^^ 0x01010000 ^^^ size) :: rest).toArray
  | [] => #[]

end Blake2b

/-- The digest of 16 bytes of a text's UTF-8 form, in hexadecimal. -/
def digestText (s : String) : String :=
  let state := Blake2b.absorb (Blake2b.initialState 16) 0 s.toUTF8.toList
  String.ofList ((state.toList.take 2).flatMap Blake2b.wordText)

end Intake
