import Console.Word

/-! Digests: a text is filled up to whole blocks, and block after block is mixed into a state of
    words, from which the digest is read. -/

namespace Console.Host.Tool

namespace Digest

/-! ### Words -/

/-- The rest of a number that fits into so many bits. -/
def low (width n : Nat) : Nat := n % twoTo width

/-- The bits of a word turned to the right. -/
def right (width places n : Nat) : Nat :=
  n / twoTo places + low places n * twoTo (width - places)

/-- The bits of a word turned to the left. -/
def left (width places n : Nat) : Nat := right width (width - places) n

/-- All bits of a word but those that are set. -/
def other (width n : Nat) : Nat := twoTo width - 1 - n

/-- The bits of two words, chosen by those of a third one. -/
def choice (width a b c : Nat) : Nat := (a &&& b) ^^^ (other width a &&& c)

/-- The bits that most of three words have. -/
def majority (a b c : Nat) : Nat := (a &&& b) ^^^ (a &&& c) ^^^ (b &&& c)

/-- A number as so many octets, the lowest first. -/
def octetsUp : Nat → Nat → List Nat
  | 0, _ => []
  | count + 1, n => n % 256 :: octetsUp count (n / 256)

/-- The order in which the octets of a word stand. -/
inductive Endian where
  | little
  | big
  deriving DecidableEq, Repr

/-- A number as so many octets. -/
def Endian.octets (e : Endian) (count n : Nat) : List Nat :=
  match e with
  | .little => octetsUp count n
  | .big => (octetsUp count n).reverse

/-- The number that octets stand for. -/
def Endian.number (e : Endian) (l : List Nat) : Nat :=
  let up (l : List Nat) : Nat := l.foldr (fun b n => b + 256 * n) 0
  match e with
  | .little => up l
  | .big => up l.reverse

/-- A list in pieces of a length. -/
def pieces {α : Type} (length : Nat) : Nat → List α → List (List α)
  | 0, _ => []
  | _ + 1, [] => []
  | fuel + 1, l => l.take length :: pieces length fuel (l.drop length)

/-- A way to digest. -/
structure Scheme where
  /-- The size of a block in octets. -/
  block : Nat
  /-- The size of a word in octets. -/
  word : Nat
  endian : Endian
  start : List Nat
  /-- The state behind a block of words. -/
  mix : List Nat → Array Nat → List Nat
  /-- The size of the digest in octets. -/
  size : Nat

/-- The words of some octets. -/
def Scheme.words (s : Scheme) (l : List Nat) : Array Nat :=
  ((pieces s.word (l.length + 1) l).map s.endian.number).toArray

/-- What fills a text of a length up to whole blocks: a bit, zeros, and the length in bits. -/
def Scheme.padding (s : Scheme) (length : Nat) : List Nat :=
  let field := 2 * s.word
  let used := (length + 1 + field) % s.block
  0x80 :: List.replicate ((s.block - used) % s.block) 0 ++ s.endian.octets field (8 * length)

/-- The digest of octets. -/
def Scheme.digest (s : Scheme) (l : List Nat) : List Nat :=
  let whole := l ++ s.padding l.length
  let state := (pieces s.block (whole.length + 1) whole).foldl
    (fun h block => s.mix h (s.words block)) s.start
  (state.flatMap (s.endian.octets s.word)).take s.size

/-- The sums of the words of two states. -/
def added (width : Nat) (a b : List Nat) : List Nat :=
  List.zipWith (fun x y => low width (x + y)) a b

/-! ### Digests of 128 and 160 bits -/

/-- The sines of the whole numbers from one on, as fractions of 32 bits without their signs. -/
def sines : List Nat :=
  [0xd76aa478, 0xe8c7b756, 0x242070db, 0xc1bdceee, 0xf57c0faf, 0x4787c62a, 0xa8304613,
    0xfd469501, 0x698098d8, 0x8b44f7af, 0xffff5bb1, 0x895cd7be, 0x6b901122, 0xfd987193,
    0xa679438e, 0x49b40821, 0xf61e2562, 0xc040b340, 0x265e5a51, 0xe9b6c7aa, 0xd62f105d,
    0x02441453, 0xd8a1e681, 0xe7d3fbc8, 0x21e1cde6, 0xc33707d6, 0xf4d50d87, 0x455a14ed,
    0xa9e3e905, 0xfcefa3f8, 0x676f02d9, 0x8d2a4c8a, 0xfffa3942, 0x8771f681, 0x6d9d6122,
    0xfde5380c, 0xa4beea44, 0x4bdecfa9, 0xf6bb4b60, 0xbebfbc70, 0x289b7ec6, 0xeaa127fa,
    0xd4ef3085, 0x04881d05, 0xd9d4d039, 0xe6db99e5, 0x1fa27cf8, 0xc4ac5665, 0xf4292244,
    0x432aff97, 0xab9423a7, 0xfc93a039, 0x655b59c3, 0x8f0ccc92, 0xffeff47d, 0x85845dd1,
    0x6fa87e4f, 0xfe2ce6e0, 0xa3014314, 0x4e0811a1, 0xf7537e82, 0xbd3af235, 0x2ad7d2bb,
    0xeb86d391]

/-- How far words are turned in the four rounds. -/
def turns : List (List Nat) :=
  [[7, 12, 17, 22], [5, 9, 14, 20], [4, 11, 16, 23], [6, 10, 15, 21]]

/-- A step of the digest of 128 bits. -/
def step128 (words : Array Nat) (state : List Nat) (i : Nat) (sine : Nat) : List Nat :=
  match state with
  | [a, b, c, d] =>
    let (f, place) : Nat × Nat := match i / 16 with
      | 0 => (choice 32 b c d, i)
      | 1 => (choice 32 d b c, 5 * i + 1)
      | 2 => (b ^^^ c ^^^ d, 3 * i + 5)
      | _ => (c ^^^ (b ||| other 32 d), 7 * i)
    let turn := (turns.getD (i / 16) []).getD (i % 4) 0
    let n := low 32 (a + f + sine + words.getD (place % 16) 0)
    [d, low 32 (b + left 32 turn n), b, c]
  | l => l

/-- The digest of 128 bits. -/
def md5 : Scheme where
  block := 64
  word := 4
  endian := .little
  start := [0x67452301, 0xefcdab89, 0x98badcfe, 0x10325476]
  mix := fun h words =>
    added 32 h (sines.zipIdx.foldl (fun state (sine, i) => step128 words state i sine) h)
  size := 16

/-- A step of the digest of 160 bits. -/
def step160 (state : List Nat) (i word : Nat) : List Nat :=
  match state with
  | [a, b, c, d, e] =>
    let (f, k) : Nat × Nat := match i / 20 with
      | 0 => (choice 32 b c d, 0x5a827999)
      | 1 => (b ^^^ c ^^^ d, 0x6ed9eba1)
      | 2 => (majority b c d, 0x8f1bbcdc)
      | _ => (b ^^^ c ^^^ d, 0xca62c1d6)
    [low 32 (left 32 5 a + f + e + k + word), a, left 32 30 b, c, d]
  | l => l

/-- Adds words to a block, each made from those before it. -/
def extended (next : Array Nat → Nat) (words : Array Nat) : Nat → Array Nat
  | 0 => words
  | count + 1 =>
    let words := extended next words count
    words.push (next words)

/-- The word so many places before the next one. -/
def ago (words : Array Nat) (n : Nat) : Nat := words.getD (words.size - n) 0

/-- The digest of 160 bits. -/
def sha1 : Scheme where
  block := 64
  word := 4
  endian := .big
  start := [0x67452301, 0xefcdab89, 0x98badcfe, 0x10325476, 0xc3d2e1f0]
  mix := fun h words =>
    let next (w : Array Nat) : Nat := left 32 1 (ago w 3 ^^^ ago w 8 ^^^ ago w 14 ^^^ ago w 16)
    added 32 h ((extended next words 64).toList.zipIdx.foldl
      (fun state (word, i) => step160 state i word) h)
  size := 20

/-! ### Digests of 256 and 512 bits -/

/-- The largest number with a property that all smaller ones have, with so many bits. -/
def greatest (p : Nat → Bool) : Nat → Nat → Nat
  | 0, n => n
  | bits + 1, n =>
    let next := n + twoTo bits
    greatest p bits (if p next then next else n)

/-- The 64 bits behind the point of a square root. -/
def squareRoot (n : Nat) : Nat := low 64 (greatest (fun r => r * r ≤ n * twoTo 128) 70 0)

/-- The 64 bits behind the point of a cube root. -/
def cubeRoot (n : Nat) : Nat := low 64 (greatest (fun r => r * r * r ≤ n * twoTo 192) 70 0)

/-- The first eighty primes. -/
def primes : List Nat :=
  (List.range 410).filter fun n =>
    n ≥ 2 && (List.range n).all fun d => d < 2 || n % d != 0

/-- The first bits of the roots of primes. -/
def cubeRoots : List Nat := primes.map cubeRoot

/-- The first bits of the roots of the first primes. -/
def squareRoots : List Nat := (primes.take 16).map squareRoot

/-- How a digest of the second family is made. -/
structure Family where
  width : Nat
  constants : List Nat
  /-- How far a word is turned, and turned or moved, for the words that are added to a block. -/
  early : Nat × Nat × Nat
  late : Nat × Nat × Nat
  /-- How far the first and the fifth word of the state are turned. -/
  first : Nat × Nat × Nat
  fifth : Nat × Nat × Nat

/-- Three turns of a word. -/
def Family.turned (f : Family) (t : Nat × Nat × Nat) (n : Nat) : Nat :=
  right f.width t.1 n ^^^ right f.width t.2.1 n ^^^ right f.width t.2.2 n

/-- Two turns of a word and what is left of it when it is moved. -/
def Family.moved (f : Family) (t : Nat × Nat × Nat) (n : Nat) : Nat :=
  right f.width t.1 n ^^^ right f.width t.2.1 n ^^^ n / twoTo t.2.2

/-- A step of a digest of the second family. -/
def Family.step (f : Family) (state : List Nat) (k word : Nat) : List Nat :=
  match state with
  | [a, b, c, d, e, x, y, h] =>
    let p := h + f.turned f.fifth e + choice f.width e x y + k + word
    let q := f.turned f.first a + majority a b c
    [low f.width (p + q), a, b, c, low f.width (d + p), e, x, y]
  | l => l

/-- A block in a digest of the second family. -/
def Family.mix (f : Family) (h : List Nat) (words : Array Nat) : List Nat :=
  let next (w : Array Nat) : Nat :=
    low f.width (f.moved f.late (ago w 2) + ago w 7 + f.moved f.early (ago w 15) + ago w 16)
  let words := (extended next words (f.constants.length - 16)).toList
  added f.width h ((f.constants.zip words).foldl (fun state (k, word) => f.step state k word) h)

/-- The family with words of 32 bits. -/
def small : Family :=
  ⟨32, (cubeRoots.take 64).map fun n => n / twoTo 32, (7, 18, 3), (17, 19, 10), (2, 13, 22),
    (6, 11, 25)⟩

/-- The family with words of 64 bits. -/
def large : Family := ⟨64, cubeRoots, (1, 8, 7), (19, 61, 6), (28, 34, 39), (14, 18, 41)⟩

/-- A digest of a family. -/
def Family.scheme (f : Family) (start : List Nat) (size : Nat) : Scheme :=
  ⟨2 * f.width, f.width / 8, .big, start, f.mix, size⟩

/-- The digest of 256 bits. -/
def sha256 : Scheme := small.scheme ((squareRoots.take 8).map fun n => n / twoTo 32) 32

/-- The digest of 512 bits. -/
def sha512 : Scheme := large.scheme (squareRoots.take 8) 64

/-! ### A sum of 32 bits -/

/-- The remainder of an octet in front of 32 bits. -/
def remainder (n : Nat) : Nat :=
  (List.range 8).foldl
    (fun r _ => low 32 (2 * r) ^^^ (if r / twoTo 31 = 1 then 0x04c11db7 else 0)) (n * twoTo 24)

/-- The remainders of all octets. -/
def remainders : Array Nat := ((List.range 256).map remainder).toArray

/-- The remainder of a text behind which its length stands. -/
def crc (l : List Nat) : Nat :=
  let next (r n : Nat) : Nat :=
    low 32 (r * 256) ^^^ remainders.getD ((r / twoTo 24) ^^^ n) 0
  let length := (octetsUp 8 l.length).reverse.dropWhile (· == 0)
  other 32 ((l ++ length.reverse).foldl next 0)

end Digest

end Console.Host.Tool
