import CatalogRspec.Text.Digit
import CatalogRspec.Text.Utf8

namespace CatalogRspec.Md5

def sines : List UInt32 := [
  0xd76aa478, 0xe8c7b756, 0x242070db, 0xc1bdceee, 0xf57c0faf, 0x4787c62a,
  0xa8304613, 0xfd469501, 0x698098d8, 0x8b44f7af, 0xffff5bb1, 0x895cd7be,
  0x6b901122, 0xfd987193, 0xa679438e, 0x49b40821, 0xf61e2562, 0xc040b340,
  0x265e5a51, 0xe9b6c7aa, 0xd62f105d, 0x02441453, 0xd8a1e681, 0xe7d3fbc8,
  0x21e1cde6, 0xc33707d6, 0xf4d50d87, 0x455a14ed, 0xa9e3e905, 0xfcefa3f8,
  0x676f02d9, 0x8d2a4c8a, 0xfffa3942, 0x8771f681, 0x6d9d6122, 0xfde5380c,
  0xa4beea44, 0x4bdecfa9, 0xf6bb4b60, 0xbebfbc70, 0x289b7ec6, 0xeaa127fa,
  0xd4ef3085, 0x04881d05, 0xd9d4d039, 0xe6db99e5, 0x1fa27cf8, 0xc4ac5665,
  0xf4292244, 0x432aff97, 0xab9423a7, 0xfc93a039, 0x655b59c3, 0x8f0ccc92,
  0xffeff47d, 0x85845dd1, 0x6fa87e4f, 0xfe2ce6e0, 0xa3014314, 0x4e0811a1,
  0xf7537e82, 0xbd3af235, 0x2ad7d2bb, 0xeb86d391]

/-- How far each step rotates: every round of sixteen steps repeats four amounts. -/
def rotations : List UInt32 :=
  [[7, 12, 17, 22], [5, 9, 14, 20], [4, 11, 16, 23], [6, 10, 15, 21]].flatMap fun round =>
    (List.replicate 4 round).flatten

structure State where
  a : UInt32
  b : UInt32
  c : UInt32
  d : UInt32

def initial : State := ⟨0x67452301, 0xefcdab89, 0x98badcfe, 0x10325476⟩

def rotateLeft (x amount : UInt32) : UInt32 := (x <<< amount) ||| (x >>> (32 - amount))

/-- The mixing function of step `i`, and which word of the block it takes. -/
def mix (s : State) (i : Nat) : UInt32 × Nat :=
  match i / 16 with
  | 0 => ((s.b &&& s.c) ||| (~~~s.b &&& s.d), i)
  | 1 => ((s.d &&& s.b) ||| (~~~s.d &&& s.c), (5 * i + 1) % 16)
  | 2 => (s.b ^^^ s.c ^^^ s.d, (3 * i + 5) % 16)
  | _ => (s.c ^^^ (s.b ||| ~~~s.d), 7 * i % 16)

def step (block : Array UInt32) (s : State) (i : Nat) (sine amount : UInt32) : State :=
  let (f, word) := mix s i
  let sum := s.a + f + sine + (block[word]?.getD 0)
  ⟨s.d, s.b + rotateLeft sum amount, s.b, s.c⟩

def steps (block : Array UInt32) (s : State) (i : Nat) : List (UInt32 × UInt32) → State
  | [] => s
  | (sine, amount) :: rest => steps block (step block s i sine amount) (i + 1) rest

def compress (s : State) (block : List UInt32) : State :=
  let t := steps block.toArray s 0 (sines.zip rotations)
  ⟨s.a + t.a, s.b + t.b, s.c + t.c, s.d + t.d⟩

/-- The `count` low bytes of a number, least significant first. -/
def lowBytes : Nat → Nat → List UInt8
  | 0, _ => []
  | count + 1, n => UInt8.ofNat n :: lowBytes count (n / 256)

/-- Fills a message up to whole blocks of 64 bytes; the last eight hold its length in bits. -/
def pad (bytes : List UInt8) : List UInt8 :=
  bytes ++ [0x80] ++ List.replicate ((119 - bytes.length % 64) % 64) 0 ++
    lowBytes 8 (8 * bytes.length)

/-- Words of four bytes, least significant first. -/
def toWords : List UInt8 → List UInt32
  | a :: b :: c :: d :: rest =>
    (a.toUInt32 ||| b.toUInt32 <<< 8 ||| c.toUInt32 <<< 16 ||| d.toUInt32 <<< 24) :: toWords rest
  | _ => []

/-- Runs through blocks of sixteen words; `block` holds those of the present one, last first. -/
def absorb (s : State) (block : List UInt32) : List UInt32 → State
  | [] => s
  | w :: rest =>
    if block.length = 15 then absorb (compress s (w :: block).reverse) [] rest
    else absorb s (w :: block) rest

def digest (bytes : List UInt8) : List UInt8 :=
  let s := absorb initial [] (toWords (pad bytes))
  [s.a, s.b, s.c, s.d].flatMap fun w => lowBytes 4 w.toNat

def hexDigest (s : String) : String :=
  String.ofList ((digest (Text.utf8 s)).flatMap fun b => Text.lowerHex 2 b.toNat)

end CatalogRspec.Md5
