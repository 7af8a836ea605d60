import Memcache.Bytes

/-!
# `Memcache.Digest.Md5` — the MD5 message digest

Keys are placed on the ring, and long keys shortened, by MD5: 64-octet blocks, four rounds of
sixteen operations on four 32-bit words, all words little-endian.

## Contents

* `padding` — the octets that fill a message up to whole blocks, its length in bits last;
* `compress` — one block; `md5` — the sixteen octets of the digest.
-/

namespace Memcache.Digest

/-- The chaining words. -/
structure Words where
  a : UInt32
  b : UInt32
  c : UInt32
  d : UInt32

/-- The words before the first block. -/
def Words.start : Words :=
  ⟨0x67452301, 0xefcdab89, 0x98badcfe, 0x10325476⟩

/-- The integer parts of `2 ^ 32 * |sin (i + 1)|`. -/
def sines : Array UInt32 :=
  #[0xd76aa478, 0xe8c7b756, 0x242070db, 0xc1bdceee, 0xf57c0faf, 0x4787c62a,
    0xa8304613, 0xfd469501, 0x698098d8, 0x8b44f7af, 0xffff5bb1, 0x895cd7be,
    0x6b901122, 0xfd987193, 0xa679438e, 0x49b40821, 0xf61e2562, 0xc040b340,
    0x265e5a51, 0xe9b6c7aa, 0xd62f105d, 0x02441453, 0xd8a1e681, 0xe7d3fbc8,
    0x21e1cde6, 0xc33707d6, 0xf4d50d87, 0x455a14ed, 0xa9e3e905, 0xfcefa3f8,
    0x676f02d9, 0x8d2a4c8a, 0xfffa3942, 0x8771f681, 0x6d9d6122, 0xfde5380c,
    0xa4beea44, 0x4bdecfa9, 0xf6bb4b60, 0xbebfbc70, 0x289b7ec6, 0xeaa127fa,
    0xd4ef3085, 0x04881d05, 0xd9d4d039, 0xe6db99e5, 0x1fa27cf8, 0xc4ac5665,
    0xf4292244, 0x432aff97, 0xab9423a7, 0xfc93a039, 0x655b59c3, 0x8f0ccc92,
    0xffeff47d, 0x85845dd1, 0x6fa87e4f, 0xfe2ce6e0, 0xa3014314, 0x4e0811a1,
    0xf7537e82, 0xbd3af235, 0x2ad7d2bb, 0xeb86d391]

/-- The rotation of step `i`: each round cycles through four amounts. -/
def rotation (i : Nat) : UInt32 :=
  match i / 16, i % 4 with
  | 0, 0 => 7 | 0, 1 => 12 | 0, 2 => 17 | 0, _ => 22
  | 1, 0 => 5 | 1, 1 => 9 | 1, 2 => 14 | 1, _ => 20
  | 2, 0 => 4 | 2, 1 => 11 | 2, 2 => 16 | 2, _ => 23
  | _, 0 => 6 | _, 1 => 10 | _, 2 => 15 | _, _ => 21

/-- `w` rotated left by `n` bits, for `0 < n < 32`. -/
def rotateLeft (w n : UInt32) : UInt32 :=
  (w <<< n) ||| (w >>> (32 - n))

/-- Step `i` on the words of one block. -/
def step (block : Array UInt32) (w : Words) (i : Nat) : Words :=
  let (f, g) :=
    if i < 16 then ((w.b &&& w.c) ||| ((~~~w.b) &&& w.d), i)
    else if i < 32 then ((w.d &&& w.b) ||| ((~~~w.d) &&& w.c), (5 * i + 1) % 16)
    else if i < 48 then (w.b ^^^ w.c ^^^ w.d, (3 * i + 5) % 16)
    else (w.c ^^^ (w.b ||| (~~~w.d)), (7 * i) % 16)
  let turned := w.a + f + sines.getD i 0 + block.getD g 0
  ⟨w.d, w.b + rotateLeft turned (rotation i), w.b, w.c⟩

/-- The number that octets denote, least significant first. -/
def leValue (bs : Bytes) : Nat :=
  bs.foldr (fun b acc => acc * 256 + b.toNat) 0

/-- The four octets of a word, least significant first. -/
def leBytes (w : UInt32) : Bytes :=
  [w.toUInt8, (w >>> 8).toUInt8, (w >>> 16).toUInt8, (w >>> 24).toUInt8]

/-- The first `n` little-endian words of a string of octets. -/
def leWords : Nat → Bytes → List UInt32
  | 0, _ => []
  | n + 1, bs => UInt32.ofNat (leValue (bs.take 4)) :: leWords n (bs.drop 4)

/-- The words after one block of 64 octets. -/
def compress (w : Words) (block : Bytes) : Words :=
  let m := (leWords 16 block).toArray
  let r := (List.range 64).foldl (step m) w
  ⟨w.a + r.a, w.b + r.b, w.c + r.c, w.d + r.d⟩

/-- What follows a message of `n` octets: one set bit, zeros, and the length in bits. -/
def padding (n : Nat) : Bytes :=
  0x80 :: List.replicate ((119 - n % 64) % 64) 0 ++ (be 8 (n * 8)).reverse

/-- The words after `n` blocks. -/
def absorb : Nat → Words → Bytes → Words
  | 0, w, _ => w
  | n + 1, w, bs => absorb n (compress w (bs.take 64)) (bs.drop 64)

/-- The digest of a message. -/
def md5 (message : Bytes) : Bytes :=
  let padded := message ++ padding message.length
  let w := absorb (padded.length / 64) .start padded
  leBytes w.a ++ leBytes w.b ++ leBytes w.c ++ leBytes w.d

/-- **A digest has sixteen octets.** -/
theorem length_md5 (message : Bytes) : (md5 message).length = 16 := rfl

end Memcache.Digest
