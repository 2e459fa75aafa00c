/-!
# SHA-256

`Sha256.digest` is the SHA-256 digest of a byte list, as FIPS 180-4 defines it: the
message is padded to whole 64-byte blocks, each block is spread into a schedule of 64
words, and the compression function folds the blocks into eight words, which are
written out big-endian.  `digest_length` says that every digest has 32 bytes.
-/

namespace TaskQueue.Sha256

/-- The round constants: the first 32 bits of the fractional parts of the cube roots of
the first 64 primes. -/
def roundConstants : List UInt32 :=
  [0x428a2f98, 0x71374491, 0xb5c0fbcf, 0xe9b5dba5, 0x3956c25b, 0x59f111f1, 0x923f82a4,
   0xab1c5ed5, 0xd807aa98, 0x12835b01, 0x243185be, 0x550c7dc3, 0x72be5d74, 0x80deb1fe,
   0x9bdc06a7, 0xc19bf174, 0xe49b69c1, 0xefbe4786, 0x0fc19dc6, 0x240ca1cc, 0x2de92c6f,
   0x4a7484aa, 0x5cb0a9dc, 0x76f988da, 0x983e5152, 0xa831c66d, 0xb00327c8, 0xbf597fc7,
   0xc6e00bf3, 0xd5a79147, 0x06ca6351, 0x14292967, 0x27b70a85, 0x2e1b2138, 0x4d2c6dfc,
   0x53380d13, 0x650a7354, 0x766a0abb, 0x81c2c92e, 0x92722c85, 0xa2bfe8a1, 0xa81a664b,
   0xc24b8b70, 0xc76c51a3, 0xd192e819, 0xd6990624, 0xf40e3585, 0x106aa070, 0x19a4c116,
   0x1e376c08, 0x2748774c, 0x34b0bcb5, 0x391c0cb3, 0x4ed8aa4a, 0x5b9cca4f, 0x682e6ff3,
   0x748f82ee, 0x78a5636f, 0x84c87814, 0x8cc70208, 0x90befffa, 0xa4506ceb, 0xbef9a3f7,
   0xc67178f2]

/-- The eight working registers of the compression function. -/
structure Registers where
  a : UInt32
  b : UInt32
  c : UInt32
  d : UInt32
  e : UInt32
  f : UInt32
  g : UInt32
  h : UInt32

/-- The initial hash value: the first 32 bits of the fractional parts of the square
roots of the first eight primes. -/
def initial : Registers :=
  ⟨0x6a09e667, 0xbb67ae85, 0x3c6ef372, 0xa54ff53a, 0x510e527f, 0x9b05688c, 0x1f83d9ab,
   0x5be0cd19⟩

/-- Rotation to the right by `n` bits, for `0 < n < 32`. -/
def rotr (x n : UInt32) : UInt32 :=
  (x >>> n) ||| (x <<< (32 - n))

/-- The big-endian word of four bytes. -/
def word (b0 b1 b2 b3 : UInt8) : UInt32 :=
  (b0.toUInt32 <<< 24) ||| (b1.toUInt32 <<< 16) ||| (b2.toUInt32 <<< 8) ||| b3.toUInt32

/-- The four bytes of a word, most significant first. -/
def wordBytes (w : UInt32) : List UInt8 :=
  [(w >>> 24).toUInt8, (w >>> 16).toUInt8, (w >>> 8).toUInt8, w.toUInt8]

/-- The words of a byte list, four bytes each; a tail of fewer than four bytes is
dropped. -/
def words : List UInt8 → List UInt32
  | b0 :: b1 :: b2 :: b3 :: rest => word b0 b1 b2 b3 :: words rest
  | _ => []

/-- The message length in bits, as eight big-endian bytes (modulo 2⁶⁴). -/
def lengthBytes (n : Nat) : List UInt8 :=
  (List.range 8).reverse.map fun i => (((n * 8) >>> (8 * i)) % 256).toUInt8

/-- The number of zero bytes between the `0x80` marker and the length field. -/
def zeroCount (n : Nat) : Nat :=
  (119 - n % 64) % 64

/-- The padded message: the marker byte `0x80`, zeros, and the bit length, so that the
total is a multiple of 64 bytes. -/
def pad (bs : List UInt8) : List UInt8 :=
  bs ++ [0x80] ++ List.replicate (zeroCount bs.length) 0 ++ lengthBytes bs.length

/-- The first `n` blocks of 64 bytes of a byte list. -/
def blocks : Nat → List UInt8 → List (List UInt8)
  | 0, _ => []
  | n + 1, bs => bs.take 64 :: blocks n (bs.drop 64)

/-- The small sigma functions of the message schedule. -/
def sigma0 (x : UInt32) : UInt32 := rotr x 7 ^^^ rotr x 18 ^^^ (x >>> 3)

def sigma1 (x : UInt32) : UInt32 := rotr x 17 ^^^ rotr x 19 ^^^ (x >>> 10)

/-- Extends a schedule by `n` words, each from the words 16, 15, 7 and 2 places back. -/
def extend : Nat → Array UInt32 → Array UInt32
  | 0, w => w
  | n + 1, w =>
    let t := w.size
    let next := sigma1 (w.getD (t - 2) 0) + w.getD (t - 7) 0 + sigma0 (w.getD (t - 15) 0)
      + w.getD (t - 16) 0
    extend n (w.push next)

/-- The 64-word schedule of a 64-byte block. -/
def schedule (block : List UInt8) : Array UInt32 :=
  extend 48 (words block).toArray

/-- One round of the compression function with round constant `k` and schedule word
`w`. -/
def round (r : Registers) (k w : UInt32) : Registers :=
  let s1 := rotr r.e 6 ^^^ rotr r.e 11 ^^^ rotr r.e 25
  let ch := (r.e &&& r.f) ^^^ (~~~r.e &&& r.g)
  let t1 := r.h + s1 + ch + k + w
  let s0 := rotr r.a 2 ^^^ rotr r.a 13 ^^^ rotr r.a 22
  let maj := (r.a &&& r.b) ^^^ (r.a &&& r.c) ^^^ (r.b &&& r.c)
  ⟨t1 + s0 + maj, r.a, r.b, r.c, r.d + t1, r.e, r.f, r.g⟩

/-- Registers added word by word. -/
def Registers.add (x y : Registers) : Registers :=
  ⟨x.a + y.a, x.b + y.b, x.c + y.c, x.d + y.d, x.e + y.e, x.f + y.f, x.g + y.g, x.h + y.h⟩

/-- The bytes of the registers, `a` first. -/
def Registers.toBytes (r : Registers) : List UInt8 :=
  [r.a, r.b, r.c, r.d, r.e, r.f, r.g, r.h].flatMap wordBytes

/-- The compression function: 64 rounds over the block's schedule, added to the
incoming hash value. -/
def compress (h : Registers) (block : List UInt8) : Registers :=
  let rounds := (roundConstants.zip (schedule block).toList).foldl
    (fun r kw => round r kw.1 kw.2) h
  h.add rounds

/-- The SHA-256 digest of a byte list. -/
def digest (bs : List UInt8) : List UInt8 :=
  let padded := pad bs
  ((blocks (padded.length / 64) padded).foldl compress initial).toBytes

theorem wordBytes_length (w : UInt32) : (wordBytes w).length = 4 :=
  rfl

/-- Every digest has 32 bytes. -/
theorem digest_length (bs : List UInt8) : (digest bs).length = 32 := by
  simp [digest, Registers.toBytes, wordBytes_length]

end TaskQueue.Sha256
