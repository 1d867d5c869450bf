/-!
SHA-256 over lists of bytes: padding to whole blocks, the message schedule, and sixty-four rounds
for each block.
-/
namespace ServicePlacement.Sha256

structure Digest where
  a : UInt32
  b : UInt32
  c : UInt32
  d : UInt32
  e : UInt32
  f : UInt32
  g : UInt32
  h : UInt32
deriving DecidableEq

/-- The fractional parts of the square roots of the first eight primes. -/
def initial : Digest where
  a := 0x6a09e667
  b := 0xbb67ae85
  c := 0x3c6ef372
  d := 0xa54ff53a
  e := 0x510e527f
  f := 0x9b05688c
  g := 0x1f83d9ab
  h := 0x5be0cd19

/-- The fractional parts of the cube roots of the first sixty-four primes. -/
def roundConstants : List UInt32 :=
  [ 0x428a2f98, 0x71374491, 0xb5c0fbcf, 0xe9b5dba5, 0x3956c25b, 0x59f111f1,
    0x923f82a4, 0xab1c5ed5, 0xd807aa98, 0x12835b01, 0x243185be, 0x550c7dc3,
    0x72be5d74, 0x80deb1fe, 0x9bdc06a7, 0xc19bf174, 0xe49b69c1, 0xefbe4786,
    0x0fc19dc6, 0x240ca1cc, 0x2de92c6f, 0x4a7484aa, 0x5cb0a9dc, 0x76f988da,
    0x983e5152, 0xa831c66d, 0xb00327c8, 0xbf597fc7, 0xc6e00bf3, 0xd5a79147,
    0x06ca6351, 0x14292967, 0x27b70a85, 0x2e1b2138, 0x4d2c6dfc, 0x53380d13,
    0x650a7354, 0x766a0abb, 0x81c2c92e, 0x92722c85, 0xa2bfe8a1, 0xa81a664b,
    0xc24b8b70, 0xc76c51a3, 0xd192e819, 0xd6990624, 0xf40e3585, 0x106aa070,
    0x19a4c116, 0x1e376c08, 0x2748774c, 0x34b0bcb5, 0x391c0cb3, 0x4ed8aa4a,
    0x5b9cca4f, 0x682e6ff3, 0x748f82ee, 0x78a5636f, 0x84c87814, 0x8cc70208,
    0x90befffa, 0xa4506ceb, 0xbef9a3f7, 0xc67178f2]

def rotate (x : UInt32) (n : UInt32) : UInt32 := (x >>> n) ||| (x <<< (32 - n))

def nextWord (before : List UInt32) : UInt32 :=
  let at_ (i : Nat) : UInt32 := before.getD (i - 1) 0
  let x := at_ 15
  let y := at_ 2
  let s0 := rotate x 7 ^^^ rotate x 18 ^^^ (x >>> 3)
  let s1 := rotate y 17 ^^^ rotate y 19 ^^^ (y >>> 10)
  at_ 16 + s0 + at_ 7 + s1

def extend : Nat → List UInt32 → List UInt32
  | 0, before => before
  | n + 1, before => extend n (nextWord before :: before)

def schedule (block : List UInt32) : List UInt32 := (extend 48 block.reverse).reverse

def round (s : Digest) (kw : UInt32 × UInt32) : Digest :=
  let s1 := rotate s.e 6 ^^^ rotate s.e 11 ^^^ rotate s.e 25
  let choice := (s.e &&& s.f) ^^^ (~~~s.e &&& s.g)
  let t1 := s.h + s1 + choice + kw.1 + kw.2
  let s0 := rotate s.a 2 ^^^ rotate s.a 13 ^^^ rotate s.a 22
  let majority := (s.a &&& s.b) ^^^ (s.a &&& s.c) ^^^ (s.b &&& s.c)
  ⟨t1 + (s0 + majority), s.a, s.b, s.c, s.d + t1, s.e, s.f, s.g⟩

def compress (s : Digest) (block : List UInt32) : Digest :=
  let r := (roundConstants.zip (schedule block)).foldl round s
  ⟨s.a + r.a, s.b + r.b, s.c + r.c, s.d + r.d, s.e + r.e, s.f + r.f, s.g + r.g, s.h + r.h⟩

def compressBlocks : Nat → Digest → List UInt32 → Digest
  | 0, s, _ => s
  | n + 1, s, words => compressBlocks n (compress s (words.take 16)) (words.drop 16)

def words : List UInt8 → List UInt32
  | a :: b :: c :: d :: rest =>
    ((a.toUInt32 <<< 24) ||| (b.toUInt32 <<< 16) ||| (c.toUInt32 <<< 8) ||| d.toUInt32) ::
      words rest
  | _ => []

/-- The message with a one bit, zeros, and its length in bits: a whole number of blocks. -/
def pad (message : List UInt8) : List UInt8 :=
  let n := message.length
  let zeros : List UInt8 := List.replicate ((119 - n % 64) % 64) 0
  let length := [56, 48, 40, 32, 24, 16, 8, 0].map fun shift => UInt8.ofNat ((8 * n) >>> shift)
  message ++ 0x80 :: zeros ++ length

def hash (message : List UInt8) : Digest :=
  let ws := words (pad message)
  compressBlocks (ws.length / 16) initial ws

def Digest.leading (d : Digest) : UInt64 := (d.a.toUInt64 <<< 32) ||| d.b.toUInt64

end ServicePlacement.Sha256
