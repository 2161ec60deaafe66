/-
# Interceptor.Certificate.Digest — the digests SHA-256 and SHA-512

Bytes are padded to blocks of sixteen words: a one bit, zero bits, and the
length in bits. Each block is stretched to one word for each round and mixed
into eight words. The two digests differ in the size of a word, in the number
of rounds and in how far bits are moved, which a `Scheme` says. The constants
are the first bits of the fractional parts of the square roots of the first
eight primes, for the start, and of the cube roots of the first primes, for the
rounds.
-/
import Interceptor.Certificate.Der

namespace Interceptor.Certificate.Digest

set_option autoImplicit false

/-- Words of one size and what a digest does with them. -/
structure Scheme (W : Type) where
  /-- The bytes of a word. -/
  size : Nat
  ofNat : Nat → W
  toNat : W → Nat
  rotate : W → W → W
  /-- How far the words of the schedule are rotated and at last shifted, the far ones and the near ones. -/
  far : W × W × W
  near : W × W × W
  /-- How far the fifth and the first word of the state are rotated. -/
  fifth : W × W × W
  first : W × W × W
  initial : List W
  roundConstants : List W

section Mixing

variable {W : Type} [Add W] [XorOp W] [AndOp W] [Complement W] [ShiftRight W] (scheme : Scheme W)

/-- The bytes with their padding: whole blocks of sixteen words. -/
def padded (bytes : List UInt8) : List UInt8 :=
  let block := 16 * scheme.size
  let zeros := (2 * block - 1 - 2 * scheme.size - bytes.length % block) % block
  bytes ++ 0x80 :: List.replicate zeros 0 ++ Der.fixedBytes (2 * scheme.size) (8 * bytes.length)

/-- Bytes as words; `fuel` bounds their number. -/
def words : Nat → List UInt8 → List W
  | 0, _ => []
  | fuel + 1, bytes =>
    if bytes.isEmpty then []
    else scheme.ofNat (Der.ofBytes (bytes.take scheme.size)) :: words fuel (bytes.drop scheme.size)

/-- The sum without carry of a word rotated twice and shifted once. -/
def shifted (steps : W × W × W) (x : W) : W :=
  scheme.rotate x steps.1 ^^^ scheme.rotate x steps.2.1 ^^^ (x >>> steps.2.2)

/-- The sum without carry of a word rotated three times. -/
def rotated (steps : W × W × W) (x : W) : W :=
  scheme.rotate x steps.1 ^^^ scheme.rotate x steps.2.1 ^^^ scheme.rotate x steps.2.2

/-- Lengthens a schedule, whose latest word stands first, by `count` words. -/
def stretch : Nat → List W → List W
  | 0, schedule => schedule
  | count + 1, schedule =>
    let word (i : Nat) := schedule.getD i (scheme.ofNat 0)
    let next := word 15 + shifted scheme scheme.far (word 14) + word 6 + shifted scheme scheme.near (word 1)
    stretch count (next :: schedule)

/-- One round with a round constant and a word of the schedule. -/
def round (state : List W) (constant word : W) : List W :=
  match state with
  | [a, b, c, d, e, f, g, h] =>
    let choice := (e &&& f) ^^^ (~~~e &&& g)
    let t1 := h + rotated scheme scheme.fifth e + choice + constant + word
    let majority := (a &&& b) ^^^ (a &&& c) ^^^ (b &&& c)
    [t1 + rotated scheme scheme.first a + majority, a, b, c, d + t1, e, f, g]
  | other => other

/-- Mixes a block of sixteen words into the state. -/
def compress (state : List W) (block : List W) : List W :=
  let schedule := (stretch scheme (scheme.roundConstants.length - 16) block.reverse).reverse
  let mixed := (scheme.roundConstants.zip schedule).foldl (fun s (k, w) => round scheme s k w) state
  List.zipWith (· + ·) state mixed

/-- Mixes all blocks in; `fuel` bounds their number. -/
def compressAll : Nat → List W → List W → List W
  | 0, state, _ => state
  | fuel + 1, state, ws =>
    if ws.isEmpty then state else compressAll fuel (compress scheme state (ws.take 16)) (ws.drop 16)

/-- The bytes of the digest. -/
def digest (bytes : List UInt8) : List UInt8 :=
  let text := padded scheme bytes
  let ws := words scheme text.length text
  (compressAll scheme ws.length scheme.initial ws).flatMap fun w => Der.fixedBytes scheme.size (scheme.toNat w)

end Mixing

/-- Words of 32 bits. -/
def scheme256 : Scheme UInt32 where
  size := 4
  ofNat := UInt32.ofNat
  toNat := UInt32.toNat
  rotate x n := (x >>> n) ||| (x <<< (32 - n))
  far := (7, 18, 3)
  near := (17, 19, 10)
  fifth := (6, 11, 25)
  first := (2, 13, 22)
  initial :=
    [0x6a09e667, 0xbb67ae85, 0x3c6ef372, 0xa54ff53a, 0x510e527f, 0x9b05688c, 0x1f83d9ab, 0x5be0cd19]
  roundConstants :=
    [0x428a2f98, 0x71374491, 0xb5c0fbcf, 0xe9b5dba5, 0x3956c25b, 0x59f111f1, 0x923f82a4, 0xab1c5ed5,
     0xd807aa98, 0x12835b01, 0x243185be, 0x550c7dc3, 0x72be5d74, 0x80deb1fe, 0x9bdc06a7, 0xc19bf174,
     0xe49b69c1, 0xefbe4786, 0x0fc19dc6, 0x240ca1cc, 0x2de92c6f, 0x4a7484aa, 0x5cb0a9dc, 0x76f988da,
     0x983e5152, 0xa831c66d, 0xb00327c8, 0xbf597fc7, 0xc6e00bf3, 0xd5a79147, 0x06ca6351, 0x14292967,
     0x27b70a85, 0x2e1b2138, 0x4d2c6dfc, 0x53380d13, 0x650a7354, 0x766a0abb, 0x81c2c92e, 0x92722c85,
     0xa2bfe8a1, 0xa81a664b, 0xc24b8b70, 0xc76c51a3, 0xd192e819, 0xd6990624, 0xf40e3585, 0x106aa070,
     0x19a4c116, 0x1e376c08, 0x2748774c, 0x34b0bcb5, 0x391c0cb3, 0x4ed8aa4a, 0x5b9cca4f, 0x682e6ff3,
     0x748f82ee, 0x78a5636f, 0x84c87814, 0x8cc70208, 0x90befffa, 0xa4506ceb, 0xbef9a3f7, 0xc67178f2]

/-- Words of 64 bits. -/
def scheme512 : Scheme UInt64 where
  size := 8
  ofNat := UInt64.ofNat
  toNat := UInt64.toNat
  rotate x n := (x >>> n) ||| (x <<< (64 - n))
  far := (1, 8, 7)
  near := (19, 61, 6)
  fifth := (14, 18, 41)
  first := (28, 34, 39)
  initial :=
    [0x6a09e667f3bcc908, 0xbb67ae8584caa73b, 0x3c6ef372fe94f82b, 0xa54ff53a5f1d36f1,
     0x510e527fade682d1, 0x9b05688c2b3e6c1f, 0x1f83d9abfb41bd6b, 0x5be0cd19137e2179]
  roundConstants :=
    [0x428a2f98d728ae22, 0x7137449123ef65cd, 0xb5c0fbcfec4d3b2f, 0xe9b5dba58189dbbc,
     0x3956c25bf348b538, 0x59f111f1b605d019, 0x923f82a4af194f9b, 0xab1c5ed5da6d8118,
     0xd807aa98a3030242, 0x12835b0145706fbe, 0x243185be4ee4b28c, 0x550c7dc3d5ffb4e2,
     0x72be5d74f27b896f, 0x80deb1fe3b1696b1, 0x9bdc06a725c71235, 0xc19bf174cf692694,
     0xe49b69c19ef14ad2, 0xefbe4786384f25e3, 0x0fc19dc68b8cd5b5, 0x240ca1cc77ac9c65,
     0x2de92c6f592b0275, 0x4a7484aa6ea6e483, 0x5cb0a9dcbd41fbd4, 0x76f988da831153b5,
     0x983e5152ee66dfab, 0xa831c66d2db43210, 0xb00327c898fb213f, 0xbf597fc7beef0ee4,
     0xc6e00bf33da88fc2, 0xd5a79147930aa725, 0x06ca6351e003826f, 0x142929670a0e6e70,
     0x27b70a8546d22ffc, 0x2e1b21385c26c926, 0x4d2c6dfc5ac42aed, 0x53380d139d95b3df,
     0x650a73548baf63de, 0x766a0abb3c77b2a8, 0x81c2c92e47edaee6, 0x92722c851482353b,
     0xa2bfe8a14cf10364, 0xa81a664bbc423001, 0xc24b8b70d0f89791, 0xc76c51a30654be30,
     0xd192e819d6ef5218, 0xd69906245565a910, 0xf40e35855771202a, 0x106aa07032bbd1b8,
     0x19a4c116b8d2d0c8, 0x1e376c085141ab53, 0x2748774cdf8eeb99, 0x34b0bcb5e19b48a8,
     0x391c0cb3c5c95a63, 0x4ed8aa4ae3418acb, 0x5b9cca4f7763e373, 0x682e6ff3d6b2b8a3,
     0x748f82ee5defb2fc, 0x78a5636f43172f60, 0x84c87814a1f0ab72, 0x8cc702081a6439ec,
     0x90befffa23631e28, 0xa4506cebde82bde9, 0xbef9a3f7b2c67915, 0xc67178f2e372532b,
     0xca273eceea26619c, 0xd186b8c721c0c207, 0xeada7dd6cde0eb1e, 0xf57d4f7fee6ed178,
     0x06f067aa72176fba, 0x0a637dc5a2c898a6, 0x113f9804bef90dae, 0x1b710b35131c471b,
     0x28db77f523047d84, 0x32caab7b40c72493, 0x3c9ebe0a15c9bebc, 0x431d67c49c100d4c,
     0x4cc5d4becb3e42b6, 0x597f299cfc657e2a, 0x5fcb6fab3ad6faec, 0x6c44198c4a475817]

/-- The 32 bytes of the short digest. -/
def sha256 : List UInt8 → List UInt8 := digest scheme256

/-- The 64 bytes of the long digest. -/
def sha512 : List UInt8 → List UInt8 := digest scheme512

end Interceptor.Certificate.Digest
