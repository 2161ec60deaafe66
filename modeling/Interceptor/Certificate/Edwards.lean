/-
# Interceptor.Certificate.Edwards — the curve of Ed25519 keys

The curve `-x² + y² = 1 + d x² y²` modulo the prime `2²⁵⁵ - 19`. A point is kept
as `(x, y, z, t)` for `(x / z, y / z)` with `t = x y / z`, so that one formula
adds any two points without a division. Numbers are written with their last
byte first.

The seed of a key is no secret number itself. The number is taken from a digest
of the seed, with its lowest three bits and its highest bit cleared and the bit
below that set.
-/
import Interceptor.Certificate.Curve
import Interceptor.Certificate.Digest

namespace Interceptor.Certificate.Edwards

set_option autoImplicit false

def modulus : Nat := 0x7fffffffffffffffffffffffffffffffffffffffffffffffffffffffffffffed

def d : Nat := 0x52036cee2b6ffe738cc740797779e89800700a4d4141d8ab75eb4dca135978a3

/-- A point of the curve. -/
structure ExtendedPoint where
  x : Nat
  y : Nat
  z : Nat
  t : Nat

/-- The point with two coordinates. -/
def ofCoordinates (x y : Nat) : ExtendedPoint := ⟨x, y, 1, x * y % modulus⟩

/-- The point that changes nothing when it is added. -/
def neutral : ExtendedPoint := ofCoordinates 0 1

def base : ExtendedPoint :=
  ofCoordinates 0x216936d3cd6e53fec0a4e231fdd6dc5c692cc7609525a7b2c9562d608f25d51a
    0x6666666666666666666666666666666666666666666666666666666666666658

/-- The difference of two reduced numbers. -/
def sub (a b : Nat) : Nat := (a + modulus - b) % modulus

/-- The sum of two points. -/
def add (p q : ExtendedPoint) : ExtendedPoint :=
  let a := sub p.y p.x * sub q.y q.x % modulus
  let b := (p.y + p.x) * (q.y + q.x) % modulus
  let c := 2 * d * p.t * q.t % modulus
  let e := 2 * p.z * q.z % modulus
  let f := sub b a
  let g := sub e c
  let h := (e + c) % modulus
  let i := (b + a) % modulus
  ⟨f * g % modulus, h * i % modulus, g * h % modulus, f * i % modulus⟩

/-- A multiple of a point, for a number of at most `fuel` bits. -/
def multiple (p : ExtendedPoint) : Nat → Nat → ExtendedPoint
  | 0, _ => neutral
  | fuel + 1, k =>
    let half := multiple p fuel (k / 2)
    let twice := add half half
    if k % 2 = 1 then add twice p else twice

/-- A point as bytes: its second coordinate, and whether the first is odd as the highest bit. -/
def pointBytes (p : ExtendedPoint) : List UInt8 :=
  let inverse := powMod modulus p.z 256 (modulus - 2)
  let x := p.x * inverse % modulus
  let y := p.y * inverse % modulus
  (Der.fixedBytes 32 (y + if x % 2 = 1 then 1 <<< 255 else 0)).reverse

/-- The secret number of a seed. -/
def secretOf (seed : List UInt8) : Nat :=
  let n := Der.ofBytes ((Digest.sha512 seed).take 32).reverse
  n % (1 <<< 254) / 8 * 8 + (1 <<< 254)

/-- The public point of a seed, as bytes. -/
def publicBytes (seed : List UInt8) : List UInt8 :=
  pointBytes (multiple base 256 (secretOf seed))

end Interceptor.Certificate.Edwards
