/-
# Interceptor.Certificate.Curve — elliptic curves over prime fields

The curves `y² = x³ - 3x + b` modulo a prime on which keys and signatures are
made. A point is kept in weighted form `(x, y, z)`, which stands for
`(x / z², y / z³)`, so that sums need no division; `z = 0` is the point at
infinity. Multiplication doubles and adds, a bit at a time.
-/
import Interceptor.Certificate.Der

namespace Interceptor.Certificate

set_option autoImplicit false

/-- `b ^ e` modulo `m`, for an exponent of at most `fuel` bits. -/
def powMod (m b : Nat) : Nat → Nat → Nat
  | 0, _ => 1 % m
  | fuel + 1, e =>
    let half := powMod m b fuel (e / 2)
    let square := half * half % m
    if e % 2 = 1 then square * b % m else square

/-- A curve, a point on it, and the prime number of that point's multiples. -/
structure Curve where
  /-- The bytes of a coordinate. -/
  size : Nat
  modulus : Nat
  b : Nat
  order : Nat
  baseX : Nat
  baseY : Nat
  deriving DecidableEq, Repr

/-- A point in weighted form. -/
structure WeightedPoint where
  x : Nat
  y : Nat
  z : Nat

namespace Curve

def p256 : Curve where
  size := 32
  modulus := 0xffffffff00000001000000000000000000000000ffffffffffffffffffffffff
  b := 0x5ac635d8aa3a93e7b3ebbd55769886bc651d06b0cc53b0f63bce3c3e27d2604b
  order := 0xffffffff00000000ffffffffffffffffbce6faada7179e84f3b9cac2fc632551
  baseX := 0x6b17d1f2e12c4247f8bce6e563a440f277037d812deb33a0f4a13945d898c296
  baseY := 0x4fe342e2fe1a7f9b8ee7eb4a7c0f9e162bce33576b315ececbb6406837bf51f5

def p384 : Curve where
  size := 48
  modulus := 0xfffffffffffffffffffffffffffffffffffffffffffffffffffffffffffffffeffffffff0000000000000000ffffffff
  b := 0xb3312fa7e23ee7e4988e056be3f82d19181d9c6efe8141120314088f5013875ac656398d8a2ed19d2a85c8edd3ec2aef
  order := 0xffffffffffffffffffffffffffffffffffffffffffffffffc7634d81f4372ddf581a0db248b0a77aecec196accc52973
  baseX := 0xaa87ca22be8b05378eb1c71ef320ad746e1d3b628ba79b9859f741e082542a385502f25dbf55296c3a545e3872760ab7
  baseY := 0x3617de4a96262c6f5d9e98bf9292dc29f8f41dbd289a147ce9da3113b5f0b8c00a60b1ce1d7e819d7a431d7c90ea0e5f

variable (c : Curve)

/-- The difference of two reduced coordinates. -/
def sub (x y : Nat) : Nat := (x + c.modulus - y) % c.modulus

def infinity : WeightedPoint := ⟨1, 1, 0⟩

def base : WeightedPoint := ⟨c.baseX, c.baseY, 1⟩

/-- A point added to itself. -/
def double (q : WeightedPoint) : WeightedPoint :=
  let p := c.modulus
  let delta := q.z * q.z % p
  let gamma := q.y * q.y % p
  let beta := q.x * gamma % p
  let alpha := 3 * (c.sub q.x delta * (q.x + delta)) % p
  let x := c.sub (alpha * alpha % p) (8 * beta % p)
  let z := 2 * q.y * q.z % p
  let y := c.sub (alpha * c.sub (4 * beta % p) x % p) (8 * gamma * gamma % p)
  ⟨x, y, z⟩

/-- The sum of two points. -/
def add (q r : WeightedPoint) : WeightedPoint :=
  let p := c.modulus
  if q.z = 0 then r
  else if r.z = 0 then q
  else
    let qz := q.z * q.z % p
    let rz := r.z * r.z % p
    let u := q.x * rz % p
    let v := r.x * qz % p
    let s := q.y * rz * r.z % p
    let t := r.y * qz * q.z % p
    if u = v then
      if s = t then c.double q else infinity
    else
      let h := c.sub v u
      let w := c.sub t s
      let hh := h * h % p
      let hhh := hh * h % p
      let uhh := u * hh % p
      let x := c.sub (c.sub (w * w % p) hhh) (2 * uhh % p)
      let y := c.sub (w * c.sub uhh x % p) (s * hhh % p)
      ⟨x, y, h * q.z * r.z % p⟩

/-- A multiple of a point, for a number of at most `fuel` bits. -/
def multiple (q : WeightedPoint) : Nat → Nat → WeightedPoint
  | 0, _ => infinity
  | fuel + 1, k =>
    let twice := c.double (multiple q fuel (k / 2))
    if k % 2 = 1 then c.add twice q else twice

/-- The coordinates of a point that is not at infinity. -/
def coordinates? (q : WeightedPoint) : Option (Nat × Nat) :=
  if q.z = 0 then none
  else
    let p := c.modulus
    let inverse := powMod p q.z (8 * c.size) (p - 2)
    let square := inverse * inverse % p
    some (q.x * square % p, q.y * square * inverse % p)

/-- Whether two coordinates are those of a point on the curve. -/
def holds (x y : Nat) : Bool :=
  let p := c.modulus
  x < p && y < p && y * y % p == (x * x * x + (p - 3) * x + c.b) % p

/-- Both coordinates, behind the byte 4. -/
def pointBytes (x y : Nat) : List UInt8 :=
  4 :: Der.fixedBytes c.size x ++ Der.fixedBytes c.size y

/-- The coordinates of a point on the curve that is written out in full. -/
def pointOf? : List UInt8 → Option (Nat × Nat)
  | 4 :: bytes =>
    let x := Der.ofBytes (bytes.take c.size)
    let y := Der.ofBytes (bytes.drop c.size)
    if bytes.length = 2 * c.size ∧ c.holds x y = true then some (x, y) else none
  | _ => none

/-- The public point of a secret number, as bytes. -/
def publicBytes (secret : Nat) : List UInt8 :=
  match c.coordinates? (c.multiple c.base (8 * c.size) secret) with
  | some (x, y) => c.pointBytes x y
  | none => []

/-- Whether a number can be a secret. -/
def isSecret (secret : Nat) : Bool := 0 < secret && secret < c.order

end Curve

end Interceptor.Certificate
