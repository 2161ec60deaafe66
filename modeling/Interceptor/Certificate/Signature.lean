/-
# Interceptor.Certificate.Signature — signatures of certificates

A signature under a secret number is a pair `(r, s)`: `r` is the first
coordinate of a multiple of the base point, and `s` ties it to the secret and
to the digest of what is signed. Whoever knows the public point can check it.
The multiple is drawn from a digest of the secret and of what is signed, so
that two texts never share one.
-/
import Interceptor.Certificate.Curve
import Interceptor.Certificate.Digest

namespace Interceptor.Certificate

set_option autoImplicit false

/-- A signature. -/
structure Signature where
  r : Nat
  s : Nat
  deriving DecidableEq, Repr

namespace Signature

def curve : Curve := .p256

/-- The signature that the `k`-th multiple of the base point gives, unless it has a zero part. -/
def withMultiple? (secret digest k : Nat) : Option Signature := do
  let n := curve.order
  let (x, _) ← curve.coordinates? (curve.multiple curve.base 256 k)
  let r := x % n
  let s := powMod n k 256 (n - 2) * ((digest + r * secret) % n) % n
  if r = 0 ∨ s = 0 then none else some ⟨r, s⟩

/-- The multiple for the `attempt`-th try. -/
def multipleFor (secret : Nat) (digest : List UInt8) (attempt : Nat) : Nat :=
  Der.ofBytes (Digest.sha256 (Der.fixedBytes 32 secret ++ digest ++ Der.fixedBytes 4 attempt))
    % (curve.order - 1) + 1

/-- Signs bytes. -/
def sign (secret : Nat) (bytes : List UInt8) : Signature :=
  let digest := Digest.sha256 bytes
  ((List.range 8).findSome? fun attempt =>
    withMultiple? secret (Der.ofBytes digest) (multipleFor secret digest attempt)).getD ⟨1, 1⟩

/-- Whether a signature of bytes was made under the secret of a public point. -/
def verify (publicBytes bytes : List UInt8) (signature : Signature) : Bool :=
  let n := curve.order
  match curve.pointOf? publicBytes with
  | none => false
  | some (x, y) =>
    if curve.isSecret signature.r && curve.isSecret signature.s then
      let digest := Der.ofBytes (Digest.sha256 bytes)
      let inverse := powMod n signature.s 256 (n - 2)
      let point := curve.add (curve.multiple curve.base 256 (digest * inverse % n))
        (curve.multiple ⟨x, y, 1⟩ 256 (signature.r * inverse % n))
      (curve.coordinates? point).any fun (x, _) => x % n == signature.r
    else false

/-- A signature as a structure of two numbers. -/
def encode (signature : Signature) : List UInt8 :=
  Der.sequence [Der.integer signature.r, Der.integer signature.s]

/-- Reads a structure of two numbers. -/
def decode? (bytes : List UInt8) : Option Signature := do
  let (content, _) ← Der.expect? Der.tagSequence bytes
  let (r, rest) ← Der.expect? Der.tagInteger content
  let (s, _) ← Der.expect? Der.tagInteger rest
  return ⟨← Der.integerOf? r, ← Der.integerOf? s⟩

end Signature

end Interceptor.Certificate
