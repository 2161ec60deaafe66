/-
# Interceptor.Certificate.PrivateKey — private keys in their general form

A private key is a version, the identifier of its algorithm, and a field whose
content depends on the algorithm. For an elliptic curve it holds the secret
number and the public point, which must belong to it; for an Ed25519 key it
holds a seed. Keys of kinds that cannot sign certificates here are told apart
and go no further.
-/
import Interceptor.Certificate
import Interceptor.Certificate.Edwards

namespace Interceptor.Certificate

set_option autoImplicit false

open Der

namespace KeyAlgorithm

/-- The number of the P-256 curve. -/
def p256Curve : List UInt8 := [0x2a, 0x86, 0x48, 0xce, 0x3d, 0x03, 0x01, 0x07]

/-- What identifies keys on the P-256 curve. -/
def p256Identifier : List UInt8 :=
  [0x06, 0x07, 0x2a, 0x86, 0x48, 0xce, 0x3d, 0x02, 0x01, 0x06, 0x08] ++ p256Curve

/-- What identifies keys on the P-384 curve. -/
def p384Identifier : List UInt8 :=
  [0x06, 0x07, 0x2a, 0x86, 0x48, 0xce, 0x3d, 0x02, 0x01, 0x06, 0x05, 0x2b, 0x81, 0x04, 0x00, 0x22]

def ed25519Identifier : List UInt8 := [0x06, 0x03, 0x2b, 0x65, 0x70]

def rsaIdentifier : List UInt8 :=
  [0x06, 0x09, 0x2a, 0x86, 0x48, 0x86, 0xf7, 0x0d, 0x01, 0x01, 0x01, 0x05, 0x00]

/-- The kind of key that an identifier names. -/
def ofIdentifier (identifier : List UInt8) : KeyAlgorithm :=
  if identifier = p256Identifier then .p256
  else if identifier = p384Identifier then .p384
  else if identifier = ed25519Identifier then .ed25519
  else if identifier = rsaIdentifier then .rsa
  else .unknown

end KeyAlgorithm

/-- A private key that was read. -/
inductive PrivateKey
  /-- A key that can sign certificates. -/
  | signing (pair : KeyPair)
  /-- A sound key of another kind. -/
  | other (algorithm : KeyAlgorithm)
  deriving DecidableEq, Repr

/-- The pair of a secret number. -/
def KeyPair.ofSecret (secret : Nat) : KeyPair :=
  ⟨⟨.p256, Curve.p256.publicBytes secret⟩, secret⟩

/-- The pair that a seed determines. -/
def KeyPair.ofSeed (seed : List UInt8) : KeyPair :=
  .ofSecret (ofBytes seed % (Curve.p256.order - 1) + 1)

namespace PrivateKey

/-- The secret number of a curve key, whose public point must stand beside it. -/
def curveSecret? (curve : Curve) (curveId field : List UInt8) : Option Nat := do
  let (content, rest) ← expect? tagSequence field
  let (version, content) ← expect? tagInteger content
  let (secret, content) ← expect? tagOctets content
  let (parameters, content) ← optional? (tagField 0) content
  let (wrapped, content) ← expect? (tagField 1) content
  let (point, inner) ← expect? tagBits wrapped
  let point ← bitsOf? point
  let n := ofBytes secret
  if rest.isEmpty ∧ content.isEmpty ∧ inner.isEmpty ∧ integerOf? version = some 1
      ∧ parameters.all (· = curveId) ∧ secret.length = curve.size ∧ curve.isSecret n = true
      ∧ point = curve.publicBytes n then
    some n
  else none

/-- Whether the numbers of a factored key belong together. -/
def rsaHolds (numbers : List Nat) : Bool :=
  match numbers with
  | [0, n, e, d, p, q, dp, dq, qinv] =>
    let bits := n.log2 + 1
    2048 ≤ bits && bits ≤ 4096 && n == p * q && e % 2 == 1 && 65537 ≤ e && e.log2 < 33
      && d % 2 == 1 && d < n && p % 2 == 1 && q % 2 == 1 && q < p
      && (p.log2 + 1) * 2 == bits && (q.log2 + 1) * 2 == bits && bits % 1024 == 0
      && dp % 2 == 1 && dp < p && dq % 2 == 1 && dq < q && qinv < p && qinv * q % p == 1
      && e * dp % (p - 1) == 1 && e * dq % (q - 1) == 1
  | _ => false

/-- Whether a field holds a sound factored key. -/
def isRsa (field : List UInt8) : Bool :=
  ((expect? tagSequence field).bind fun (content, rest) => do
    let items ← items? content
    let numbers ← items.mapM fun (tag, content) =>
      if tag = tagInteger then integerOf? content else none
    return rest.isEmpty && rsaHolds numbers).getD false

/-- The public half that stands behind the private one: bits under a tag of their own, or wrapped. -/
def publicPart? (content : List UInt8) : Option (List UInt8) := do
  let (bits, rest) ← match content.head? with
    | some 0xa1 => do
      let (wrapped, rest) ← expect? (tagField 1) content
      let (bits, inner) ← expect? tagBits wrapped
      if inner.isEmpty then some (bits, rest) else none
    | _ => expect? tagPublicPart content
  if rest.isEmpty then bitsOf? bits else none

/-- Whether a field holds a seed, with which the public half agrees if there is one. -/
def isSeed (publicPart : Option (List UInt8)) (field : List UInt8) : Bool :=
  ((expect? tagOctets field).map fun (seed, rest) =>
    seed.length = 32 && rest.isEmpty && publicPart.all (· = Edwards.publicBytes seed)).getD false

/-- The key of an algorithm that a field holds. Only a key with a seed may have its public half beside
it. -/
def ofField? (identifier field : List UInt8) (publicPart : Option (List UInt8)) : Option PrivateKey :=
  match publicPart, KeyAlgorithm.ofIdentifier identifier with
  | none, .p256 => do
    return .signing (.ofSecret (← curveSecret? .p256 (identifier.drop 9) field))
  | none, .p384 => do
    discard (curveSecret? .p384 (identifier.drop 9) field)
    return .other .p384
  | none, .rsa => if isRsa field then some (.other .rsa) else none
  | publicPart, .ed25519 => if isSeed publicPart field then some (.other .ed25519) else none
  | _, _ => none

/-- Reads a key in its general form. The second version of the form has the public half at its end. -/
def decode? (bytes : List UInt8) : Option PrivateKey := do
  let (content, rest) ← expect? tagSequence bytes
  let (version, content) ← expect? tagInteger content
  let (identifier, content) ← expect? tagSequence content
  let (field, content) ← expect? tagOctets content
  let (_, content) ← optional? (tagField 0) content
  let publicPart ← match ← integerOf? version with
    | 0 => if content.isEmpty then some none else none
    | 1 => (publicPart? content).map some
    | _ => none
  if rest.isEmpty then ofField? identifier field publicPart else none

/-- Writes the key of a pair. -/
def encode (pair : KeyPair) : List UInt8 :=
  sequence [integer 0, value tagSequence KeyAlgorithm.p256Identifier,
    value tagOctets (sequence [integer 1, value tagOctets (fixedBytes 32 pair.secret),
      value (tagField 1) (bits pair.publicKey.bits)])]

end PrivateKey

end Interceptor.Certificate
