/-
# Interceptor.Certificate.Encoding — certificates as bytes

A certificate is three values: what it says, the identifier of the algorithm it
is signed with, and the signature of the first. What it says is a version, a
serial number, the issuer's name, two moments, the subject's name, the subject's
key, and extensions.

`encode` writes a certificate signed under a secret number.
-/
import Interceptor.Certificate.Moment
import Interceptor.Certificate.PrivateKey
import Interceptor.Certificate.Signature

namespace Interceptor.Certificate

set_option autoImplicit false

open Der Net

/-- What identifies the signatures that certificates are made with. -/
def signatureIdentifier : List UInt8 := [0x06, 0x08, 0x2a, 0x86, 0x48, 0xce, 0x3d, 0x04, 0x03, 0x02]

namespace DistinguishedName

def encode (name : DistinguishedName) : List UInt8 :=
  sequence (name.attributes.map fun a =>
    value tagSet (sequence [value tagOid a.kind, value a.tag a.content]))

end DistinguishedName

namespace PublicKey

/-- The identifier of a key's algorithm. -/
def identifier (key : PublicKey) : List UInt8 :=
  match key.algorithm with
  | .p256 => KeyAlgorithm.p256Identifier
  | .p384 => KeyAlgorithm.p384Identifier
  | .ed25519 => KeyAlgorithm.ed25519Identifier
  | .rsa => KeyAlgorithm.rsaIdentifier
  | .unknown => []

def encode (key : PublicKey) : List UInt8 :=
  sequence [value tagSequence key.identifier, Der.bits key.bits]

end PublicKey

/-- An extension: its kind, whether a reader must understand it, and its content. -/
def encodeExtension (kind : List UInt8) (critical : Bool) (content : List UInt8) : List UInt8 :=
  sequence ([value tagOid kind] ++ (if critical then [value tagBoolean [0xff]] else [])
    ++ [value tagOctets content])

namespace ExtensionKind

def altNames : List UInt8 := [0x55, 0x1d, 0x11]
def keyUsage : List UInt8 := [0x55, 0x1d, 0x0f]
def extendedUsage : List UInt8 := [0x55, 0x1d, 0x25]
def constraint : List UInt8 := [0x55, 0x1d, 0x13]

end ExtensionKind

def encodeAltName : AltName → List UInt8
  | .dns name => value 0x82 name.toUTF8.toList
  | .ip address => value 0x87 address.toBytes

/-- The key uses as bits, the first one highest, without zero bits at the end. -/
def usageBits (uses : List KeyUsage) : List UInt8 :=
  let flags := KeyUsage.all.map fun use => uses.contains use
  let word : Nat := flags.foldl (fun n b => n * 2 + b.toNat) 0
  let trailing := (flags.reverse.takeWhile (! ·)).length
  if word = 0 then [0]
  else if word % 2 = 1 then [7, UInt8.ofNat (word / 2), 0x80]
  else [UInt8.ofNat (trailing - 1), UInt8.ofNat (word / 2)]

def ExtendedUsage.kind : ExtendedUsage → List UInt8
  | .serverAuth => [0x2b, 0x06, 0x01, 0x05, 0x05, 0x07, 0x03, 0x01]
  | .clientAuth => [0x2b, 0x06, 0x01, 0x05, 0x05, 0x07, 0x03, 0x02]

def encodeConstraint (c : Constraint) : List UInt8 :=
  sequence ((if c.isCa then [value tagBoolean [0xff]] else []) ++ (c.pathLength.map integer).toList)

/-- The extensions of a certificate. -/
def encodeExtensions (c : Certificate) : List UInt8 :=
  sequence (
    (if c.altNames.isEmpty then []
      else [encodeExtension ExtensionKind.altNames false (sequence (c.altNames.map encodeAltName))])
    ++ (c.keyUsage.map fun uses =>
      encodeExtension ExtensionKind.keyUsage true (value tagBits (usageBits uses))).toList
    ++ (if c.extendedUsage.isEmpty then []
      else [encodeExtension ExtensionKind.extendedUsage false
        (sequence (c.extendedUsage.map fun u => value tagOid u.kind))])
    ++ [encodeExtension ExtensionKind.constraint true (encodeConstraint c.constraint)])

/-- What a certificate says. -/
def encodeBody (c : Certificate) : List UInt8 :=
  sequence [value (tagField 0) (integer 2), integer c.serial,
    value tagSequence signatureIdentifier, c.issuer.encode,
    sequence [Moment.encode c.notBefore, Moment.encode c.notAfter], c.subject.encode,
    c.publicKey.encode, value (tagField 3) (encodeExtensions c)]

/-- A certificate with its signature under a secret number. -/
def encode (c : Certificate) (secret : Nat) : List UInt8 :=
  let body := encodeBody c
  sequence [body, value tagSequence signatureIdentifier, Der.bits (Signature.sign secret body).encode]

end Interceptor.Certificate
