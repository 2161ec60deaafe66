/-
# Interceptor.Certificate — certificates and keys

A certificate is kept as what it says: whose it is, who issued it, from when
until when it holds, which names it is for, what its key may be used for, the
key itself, and the key its signature verifies under. Moments are seconds since
1970. The calendar ends with the year 9999.
-/
import Interceptor.Net.Address

namespace Interceptor

set_option autoImplicit false

open Net

namespace Certificate

/-- The kinds of key a root may have. Leaves are always signed with P-256. -/
inductive KeyAlgorithm
  | p256
  | p384
  | ed25519
  | rsa
  | unknown
  deriving DecidableEq, Repr

/-- A public key: its kind, and its bits as they stand in a certificate. -/
structure PublicKey where
  algorithm : KeyAlgorithm
  bits : List UInt8
  deriving DecidableEq, Repr

/-- A private key with its public half. -/
structure KeyPair where
  publicKey : PublicKey
  /-- The private number. -/
  secret : Nat
  deriving DecidableEq, Repr

/-- A name a certificate is for. -/
inductive AltName
  | dns (name : String)
  | ip (address : IpAddr)
  deriving DecidableEq, Repr

/-- What a key may be used for. -/
inductive KeyUsage
  | digitalSignature
  | nonRepudiation
  | keyEncipherment
  | dataEncipherment
  | keyAgreement
  | keyCertSign
  | crlSign
  | encipherOnly
  | decipherOnly
  deriving DecidableEq, Repr

namespace KeyUsage

/-- The uses in the order of their bits. -/
def all : List KeyUsage :=
  [.digitalSignature, .nonRepudiation, .keyEncipherment, .dataEncipherment, .keyAgreement,
   .keyCertSign, .crlSign, .encipherOnly, .decipherOnly]

def text : KeyUsage → String
  | .digitalSignature => "Digital Signature"
  | .nonRepudiation => "Non Repudiation"
  | .keyEncipherment => "Key Encipherment"
  | .dataEncipherment => "Data Encipherment"
  | .keyAgreement => "Key Agreement"
  | .keyCertSign => "Key Cert Sign"
  | .crlSign => "CRL Sign"
  | .encipherOnly => "Encipher Only"
  | .decipherOnly => "Decipher Only"

end KeyUsage

/-- Which side of a connection a certificate may stand for. -/
inductive ExtendedUsage
  | clientAuth
  | serverAuth
  deriving DecidableEq, Repr

def ExtendedUsage.text : ExtendedUsage → String
  | .clientAuth => "client_auth"
  | .serverAuth => "server_auth"

/-- Whether a certificate may sign others, and how long a chain below it may be. -/
structure Constraint where
  isCa : Bool
  pathLength : Option Nat
  deriving DecidableEq, Repr

/-- One part of a name: its kind, the sort of text it is, and the text. -/
structure Attribute where
  kind : List UInt8
  tag : UInt8
  content : List UInt8
  deriving DecidableEq, Repr

/-- Whom a certificate is for, or who issued it. -/
structure DistinguishedName where
  attributes : List Attribute
  deriving DecidableEq, Repr

namespace DistinguishedName

/-- The kind of an organization's name. -/
def organizationKind : List UInt8 := [0x55, 0x04, 0x0a]

/-- The kind of a common name. -/
def commonNameKind : List UInt8 := [0x55, 0x04, 0x03]

/-- The tag of UTF-8 text. -/
def textTag : UInt8 := 0x0c

/-- A name with an organization and a common name. -/
def ofNames (organization commonName : String) : DistinguishedName :=
  ⟨[⟨organizationKind, textTag, organization.toUTF8.toList⟩,
    ⟨commonNameKind, textTag, commonName.toUTF8.toList⟩]⟩

/-- The tags of values that are read as text: UTF-8, numeric, printable and ASCII text. -/
def readableTags : List UInt8 := [textTag, 0x12, 0x13, 0x16]

/-- The text of the first part of a kind, if its value is one. -/
def text? (name : DistinguishedName) (kind : List UInt8) : Option String :=
  (name.attributes.find? (·.kind = kind)).bind fun part =>
    if part.tag ∈ readableTags then String.fromUTF8? (ByteArray.mk part.content.toArray) else none

/-- The numbers that make up a kind, each in the shortest form. All bytes of a number but the last have
their highest bit set, and the last number ends where the bytes end. `started` says that a number has
begun, of which `read` is there without its leading zeros. -/
def shortestNumbers (started : Bool) (read : List UInt8) : List UInt8 → List UInt8
  | [] =>
    if started then
      match read.getLast? with
      | some last => read.dropLast ++ [last - 0x80]
      | none => [0]
    else []
  | byte :: rest =>
    if byte < 0x80 then read ++ byte :: shortestNumbers false [] rest
    else if read.isEmpty && byte = 0x80 then shortestNumbers true [] rest
    else shortestNumbers true (read ++ [byte]) rest

/-- A kind in the shortest form. Its first byte is a number of its own. -/
def shortestKind (kind : List UInt8) : List UInt8 := kind.take 1 ++ shortestNumbers false [] (kind.drop 1)

/-- The name as it is written anew: one part of each kind, at its first place, with its last value. -/
def merged (name : DistinguishedName) : DistinguishedName :=
  let shortest := name.attributes.map fun part => { part with kind := shortestKind part.kind }
  ⟨shortest.foldl (fun parts part =>
    if parts.any (·.kind = part.kind) then parts.map fun p => if p.kind = part.kind then part else p
    else parts ++ [part]) []⟩

/-- Whether a kind can be written: it has two numbers, and the first of them is less than three. -/
def isWritableKind (kind : List UInt8) : Bool := kind ≠ [0] && kind.head?.any (· < 120)

/-- Whether all kinds of a name can be written. -/
def isWritable (name : DistinguishedName) : Bool := name.attributes.all (isWritableKind ·.kind)

def organization? (name : DistinguishedName) : Option String := name.text? organizationKind

def commonName? (name : DistinguishedName) : Option String := name.text? commonNameKind

end DistinguishedName

end Certificate

open Certificate

/-- What a certificate says. -/
structure Certificate where
  serial : Nat
  subject : DistinguishedName
  issuer : DistinguishedName
  notBefore : Int
  notAfter : Int
  altNames : List AltName
  keyUsage : Option (List KeyUsage)
  extendedUsage : List ExtendedUsage
  constraint : Constraint
  publicKey : PublicKey
  /-- The key the signature verifies under. -/
  signedBy : PublicKey
  deriving DecidableEq, Repr

namespace Certificate

/-- The organization that certificates are made out to. -/
def organizationName : String := "Rift"

/-- Seconds of a day. -/
def daySeconds : Nat := 86400

/-- The last second of the year 9999. -/
def lastMoment : Nat := 253402300799

/-- The moment some days after `now`, if the calendar reaches that far. -/
def daysAfter? (now : Nat) (days : Nat) : Option Nat :=
  if now + daySeconds * days ≤ lastMoment then some (now + daySeconds * days) else none

/-- A new self-signed root, valid from thirty days ago. -/
def selfSigned? (commonName : String) (years : Nat) (now serial : Nat) (key : KeyPair) :
    Option Certificate := do
  let notAfter ← daysAfter? now (365 * max years 1)
  let name := DistinguishedName.ofNames organizationName commonName
  return {
    serial
    subject := name
    issuer := name
    notBefore := (now : Int) - 30 * daySeconds
    notAfter
    altNames := []
    keyUsage := some [.digitalSignature, .keyCertSign, .crlSign]
    extendedUsage := []
    constraint := ⟨true, some 2⟩
    publicKey := key.publicKey
    signedBy := key.publicKey }

end Certificate

end Interceptor
