/-
# Interceptor.Certificate.Parts — certificates taken apart

`Parts.read?` takes a certificate apart, wherever it comes from. What follows
the last part of a structure is passed over, except behind the extensions: they
end what a certificate says. A name is read up to the first part of it that is
malformed.

`Parts.issuingName` is the name that leaves are issued under. It is written
anew, so each of its parts must stand alone, hold a known kind of text, and keep
to the characters of that kind.

`decode?` reads all that a certificate says.
-/
import Interceptor.Certificate.Element
import Interceptor.Certificate.Encoding
import Interceptor.Error

namespace Interceptor.Certificate

set_option autoImplicit false

open Element

/-- What a certificate says besides its fixed fields. -/
structure Extension where
  kind : List UInt8
  content : List UInt8
  deriving DecidableEq, Repr

/-- A certificate taken apart. -/
structure Parts where
  /-- What is signed, with its header. -/
  body : List UInt8
  serial : List UInt8
  /-- Names as the groups that their parts stand in. -/
  issuer : List (List Attribute)
  validity : List Element
  subject : List (List Attribute)
  key : PublicKey
  extensions : List Extension
  signature : List UInt8

namespace Parts

/-! ## Fields -/

/-- A version is a wrapped number of at most 32 bits. -/
def isVersion (wrapped : List UInt8) : Bool :=
  ((read? wrapped).bind fun (element, _) =>
    if element.number = integerNumber && !element.structured then Der.integerOf? element.content else none).any
      (· < 1 <<< 32)

/-- The kind of an algorithm and its parameters, as they stand. -/
def algorithm? (bytes : List UInt8) : Option (List UInt8 × List UInt8) := do
  let (content, rest) ← expect? sequenceNumber bytes
  let (_, parameters) ← oid? content
  let behind ← if parameters.isEmpty then some [] else (read? parameters).map (·.2)
  return (content.take (content.length - behind.length), rest)

/-- One part of a name: its kind and any value. -/
def attribute? (bytes : List UInt8) : Option (Attribute × List UInt8) := do
  let (content, rest) ← expect? sequenceNumber bytes
  let (kind, content) ← oid? content
  let (value, _) ← read? content
  return (⟨kind, UInt8.ofNat value.number, value.content⟩, rest)

/-- A group of parts of a name, at least one. -/
def group? (bytes : List UInt8) : Option (List Attribute × List UInt8) := do
  let (content, rest) ← expect? setNumber bytes
  let (attributes, _) := readMany attribute? content.length content
  if attributes.isEmpty then none else some (attributes, rest)

def name? (bytes : List UInt8) : Option (List (List Attribute) × List UInt8) := do
  let (content, rest) ← expect? sequenceNumber bytes
  return ((readMany group? content.length content).1, rest)

/-- A moment that can be read. -/
def time? (bytes : List UInt8) : Option (Element × List UInt8) := do
  let (element, rest) ← read? bytes
  let isTime := (element.number = utcTimeNumber && Moment.isShortForm element.content) ||
    (element.number = generalizedTimeNumber && Moment.isLongForm element.content)
  if isTime then some (element, rest) else none

def validity? (bytes : List UInt8) : Option (List Element × List UInt8) := do
  let (content, rest) ← expect? sequenceNumber bytes
  let (first, content) ← time? content
  let (last, _) ← time? content
  return ([first, last], rest)

/-- The kind of key that an identifier names. On a certificate the curve alone tells that keys are on it. -/
def keyAlgorithm (identifier : List UInt8) : KeyAlgorithm :=
  let isCurve := ((oid? identifier).bind fun (_, parameters) => oid? parameters).any fun (curve, _) =>
    curve = KeyAlgorithm.p256Curve
  if isCurve then .p256 else .ofIdentifier identifier

def key? (bytes : List UInt8) : Option (PublicKey × List UInt8) := do
  let (content, rest) ← expect? sequenceNumber bytes
  let (identifier, content) ← algorithm? content
  let (bits, _) ← bits? content
  return (⟨keyAlgorithm identifier, bits⟩, rest)

/-- Passes over the identifier of a party, if there is one. -/
def skipIdentifier? (number : Nat) (bytes : List UInt8) : Option (List UInt8) := do
  let (identifier, rest) ← optional? number bytes
  match identifier with
  | none => some rest
  | some content => (bitsOf? content).map fun _ => rest

/-- Passes over a truth value, if there is one. Its length may be written in any way, and any byte is a
truth value. -/
def skipBoolean (bytes : List UInt8) : List UInt8 :=
  match readWith? 0 bytes with
  | some (⟨number, false, [_]⟩, rest) => if number = booleanNumber then rest else bytes
  | _ => bytes

def extension? (bytes : List UInt8) : Option (Extension × List UInt8) := do
  let (content, rest) ← expect? sequenceNumber bytes
  let (kind, content) ← oid? content
  let (value, _) ← expect? octetsNumber (skipBoolean content)
  return (⟨kind, value⟩, rest)

/-- The number of the field with the extensions. -/
def extensionsNumber : Nat := 3

/-- The extensions, which end what a certificate says. The length of the field around them does not
count. -/
def extensions? (bytes : List UInt8) : Option (List Extension) :=
  if bytes.isEmpty then some []
  else do
    let (number, _, rest) ← readTag? bytes
    let (_, field) ← Element.readLength? leastLongLength rest
    let (content, behind) ← expect? sequenceNumber field
    let (extensions, unread) := readMany extension? content.length content
    if number = extensionsNumber && behind.isEmpty && unread.isEmpty then some extensions else none

/-- Takes a certificate apart; what follows it does not count. -/
def read? (bytes : List UInt8) : Option Parts := do
  let (whole, _) ← expect? sequenceNumber bytes
  let (content, rest) ← expect? sequenceNumber whole
  let body := whole.take (whole.length - rest.length)
  let (version, fields) ← optional? 0 content
  if !version.all isVersion then none
  let (serial, fields) ← readWith? 0 fields
  if serial.number ≠ integerNumber then none
  let (_, fields) ← algorithm? fields
  let (issuer, fields) ← name? fields
  let (validity, fields) ← validity? fields
  let (subject, fields) ← name? fields
  let (key, fields) ← key? fields
  let fields ← skipIdentifier? 1 fields
  let fields ← skipIdentifier? 2 fields
  let extensions ← extensions? fields
  let (_, rest) ← algorithm? rest
  let (signature, _) ← bits? rest
  return { body, serial := serial.content, issuer, validity, subject, key, extensions, signature }

/-! ## The issuing name -/

/-- The number of bytes in the longest run of bytes that belong together; all but the last of them
have their highest bit set. -/
def longestRun (current : Nat) : List UInt8 → Nat
  | [] => 0
  | byte :: rest =>
    if byte.toNat < 128 then max (current + 1) (longestRun 0 rest) else longestRun (current + 1) rest

/-- Whether the numbers that make up a kind are small enough to be read: nine bytes at most. The first
byte is a number of its own. -/
def isReadableKind (kind : List UInt8) : Bool := longestRun 0 (kind.drop 1) ≤ 9

/-- Characters of printable text. -/
def isPrintable (c : Char) : Bool := c.isAlphanum || " '()+,-./:=?".toList.contains c

/-- Bytes as numbers of `size` bytes each, if they come out even; `fuel` bounds their number. -/
def units? (size : Nat) : Nat → List UInt8 → Option (List Nat)
  | _, [] => some []
  | 0, _ => none
  | fuel + 1, bytes =>
    if bytes.length < size then none
    else (units? size fuel (bytes.drop size)).map (Der.ofBytes (bytes.take size) :: ·)

/-- Checks a value of a name against the characters of its kind of text. -/
def checkValue (tag : Nat) (content : List UInt8) : Except IssueError Unit :=
  let require (sort : TextSort) (holds : List Char → Bool) : Except IssueError Unit :=
    match String.fromUTF8? (ByteArray.mk content.toArray) with
    | none => .error .certificate
    | some text => if holds text.toList then .ok () else .error (.invalidText sort text)
  let requireUnits (sort : TextSort) (size : Nat) (holds : Nat → Bool) (encoding : String) :=
    if (units? size content.length content).any (·.all holds) then .ok ()
    else .error (IssueError.invalidText sort ("Invalid " ++ encoding ++ " encoding"))
  if tag = utf8Number then require .utf8 fun _ => true
  else if tag = printableNumber then require .printable (·.all isPrintable)
  else if tag = ia5Number then require .ia5 (·.all (·.toNat < 128))
  else if tag = teletexNumber then require .teletex (·.all fun c => 0x20 ≤ c.toNat && c.toNat < 0x80)
  else if tag = bmpNumber then requireUnits .bmp 2 (fun n => n.isValidChar && n < 0xffff) "UTF-16"
  else if tag = universalNumber then requireUnits .universal 4 (fun n => n.isValidChar) "UTF-32"
  else .error .certificate

/-- The name that leaves are issued under. -/
def issuingName (parts : Parts) : Except IssueError DistinguishedName := do
  let attributes ← parts.subject.mapM fun group => do
    let [part] := group | throw .certificate
    if !isReadableKind part.kind then throw .certificate
    checkValue part.tag.toNat part.content
    return part
  return ⟨attributes⟩

/-! ## Extensions -/

/-- The content of the first extension of a kind. -/
def contentOf? (parts : Parts) (kind : List UInt8) : Option (List UInt8) :=
  (parts.extensions.find? (·.kind = kind)).map (·.content)

/-- Whether what the key may be used for is said at most once. -/
def hasClearUsage (parts : Parts) : Bool :=
  parts.extensions.countP (·.kind = ExtensionKind.keyUsage) ≤ 1

/-- The names of the extension for further names. -/
def altNames (parts : Parts) : List AltName :=
  (((parts.contentOf? ExtensionKind.altNames).bind (Der.expect? Der.tagSequence)).bind fun (content, _) =>
    (Der.items? content).map fun items => items.filterMap fun (tag, content) =>
      if tag = 0x82 then (String.fromUTF8? (ByteArray.mk content.toArray)).map .dns
      else if tag = 0x87 ∧ content.length = 4 then some (.ip (.v4 (UInt32.ofNat (Der.ofBytes content))))
      else none).getD []

/-- The uses that bits stand for. -/
def usesOf (bits : List UInt8) : List KeyUsage :=
  let flags := bits.flatMap fun b => (List.range 8).map fun i => b.toNat.testBit (7 - i)
  (KeyUsage.all.zip flags).filterMap fun (use, flag) => if flag then some use else none

def keyUsage (parts : Parts) : Option (List KeyUsage) :=
  ((parts.contentOf? ExtensionKind.keyUsage).bind bits?).map fun (bits, _) => usesOf bits

def extendedUsage (parts : Parts) : List ExtendedUsage :=
  let kinds := (((parts.contentOf? ExtensionKind.extendedUsage).bind (Der.expect? Der.tagSequence)).bind
    fun (content, _) => Der.items? content).getD []
  [ExtendedUsage.clientAuth, .serverAuth].filter fun use => kinds.any fun (_, kind) => kind == use.kind

def constraint (parts : Parts) : Constraint :=
  ((do
    let (content, _) ← Der.expect? Der.tagSequence (← parts.contentOf? ExtensionKind.constraint)
    let (flag, content) ← Der.optional? Der.tagBoolean content
    let (length, _) ← Der.optional? Der.tagInteger content
    return (⟨flag = some [0xff], length.bind Der.integerOf?⟩ : Constraint)) : Option Constraint).getD ⟨false, none⟩

/-- Whether the signature was made under the secret of a key. -/
def isSignedBy (parts : Parts) (key : PublicKey) : Bool :=
  key.algorithm == .p256 &&
    ((Signature.decode? parts.signature).any fun s => Signature.verify key.bits parts.body s)

end Parts

/-- Reads a certificate. Its signature is tried under the given keys. -/
def decode? (bytes : List UInt8) (keys : List PublicKey) : Option Certificate := do
  let parts ← Parts.read? bytes
  let [notBefore, notAfter] := parts.validity | none
  return {
    serial := Der.ofBytes parts.serial
    subject := ⟨parts.subject.flatten⟩
    issuer := ⟨parts.issuer.flatten⟩
    notBefore := ← Moment.decode? (UInt8.ofNat notBefore.number) notBefore.content
    notAfter := ← Moment.decode? (UInt8.ofNat notAfter.number) notAfter.content
    altNames := parts.altNames
    keyUsage := parts.keyUsage
    extendedUsage := parts.extendedUsage
    constraint := parts.constraint
    publicKey := parts.key
    signedBy := (keys.find? parts.isSignedBy).getD ⟨.unknown, []⟩ }

end Interceptor.Certificate
