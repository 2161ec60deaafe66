/-
# Interceptor.Certificate.Pem — sections of armoured text

A section is base64 between a `BEGIN` and an `END` line that carry one label.
Certificates and keys are read by different rules:

* `firstCertificate?` goes through a file line by line, skips text between
  sections and sections of other kinds, and reads base64 that may hold blanks.
  A section of a known kind must be readable even when it is skipped;
* `firstBlock` wants one section at once. It looks for the marks anywhere in
  the text, skips headers in front of an empty line, and takes base64 exactly
  but for blanks. The label may be any.

A mark of `firstBlock` is looked for from the left, and a byte at which a mark
turns out to be another text is not looked at again as the beginning of one. So
one dash too many in front of `-----END ` hides it.

`section` writes what both read.
-/
import Interceptor.Certificate.Base64
import Interceptor.Text.Blank
import Interceptor.Text.Split
import Interceptor.Text.Quoted

namespace Interceptor.Certificate.Pem

set_option autoImplicit false

open Text

/-- The bytes of a text. -/
def bytes (text : String) : List UInt8 := text.toUTF8.toList

/-- The text of bytes; those that are no text count as none. -/
def text (bytes : List UInt8) : String := (String.fromUTF8? (ByteArray.mk bytes.toArray)).getD ""

def beginMark : List UInt8 := bytes "-----BEGIN "
def endMark : List UInt8 := bytes "-----END "
def dashes : List UInt8 := bytes "-----"

/-- The lines of a text, each with the line feed or carriage return that ends it. -/
def lines : List UInt8 → List (List UInt8)
  | [] => []
  | c :: rest =>
    if c = 10 ∨ c = 13 then [c] :: lines rest
    else match lines rest with
      | line :: others => (c :: line) :: others
      | [] => [[c]]

/-- Why a file of sections cannot be read. -/
inductive SectionFault
  | illegalStart (line : List UInt8)
  | missingEnd (label : List UInt8)
  | base64 (fault : Base64.LooseFault)
  deriving DecidableEq, Repr

def SectionFault.message : SectionFault → String
  | .illegalStart line => "illegal section start: " ++ Quoted.quote (text line)
  | .missingEnd label => "section end " ++ Quoted.quote (text label) ++ " missing"
  | .base64 fault => fault.message

/-- Drops bytes through the `n`-th dash. -/
def dropDashes : Nat → List UInt8 → List UInt8
  | 0, cs => cs
  | _ + 1, [] => []
  | n + 1, c :: cs => if c = 45 then dropDashes n cs else dropDashes (n + 1) cs

/-- The label of a `BEGIN` line: what stands in front of exactly five dashes at its end. -/
def beginLabel? (line : List UInt8) : Option (List UInt8) :=
  let back := line.reverse.filter fun c => c ≠ 10 ∧ c ≠ 13 ∧ c ≠ 32
  if (back.takeWhile (· = 45)).length = 5 then
    some ((dropDashes 5 line.reverse).reverse.drop beginMark.length)
  else none

/-- Whether a line ends the section with this label. -/
def endsSection (label line : List UInt8) : Bool :=
  (endMark ++ label ++ dashes).isPrefixOf line

/-- The label of certificates. -/
def certificateLabel : String := "CERTIFICATE"

/-- The label of private keys in their general form. -/
def keyLabel : String := "PRIVATE KEY"

/-- The labels of sections whose content is known. -/
def knownLabels : List (List UInt8) :=
  [certificateLabel, "PUBLIC KEY", "RSA PRIVATE KEY", keyLabel, "EC PRIVATE KEY", "X509 CRL",
   "CERTIFICATE REQUEST", "ECHCONFIG"].map bytes

/-- Goes through lines, inside the section with the label `inside?` or outside of any. -/
def scan (inside? : Option (List UInt8)) (body : List UInt8) :
    List (List UInt8) → Except SectionFault (Option (List UInt8))
  | [] => inside?.elim (.ok none) fun label => .error (.missingEnd label)
  | line :: rest =>
    if beginMark.isPrefixOf line then
      match beginLabel? line with
      | some label => scan (some label) body rest
      | none => .error (.illegalStart line)
    else match inside? with
      | none => scan none body rest
      | some label =>
        if endsSection label line then
          if label ∈ knownLabels then
            match Base64.decodeLoose body with
            | .error fault => .error (.base64 fault)
            | .ok content => if label = bytes certificateLabel then .ok (some content) else scan none [] rest
          else scan none [] rest
        else scan (some label) (body ++ line) rest

/-- The content of the first certificate of a file. -/
def firstCertificate? (file : List UInt8) : Except SectionFault (Option (List UInt8)) :=
  scan none [] (lines file)

/-- Why a text holds no block. -/
inductive BlockFault
  | malformedFraming
  | missingBegin
  | missingEnd
  | mismatched (begin_ end_ : List UInt8)
  | invalidData (fault : Base64.Fault)
  | invalidHeader (line : List UInt8)
  deriving DecidableEq, Repr

def BlockFault.message : BlockFault → String
  | .malformedFraming => "malformedframing"
  | .missingBegin => "missing BEGIN tag"
  | .missingEnd => "missing END tag"
  | .mismatched begin_ end_ =>
    "mismatching BEGIN (\"" ++ text begin_ ++ "\") and END (\"" ++ text end_ ++ "\") tags"
  | .invalidData fault => "invalid data: " ++ fault.message
  | .invalidHeader line => "invalid header: " ++ text line

/-- What stands in front of a mark, in reverse behind `before`, and what stands behind the mark, of
which `found` has been seen. -/
def readUntil (mark : List UInt8) (before found : List UInt8) : List UInt8 → Option (List UInt8 × List UInt8)
  | [] => none
  | c :: rest =>
    let next := c :: found
    if next.reverse = mark then some (before.reverse, rest)
    else if next.reverse.isPrefixOf mark then readUntil mark before next rest
    else readUntil mark (next ++ before) [] rest

/-- The parts in front of a mark and behind it. -/
def cut? (mark text : List UInt8) : Option (List UInt8 × List UInt8) := readUntil mark [] [] text

/-- A text without the blanks in front of it. -/
def skipBlanks (cs : List UInt8) : List UInt8 := cs.dropWhile fun c => c = 9 ∨ c = 10 ∨ c = 13 ∨ c = 32

/-- The marks of a block and what stands between them. -/
def frame? (file : List UInt8) : Option (List UInt8 × List UInt8 × List UInt8) := do
  let (_, rest) ← cut? beginMark file
  let (start, rest) ← cut? dashes rest
  let (body, rest) ← cut? endMark (skipBlanks rest)
  let (stop, _) ← cut? dashes rest
  return (start, body, stop)

/-- The headers in front of an empty line, and what follows it. -/
def splitHeaders (body : List UInt8) : List UInt8 × List UInt8 :=
  (cut? [10, 10] body <|> cut? [13, 10, 13, 10] body).getD ([], body)

/-- A text without its blanks. -/
def withoutBlanks (data : List UInt8) : List UInt8 :=
  bytes (String.ofList ((text data).toList.filter (!Text.isBlank ·)))

/-- A line without the blanks at its end. -/
def trimEnd (line : List UInt8) : List UInt8 :=
  bytes (String.ofList ((text line).toList.reverse.dropWhile Text.isBlank).reverse)

/-- The content of the first block of a text. -/
def firstBlock (file : List UInt8) : Except BlockFault (List UInt8) := do
  let some (start, body, stop) := frame? file | throw .malformedFraming
  if start.isEmpty then throw .missingBegin
  if stop.isEmpty then throw .missingEnd
  if start ≠ stop then throw (.mismatched start stop)
  let (headers, data) := splitHeaders body
  let content ← (Base64.decode (withoutBlanks data)).mapError .invalidData
  if let some line := (splitAll 10 headers).find? (fun line => !line.isEmpty && !line.contains 58) then
    throw (.invalidHeader (trimEnd line))
  return content

/-- Cuts bytes into lines of `width`; `fuel` bounds the number of lines. -/
def wrap (width : Nat) : Nat → List UInt8 → List UInt8
  | 0, _ => []
  | fuel + 1, cs =>
    if cs.isEmpty then [] else cs.take width ++ 10 :: wrap width fuel (cs.drop width)

/-- A section with lines of 64 symbols. -/
def armour (label : String) (content : List UInt8) : List UInt8 :=
  let body := Base64.encode content
  beginMark ++ bytes label ++ dashes ++ 10 :: wrap 64 body.length body
    ++ endMark ++ bytes label ++ dashes ++ [10]

end Interceptor.Certificate.Pem
