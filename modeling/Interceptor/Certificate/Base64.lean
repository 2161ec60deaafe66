/-
# Interceptor.Certificate.Base64 — bytes as printable text

Three bytes are written as four digits of six bits each, first bits first; a
last group of one or two bytes ends in `==` or `=`. Two readers:

* `decode` is exact: every byte of the text counts, the padding must be the one
  `encode` writes and the bits it stands for must be zero. Its faults name the
  offset at which the text goes wrong;
* `decodeLoose` skips blanks between digits, does not look at the bits that
  padding stands for, and does not miss padding that is left out.

Texts are bytes, because what is read may be any file.
-/

namespace Interceptor.Certificate.Base64

set_option autoImplicit false

/-- The padding mark `=`. -/
def pad : UInt8 := 61

/-- The digit for a value below 64. -/
def digit (n : Nat) : UInt8 :=
  if n < 26 then UInt8.ofNat (65 + n)
  else if n < 52 then UInt8.ofNat (71 + n)
  else if n < 62 then UInt8.ofNat (n - 4)
  else if n = 62 then 43
  else 47

/-- The value of a digit. -/
def value? (c : UInt8) : Option Nat :=
  if 65 ≤ c ∧ c ≤ 90 then some (c.toNat - 65)
  else if 97 ≤ c ∧ c ≤ 122 then some (c.toNat - 71)
  else if 48 ≤ c ∧ c ≤ 57 then some (c.toNat + 4)
  else if c = 43 then some 62
  else if c = 47 then some 63
  else none

/-- Four values of six bits in one number. -/
def pack (a b c d : Nat) : Nat := ((a * 64 + b) * 64 + c) * 64 + d

/-- The three bytes of a packed group. -/
def bytesOf (word : Nat) : List UInt8 :=
  [UInt8.ofNat (word / 65536), UInt8.ofNat (word / 256 % 256), UInt8.ofNat (word % 256)]

/-- Writes bytes. -/
def encode : List UInt8 → List UInt8
  | a :: b :: c :: rest =>
    let word := (a.toNat * 256 + b.toNat) * 256 + c.toNat
    digit (word / 262144) :: digit (word / 4096 % 64) :: digit (word / 64 % 64) ::
      digit (word % 64) :: encode rest
  | [a, b] =>
    let word := (a.toNat * 256 + b.toNat) * 256
    [digit (word / 262144), digit (word / 4096 % 64), digit (word / 64 % 64), pad]
  | [a] =>
    let word := a.toNat * 65536
    [digit (word / 262144), digit (word / 4096 % 64), pad, pad]
  | [] => []

/-- Why a text is not an exact encoding. -/
inductive Fault
  | invalidSymbol (symbol : UInt8) (offset : Nat)
  | invalidLength (length : Nat)
  | invalidLastSymbol (symbol : UInt8) (offset : Nat)
  | invalidPadding
  deriving DecidableEq, Repr

/-- A value in eight binary digits. -/
def bits (n : Nat) : String :=
  String.ofList ((List.range 8).reverse.map fun i => if n.testBit i then '1' else '0')

def Fault.message : Fault → String
  | .invalidSymbol symbol offset => "Invalid symbol " ++ toString symbol ++ ", offset " ++ toString offset ++ "."
  | .invalidLength length => "Invalid input length: " ++ toString length
  | .invalidLastSymbol symbol offset =>
    "Invalid last symbol 0x" ++ String.ofList (Nat.toDigits 16 symbol.toNat)
      ++ " ('" ++ (Char.ofNat symbol.toNat).toString ++ "') at offset " ++ toString offset
      ++ ", decoded as 0b" ++ bits ((value? symbol).getD 0) ++ "."
  | .invalidPadding => "Invalid padding"

/-- The value of a digit at an offset. -/
def valueAt (c : UInt8) (offset : Nat) : Except Fault Nat :=
  (value? c).elim (.error (.invalidSymbol c offset)) .ok

/-- The values in front of the padding of a last group, and the number of padding marks. -/
def lastValues (offset index : Nat) (firstPad : Option Nat) : List UInt8 → Except Fault (List Nat × Nat)
  | [] => .ok ([], 0)
  | c :: rest =>
    if c = pad then
      if index < 2 then .error (.invalidSymbol c (offset + index))
      else do
        let (values, pads) ← lastValues offset (index + 1) (firstPad <|> some index) rest
        return (values, pads + 1)
    else
      match firstPad with
      | some first => .error (.invalidSymbol pad (offset + first))
      | none => do
        let v ← valueAt c (offset + index)
        let (values, pads) ← lastValues offset (index + 1) none rest
        return (v :: values, pads)

/-- Reads a last group of at most four symbols. -/
def decodeLast (offset : Nat) (group : List UInt8) : Except Fault (List UInt8) := do
  let (values, pads) ← lastValues offset 0 none group
  if values.length < 2 then throw (.invalidLength (offset + values.length))
  if (values.length + pads) % 4 ≠ 0 then throw .invalidPadding
  let last := offset + values.length - 1
  let symbol := group.getD (values.length - 1) 0
  match values with
  | [a, b, c, d] => return bytesOf (pack a b c d)
  | [a, b, c] =>
    if c % 4 ≠ 0 then throw (.invalidLastSymbol symbol last)
    return (bytesOf (pack a b c 0)).take 2
  | [a, b] =>
    if b % 16 ≠ 0 then throw (.invalidLastSymbol symbol last)
    return (bytesOf (pack a b 0 0)).take 1
  | _ => return []

/-- Reads groups of four digits and a last group. -/
def decodeGroups (offset : Nat) : List UInt8 → Except Fault (List UInt8)
  | a :: b :: c :: d :: e :: rest => do
    let w ← valueAt a offset
    let x ← valueAt b (offset + 1)
    let y ← valueAt c (offset + 2)
    let z ← valueAt d (offset + 3)
    return bytesOf (pack w x y z) ++ (← decodeGroups (offset + 4) (e :: rest))
  | [] => .ok []
  | group => decodeLast offset group

/-- Reads an exact encoding. A lone symbol behind the last full group is looked at first. -/
def decode (text : List UInt8) : Except Fault (List UInt8) :=
  match text.length % 4, text.getLast? with
  | 1, some last =>
    if last ≠ pad ∧ value? last = none then .error (.invalidSymbol last (text.length - 1))
    else decodeGroups 0 text
  | _, _ => decodeGroups 0 text

/-- Why a loose text cannot be read. -/
inductive LooseFault
  | invalidCharacter (symbol : UInt8)
  | prematurePadding
  | invalidTrailingPadding
  deriving DecidableEq, Repr

def LooseFault.message : LooseFault → String
  | .invalidCharacter symbol => "InvalidCharacter(" ++ toString symbol ++ ")"
  | .prematurePadding => "PrematurePadding"
  | .invalidTrailingPadding => "InvalidTrailingPadding"

/-- Whether a byte is a blank: a tab, the end of a line or a page, or a space. -/
def isBlank (c : UInt8) : Bool := (9 ≤ c ∧ c ≤ 13) ∨ c = 32

/-- A symbol that counts: the value of a digit, or none for padding. -/
abbrev Symbol := Option Nat

/-- What a byte that is no blank stands for. -/
def symbol (c : UInt8) : Except LooseFault Symbol :=
  if c = pad then .ok none
  else match value? c with
    | some v => .ok (some v)
    | none => .error (.invalidCharacter c)

/-- The bytes of a last group of at most four symbols. -/
def looseLast : List Symbol → Except LooseFault (List UInt8)
  | [] => .ok []
  | [some a, some b, some c, some d] => .ok (bytesOf (pack a b c d))
  | [some a, some b, some c, none] | [some a, some b, some c] => .ok ((bytesOf (pack a b c 0)).take 2)
  | [some a, some b, none, none] | [some a, some b] => .ok ((bytesOf (pack a b 0 0)).take 1)
  | _ => .error .invalidTrailingPadding

/-- The bytes of four symbols without padding, and those of what follows. -/
def looseGroup (group : List Symbol) (others : Except LooseFault (List UInt8)) :
    Except LooseFault (List UInt8) :=
  match group with
  | [some a, some b, some c, some d] => do return bytesOf (pack a b c d) ++ (← others)
  | _ => .error .prematurePadding

/-- Reads a text behind at most eight symbols, which are looked at when the next one shows that they
are not the last, or at the end. -/
def looseFrom (seen : List Symbol) : List UInt8 → Except LooseFault (List UInt8)
  | [] => if seen.length ≤ 4 then looseLast seen else looseGroup (seen.take 4) (looseLast (seen.drop 4))
  | c :: rest =>
    if isBlank c then looseFrom seen rest
    else do
      let next ← symbol c
      if seen.length < 8 then looseFrom (seen ++ [next]) rest
      else if none ∈ seen then .error .prematurePadding
      else looseGroup (seen.take 4) (looseGroup (seen.drop 4) (looseFrom [next] rest))

/-- Reads a text that may hold blanks. -/
def decodeLoose (text : List UInt8) : Except LooseFault (List UInt8) := looseFrom [] text

end Interceptor.Certificate.Base64
