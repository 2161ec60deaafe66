/-
# Interceptor.Certificate.Element — values of certificates from elsewhere

Whoever wrote a certificate need not have kept to the shortest form of
everything. A header is read with a tag of any size and with a length that may
have leading zeros, as long as it says at least 127. What an element is, is
decided by the number of its tag; its class and whether it is structured are
looked at only where it is said.

`readMany` reads elements as long as they are of one kind, and leaves the rest.

* `readWith?_value`, `read?_value`: a value in the shortest form is read as an element.
-/
import Interceptor.Certificate.Der

namespace Interceptor.Certificate

set_option autoImplicit false

/-- A value with its tag. -/
structure Element where
  /-- The number of the tag, without its class. -/
  number : Nat
  /-- Whether it is a structure of other values. -/
  structured : Bool
  content : List UInt8
  deriving DecidableEq, Repr

namespace Element

/-! ## Headers -/

/-- The digits of a tag's number, seven bits each, of which at most `fuel` are read. -/
def readDigits? : Nat → Nat → List UInt8 → Option (Nat × List UInt8)
  | 0, _, _ => none
  | _ + 1, _, [] => none
  | fuel + 1, number, d :: rest =>
    let number := number * 128 + d.toNat % 128
    if d.toNat < 128 then some (number, rest) else readDigits? fuel number rest

/-- The number of a tag, and whether it is that of a structure. -/
def readTag? : List UInt8 → Option (Nat × Bool × List UInt8)
  | [] => none
  | first :: rest =>
    let structured := first.toNat / 32 % 2 = 1
    if first.toNat % 32 = 31 then
      (readDigits? 5 0 rest).map fun (number, rest) => (number, structured, rest)
    else some (first.toNat % 32, structured, rest)

/-- The smallest length that may be written with a count of its bytes. -/
def leastLongLength : Nat := 127

/-- A length, which in the long form must be at least `least`. -/
def readLength? (least : Nat) : List UInt8 → Option (Nat × List UInt8)
  | [] => none
  | first :: rest =>
    if first.toNat < 128 then some (first.toNat, rest)
    else
      let count := first.toNat - 128
      let length := Der.ofBytes (rest.take count)
      if 1 ≤ count ∧ count < 127 ∧ count ≤ rest.length ∧ least ≤ length ∧ length < 1 <<< 64 then
        some (length, rest.drop count)
      else none

/-- The first element, and what follows it. -/
def readWith? (least : Nat) (bytes : List UInt8) : Option (Element × List UInt8) := do
  let (number, structured, rest) ← readTag? bytes
  let (length, rest) ← readLength? least rest
  if length ≤ rest.length then some (⟨number, structured, rest.take length⟩, rest.drop length) else none

/-- The first element, and what follows it. -/
def read? : List UInt8 → Option (Element × List UInt8) := readWith? leastLongLength

/-- The content of the first element, whose tag has a given number, and what follows it. -/
def expect? (number : Nat) (bytes : List UInt8) : Option (List UInt8 × List UInt8) := do
  let (element, rest) ← read? bytes
  if element.number = number then some (element.content, rest) else none

/-- The content of the first element if its tag has a given number; otherwise nothing is read. -/
def optional? (number : Nat) (bytes : List UInt8) : Option (Option (List UInt8) × List UInt8) :=
  if bytes.isEmpty then some (none, bytes)
  else do
    let (element, rest) ← read? bytes
    if element.number = number then some (some element.content, rest) else some (none, bytes)

/-- Reads as many items as there are; `fuel` bounds their number. -/
def readMany {α : Type} (item? : List UInt8 → Option (α × List UInt8)) : Nat → List UInt8 → List α × List UInt8
  | 0, bytes => ([], bytes)
  | fuel + 1, bytes =>
    match item? bytes with
    | none => ([], bytes)
    | some (item, rest) =>
      let (items, rest) := readMany item? fuel rest
      (item :: items, rest)

/-! ## Kinds of element -/

def booleanNumber : Nat := 1
def integerNumber : Nat := 2
def bitsNumber : Nat := 3
def octetsNumber : Nat := 4
def oidNumber : Nat := 6
def utf8Number : Nat := 12
def sequenceNumber : Nat := 16
def setNumber : Nat := 17
def numericNumber : Nat := 18
def printableNumber : Nat := 19
def teletexNumber : Nat := 20
def ia5Number : Nat := 22
def utcTimeNumber : Nat := 23
def generalizedTimeNumber : Nat := 24
def universalNumber : Nat := 28
def bmpNumber : Nat := 30

/-- The number of a kind, of an algorithm for instance. It is not structured. -/
def oid? (bytes : List UInt8) : Option (List UInt8 × List UInt8) := do
  let (element, rest) ← read? bytes
  if element.number = oidNumber && !element.structured then some (element.content, rest) else none

/-- How many zero bits a byte ends in. -/
def trailingZeros (byte : UInt8) : Nat :=
  ((List.range 8).takeWhile fun i => !byte.toNat.testBit i).length

/-- The bytes in the content of bits. The unused bits of the last one are zero. -/
def bitsOf? : List UInt8 → Option (List UInt8)
  | [] => none
  | unused :: bytes =>
    match bytes.getLast? with
    | none => if unused = 0 then some [] else none
    | some last => if unused.toNat ≤ trailingZeros last then some bytes else none

/-- Bits. They are not structured. -/
def bits? (bytes : List UInt8) : Option (List UInt8 × List UInt8) := do
  let (element, rest) ← read? bytes
  if element.number = bitsNumber && !element.structured then return (← bitsOf? element.content, rest)
  else none

/-! ## Reading back -/

section Back

variable {least : Nat} (short : least ≤ 128)

include short

/-- A length that was written in the shortest form is read back. -/
theorem readLength?_lengthBytes (n : Nat) (rest : List UInt8) (h : n < 1 <<< 64) :
    readLength? least (Der.lengthBytes n ++ rest) = some (n, rest) := by
  by_cases hn : n < 128
  · have hm : n % 256 = n := Nat.mod_eq_of_lt (by omega)
    simp [Der.lengthBytes, hn, readLength?, hm]
  · have hlog : n.log2 ≤ 63 := by
      have : n.log2 < 64 := (Nat.log2_lt (by omega)).2 (by simpa using h)
      omega
    have hlen : (Der.natBytes n).length ≤ 8 := by
      have := Der.length_digits_le (n.log2 / 8 + 1) n
      simp only [Der.natBytes]
      omega
    have hpos : 1 ≤ (Der.natBytes n).length :=
      List.length_pos_iff.2 (Der.digits_ne_nil _ _ (by omega))
    have hl : Der.lengthBytes n = UInt8.ofNat (128 + (Der.natBytes n).length) :: Der.natBytes n := by
      simp [Der.lengthBytes, hn]
    have hfirst : (UInt8.ofNat (128 + (Der.natBytes n).length)).toNat = 128 + (Der.natBytes n).length := by
      simp
      omega
    have hc : 128 + (Der.natBytes n).length - 128 = (Der.natBytes n).length := by omega
    rw [hl, List.cons_append, readLength?, hfirst, if_neg (by omega)]
    simp only [hc, List.take_left, List.drop_left, Der.ofBytes_natBytes]
    rw [if_pos ⟨hpos, by omega, by simp, by omega, h⟩]

/-- A value with a short tag is read as an element. -/
theorem readWith?_value (tag : UInt8) (content rest : List UInt8) (ht : tag.toNat % 32 ≠ 31)
    (h : content.length < 1 <<< 64) :
    readWith? least (Der.value tag content ++ rest) =
      some (⟨tag.toNat % 32, decide (tag.toNat / 32 % 2 = 1), content⟩, rest) := by
  simp [readWith?, readTag?, Der.value, ht, List.append_assoc, readLength?_lengthBytes short _ _ h]

end Back

theorem read?_value (tag : UInt8) (content rest : List UInt8) (ht : tag.toNat % 32 ≠ 31)
    (h : content.length < 1 <<< 64) :
    read? (Der.value tag content ++ rest) =
      some (⟨tag.toNat % 32, decide (tag.toNat / 32 % 2 = 1), content⟩, rest) :=
  readWith?_value (by decide) tag content rest ht h

end Element

end Interceptor.Certificate
