/-
# Interceptor.Certificate.Der — values with a tag and a length

A value is a tag byte, the length of its content and the content; structured
values hold others one after another. Lengths below 128 take one byte; longer
ones are preceded by the number of their bytes and never begin with a zero
byte. `value` writes and `read?` reads back, with whatever follows:

* `read?_value`: a value in front of any bytes is read as itself, and the bytes
  are left over.
-/

namespace Interceptor.Certificate.Der

set_option autoImplicit false

/-- The digits of a number in base 256, most significant first; none for zero. -/
def digits : Nat → Nat → List UInt8
  | 0, _ => []
  | fuel + 1, n => if n = 0 then [] else digits fuel (n / 256) ++ [UInt8.ofNat (n % 256)]

/-- A number as bytes without leading zeros. -/
def natBytes (n : Nat) : List UInt8 := digits (n.log2 / 8 + 1) n

/-- The number that bytes write in base 256. -/
def ofBytes (bytes : List UInt8) : Nat := bytes.foldl (fun n b => n * 256 + b.toNat) 0

/-- A number as exactly `size` bytes. -/
def fixedBytes : Nat → Nat → List UInt8
  | 0, _ => []
  | size + 1, n => fixedBytes size (n / 256) ++ [UInt8.ofNat (n % 256)]

/-- Lengths have at most four bytes. -/
def lengthBound : Nat := 0x100000000

/-- The bytes that say a length. -/
def lengthBytes (n : Nat) : List UInt8 :=
  if n < 128 then [UInt8.ofNat n]
  else
    let bytes := natBytes n
    UInt8.ofNat (128 + bytes.length) :: bytes

/-- A value with its tag and length. -/
def value (tag : UInt8) (content : List UInt8) : List UInt8 :=
  tag :: lengthBytes content.length ++ content

/-- A length in front of other bytes. Lengths of more than four bytes are not read. -/
def readLength? : List UInt8 → Option (Nat × List UInt8)
  | [] => none
  | first :: rest =>
    if first.toNat < 128 then some (first.toNat, rest)
    else
      let count := first.toNat - 128
      let n := ofBytes (rest.take count)
      if 1 ≤ count ∧ count ≤ 4 ∧ count ≤ rest.length ∧ lengthBytes n = first :: rest.take count then
        some (n, rest.drop count)
      else none

/-- The tag and the content of the first value, and what follows it. -/
def read? : List UInt8 → Option (UInt8 × List UInt8 × List UInt8)
  | [] => none
  | tag :: rest => do
    let (n, rest) ← readLength? rest
    if n ≤ rest.length then some (tag, rest.take n, rest.drop n) else none

/-- The content of the first value, which must have the given tag, and what follows it. -/
def expect? (tag : UInt8) (bytes : List UInt8) : Option (List UInt8 × List UInt8) := do
  let (found, content, rest) ← read? bytes
  if found = tag then some (content, rest) else none

/-- The content of the first value if it has the given tag; otherwise nothing is read. -/
def optional? (tag : UInt8) (bytes : List UInt8) : Option (Option (List UInt8) × List UInt8) :=
  if bytes.head? = some tag then (expect? tag bytes).map fun (content, rest) => (some content, rest)
  else some (none, bytes)

/-- All values that stand one after another; `fuel` bounds their number. -/
def readAll? : Nat → List UInt8 → Option (List (UInt8 × List UInt8))
  | _, [] => some []
  | 0, _ => none
  | fuel + 1, bytes => do
    let (tag, content, rest) ← read? bytes
    return (tag, content) :: (← readAll? fuel rest)

/-- The values inside a structured one. -/
def items? (content : List UInt8) : Option (List (UInt8 × List UInt8)) :=
  readAll? content.length content

/-! ## Kinds of value -/

def tagBoolean : UInt8 := 0x01
def tagInteger : UInt8 := 0x02
def tagBits : UInt8 := 0x03
def tagOctets : UInt8 := 0x04
def tagOid : UInt8 := 0x06
def tagUtf8 : UInt8 := 0x0c
def tagPrintable : UInt8 := 0x13
def tagTeletex : UInt8 := 0x14
def tagIa5 : UInt8 := 0x16
def tagUtcTime : UInt8 := 0x17
def tagGeneralizedTime : UInt8 := 0x18
def tagUniversal : UInt8 := 0x1c
def tagBmp : UInt8 := 0x1e
def tagSequence : UInt8 := 0x30
def tagSet : UInt8 := 0x31

/-- The tag of the `n`-th field of a structure, when it wraps another value. -/
def tagField (n : UInt8) : UInt8 := 0xa0 + n

/-- The tag of bits that are the public half of a private key. -/
def tagPublicPart : UInt8 := 0x81

def sequence (parts : List (List UInt8)) : List UInt8 := value tagSequence parts.flatten

/-- The content of a number that is not negative: a zero byte keeps its sign bit clear. -/
def integerContent (n : Nat) : List UInt8 :=
  let bytes := natBytes n
  if (bytes.headD 128).toNat < 128 then bytes else 0 :: bytes

def integer (n : Nat) : List UInt8 := value tagInteger (integerContent n)

/-- The number in an integer's content; negative ones and padded ones are refused. -/
def integerOf? (content : List UInt8) : Option Nat :=
  if integerContent (ofBytes content) = content then some (ofBytes content) else none

/-- Bits that fill whole bytes. -/
def bits (content : List UInt8) : List UInt8 := value tagBits (0 :: content)

/-- The bytes of a bit string without unused bits. -/
def bitsOf? : List UInt8 → Option (List UInt8)
  | 0 :: bytes => some bytes
  | _ => none

/-! ## Reading back -/

theorem ofBytes_append (xs : List UInt8) (b : UInt8) : ofBytes (xs ++ [b]) = ofBytes xs * 256 + b.toNat := by
  simp [ofBytes]

theorem ofBytes_digits (fuel n : Nat) (h : n < Nat.pow 256 fuel) : ofBytes (digits fuel n) = n := by
  induction fuel generalizing n with
  | zero => simp at h; simp [digits, ofBytes, h]
  | succ fuel ih =>
    unfold digits
    split
    · simp_all [ofBytes]
    · have hd : n / 256 < Nat.pow 256 fuel := by
        rw [Nat.div_lt_iff_lt_mul (by decide)]
        simpa [Nat.pow_succ] using h
      rw [ofBytes_append, ih _ hd]
      simp
      omega

theorem lt_pow_natBytes (n : Nat) : n < Nat.pow 256 (n.log2 / 8 + 1) := by
  have hle : n.log2 + 1 ≤ 8 * (n.log2 / 8 + 1) := by omega
  have hpow := Nat.pow_le_pow_right (show 0 < 2 by decide) hle
  exact Nat.lt_of_lt_of_le Nat.lt_log2_self (Nat.le_trans hpow (Nat.le_of_eq (Nat.pow_mul 2 8 _)))

@[simp] theorem ofBytes_natBytes (n : Nat) : ofBytes (natBytes n) = n :=
  ofBytes_digits _ _ (lt_pow_natBytes n)

theorem length_digits_le (fuel n : Nat) : (digits fuel n).length ≤ fuel := by
  induction fuel generalizing n with
  | zero => simp [digits]
  | succ fuel ih =>
    unfold digits
    split
    · simp
    · have := ih (n / 256)
      simp
      omega

theorem digits_ne_nil (fuel n : Nat) (h : n ≠ 0) : digits (fuel + 1) n ≠ [] := by
  simp [digits, h]

/-- A length in bounds is read back. -/
theorem readLength?_lengthBytes (n : Nat) (rest : List UInt8) (h : n < lengthBound) :
    readLength? (lengthBytes n ++ rest) = some (n, rest) := by
  by_cases hn : n < 128
  · have hm : n % 256 = n := Nat.mod_eq_of_lt (by omega)
    simp [lengthBytes, hn, readLength?, hm]
  · have hlog : n.log2 ≤ 31 := by
      have : n.log2 < 32 := (Nat.log2_lt (by omega)).2 (by simpa [lengthBound] using h)
      omega
    have hlen : (natBytes n).length ≤ 4 := by
      have := length_digits_le (n.log2 / 8 + 1) n
      simp only [natBytes]
      omega
    have hpos : 1 ≤ (natBytes n).length :=
      List.length_pos_iff.2 (digits_ne_nil _ _ (by omega))
    have hl : lengthBytes n = UInt8.ofNat (128 + (natBytes n).length) :: natBytes n := by
      simp [lengthBytes, hn]
    have hfirst : (UInt8.ofNat (128 + (natBytes n).length)).toNat = 128 + (natBytes n).length := by
      simp
      omega
    rw [hl, List.cons_append, readLength?, hfirst, if_neg (by omega)]
    have hc : 128 + (natBytes n).length - 128 = (natBytes n).length := by omega
    simp only [hc, List.take_left, List.drop_left, ofBytes_natBytes]
    rw [if_pos ⟨hpos, hlen, by simp, hl⟩]

/-- A value in front of any bytes is read as itself. -/
theorem read?_value (tag : UInt8) (content rest : List UInt8) (h : content.length < lengthBound) :
    read? (value tag content ++ rest) = some (tag, content, rest) := by
  simp [value, read?, List.append_assoc, readLength?_lengthBytes _ _ h]

theorem expect?_value (tag : UInt8) (content rest : List UInt8) (h : content.length < lengthBound) :
    expect? tag (value tag content ++ rest) = some (content, rest) := by
  simp [expect?, read?_value _ _ _ h]

@[simp] theorem integerOf?_integerContent (n : Nat) : integerOf? (integerContent n) = some n := by
  have h : ofBytes (integerContent n) = n := by
    simp only [integerContent]
    split
    · exact ofBytes_natBytes n
    · have : ofBytes (0 :: natBytes n) = ofBytes (natBytes n) := by simp [ofBytes]
      rw [this, ofBytes_natBytes]
  simp [integerOf?, h]

end Interceptor.Certificate.Der
