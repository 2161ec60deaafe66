/-
# Interceptor.Yaml.Plain — what plain text means

A plain scalar is null, a truth value, a whole number, a fraction or, if it is
none of these, a text. Whole numbers are decimal, hexadecimal (`0x`), octal
(`0o`) or binary (`0b`); digits behind a leading zero are a text. Whole numbers
are kept up to 128 bits, and larger ones are fractions.
-/
import Interceptor.Text.Decimal
import Interceptor.Net.AddressReader

namespace Interceptor.Yaml

set_option autoImplicit false

open Interceptor.Text (Binary)

/-- A number that may have decimals. -/
inductive Fraction
  | finite (negative : Bool) (value : Binary)
  | infinite (negative : Bool)
  | notANumber
  deriving DecidableEq, Repr

def Fraction.render : Fraction → String
  | .finite negative value => (if negative then "-" else "") ++ value.render
  | .infinite negative => if negative then "-inf" else "inf"
  | .notANumber => "NaN"

/-- What plain text means. -/
inductive Plain
  | null
  | boolean (value : Bool)
  | integer (value : Int)
  | fraction (value : Fraction)
  | text (value : String)
  deriving DecidableEq, Repr

namespace Plain

def isNull (text : String) : Bool := text ∈ ["~", "null", "Null", "NULL"]

def boolean? (text : String) : Option Bool :=
  if text ∈ ["true", "True", "TRUE"] then some true
  else if text ∈ ["false", "False", "FALSE"] then some false
  else none

/-- The number that some digits write. -/
def digits? (base : Nat) (cs : List Char) : Option Nat :=
  if cs.isEmpty then none
  else cs.foldlM (fun n c => (Net.AddressReader.digitIn? base c).map (n * base + ·)) 0

/-- The digits without a sign in front of them. -/
def withoutSign : List Char → List Char
  | '+' :: rest | '-' :: rest => rest
  | cs => cs

/-- Whether there are only digits, more than one, and the first is a zero. -/
def hasLeadingZero (cs : List Char) : Bool :=
  match withoutSign cs with
  | '0' :: c :: rest => (c :: rest).all Char.isDigit
  | _ => false

/-- The value of a numeral without a sign. -/
def magnitude? : List Char → Option Nat
  | '0' :: 'x' :: digits => digits? 16 digits
  | '0' :: 'o' :: digits => digits? 8 digits
  | '0' :: 'b' :: digits => digits? 2 digits
  | digits => if hasLeadingZero digits then none else digits? 10 digits

/-- A whole number that is not written with a minus sign. -/
def unsigned? : List Char → Option Nat
  | '+' :: digits => magnitude? digits
  | digits => magnitude? digits

/-- A whole number of at most 128 bits. -/
def integer? (cs : List Char) : Option Int :=
  match cs with
  | '-' :: digits => do
    let n ← magnitude? digits
    if n ≤ 1 <<< 127 then return -n else none
  | _ => do
    let n ← unsigned? cs
    if n < 1 <<< 128 then return n else none

/-- An exponent: a number with or without a sign. -/
def exponent? : List Char → Option Int
  | '-' :: digits => (digits? 10 digits).map fun n => -n
  | '+' :: digits => (digits? 10 digits).map Int.ofNat
  | digits => (digits? 10 digits).map Int.ofNat

/-- A decimal number without a sign: digits with a point anywhere among them, and an exponent. -/
def decimal? (cs : List Char) : Option Binary := do
  let whole := cs.takeWhile Char.isDigit
  let rest := cs.drop whole.length
  let (part, rest) := match rest with
    | '.' :: rest => (rest.takeWhile Char.isDigit, rest.dropWhile Char.isDigit)
    | rest => ([], rest)
  let digits ← digits? 10 (whole ++ part)
  let exponent ← match rest with
    | [] => some 0
    | 'e' :: digits | 'E' :: digits => exponent? digits
    | _ => none
  Binary.ofDecimal? digits (exponent - part.length)

/-- A number that may have decimals, or one of the words for infinity and for no number. -/
def fraction? (cs : List Char) : Option Fraction :=
  let word := String.ofList cs
  if word ∈ [".inf", ".Inf", ".INF", "+.inf", "+.Inf", "+.INF"] then some (.infinite false)
  else if word ∈ ["-.inf", "-.Inf", "-.INF"] then some (.infinite true)
  else if word ∈ [".nan", ".NaN", ".NAN"] then some .notANumber
  else match cs with
    | '-' :: rest => (decimal? rest).map (.finite true)
    | '+' :: rest => (decimal? rest).map (.finite false)
    | rest => (decimal? rest).map (.finite false)

/-- What a text means when it is written plain. -/
def ofText (text : String) : Plain :=
  let cs := text.toList
  if text.isEmpty || isNull text then .null
  else match boolean? text, integer? cs with
    | some value, _ => .boolean value
    | none, some value => .integer value
    | none, none =>
      match if hasLeadingZero cs then none else fraction? cs with
      | some value => .fraction value
      | none => .text text

end Plain

end Interceptor.Yaml
