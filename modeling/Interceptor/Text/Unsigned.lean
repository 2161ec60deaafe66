/-
# Interceptor.Text.Unsigned — reading unsigned numbers

A number is written as decimal digits, at least one, after an optional `+`;
leading zeros are allowed and the value has an upper bound. `read` names the
first thing that is wrong, scanning from the left: a digit that carries the
value past the bound is noticed before a bad character behind it.

`toDigits` writes a number without leading zeros.
-/

namespace Interceptor.Text.Unsigned

set_option autoImplicit false

/-- Why a text is not a number within the bound. -/
inductive Fault
  | empty
  | invalidDigit
  | tooLarge
  deriving DecidableEq, Repr

def Fault.message : Fault → String
  | .empty => "cannot parse integer from empty string"
  | .invalidDigit => "invalid digit found in string"
  | .tooLarge => "number too large to fit in target type"

/-- The value of an ASCII decimal digit. -/
def digit? (c : Char) : Option Nat :=
  if '0' ≤ c ∧ c ≤ '9' then some (c.toNat - '0'.toNat) else none

/-- Reads digits onto `value`, keeping it at most `bound`. -/
def readDigits (bound : Nat) (value : Nat) : List Char → Except Fault Nat
  | [] => .ok value
  | c :: rest =>
    match digit? c with
    | none => .error .invalidDigit
    | some d =>
      if value * 10 + d ≤ bound then readDigits bound (value * 10 + d) rest
      else .error .tooLarge

/-- Reads a whole text as a number of at most `bound`. -/
def read (bound : Nat) : List Char → Except Fault Nat
  | [] => .error .empty
  | ['+'] => .error .invalidDigit
  | '+' :: digits => readDigits bound 0 digits
  | digits => readDigits bound 0 digits

/-- The largest port number. -/
def portBound : Nat := 65535

/-- Reads a port number. -/
def readPort? (cs : List Char) : Option Nat :=
  (read portBound cs).toOption

/-- A number as decimal digits. -/
def toDigits (n : Nat) : List Char := Nat.toDigits 10 n

end Interceptor.Text.Unsigned
