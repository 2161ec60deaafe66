/-
# Interceptor.Text.Duration — lengths of time and how they are written

A duration is a number of nanoseconds. It is written in the largest of the
units second, millisecond, microsecond and nanosecond of which it holds at
least one, with as many decimals as are needed to say it exactly.
-/

namespace Interceptor

set_option autoImplicit false

/-- A length of time. -/
structure Duration where
  nanos : Nat
  deriving DecidableEq, Repr

namespace Duration

def ofMillis (n : Nat) : Duration := ⟨n * 1000000⟩
def ofSecs (n : Nat) : Duration := ⟨n * 1000000000⟩

/-- Whole milliseconds. -/
def toMillis (d : Duration) : Nat := d.nanos / 1000000

/-- The decimals of `part` units of which `whole` make one, without trailing zeros. -/
def decimals : Nat → Nat → List Char
  | 0, _ => []
  | places + 1, part =>
    if part = 0 then []
    else
      let unit := Nat.pow 10 places
      Nat.digitChar (part / unit) :: decimals places (part % unit)

/-- `value` in units of `10 ^ places` nanoseconds. -/
def inUnit (value places : Nat) (unit : String) : String :=
  let fraction := decimals places (value % Nat.pow 10 places)
  let point := if fraction.isEmpty then [] else ['.']
  toString (value / Nat.pow 10 places) ++ String.ofList (point ++ fraction) ++ unit

/-- The duration as text. -/
def render (d : Duration) : String :=
  if 1000000000 ≤ d.nanos then inUnit d.nanos 9 "s"
  else if 1000000 ≤ d.nanos then inUnit d.nanos 6 "ms"
  else if 1000 ≤ d.nanos then inUnit d.nanos 3 "µs"
  else inUnit d.nanos 0 "ns"

instance : ToString Duration := ⟨render⟩

end Duration

end Interceptor
