/-
# Interceptor.Net.AddressReader — reading IP and socket addresses

Readers take what they accept off the front of a text and return the rest.
An octet has one to three digits and no leading zero; a group has one to four
hexadecimal digits. An IPv6 text has eight groups, or fewer with one `::` that
stands for at least one zero group; its last two groups may be written as an
IPv4 address, but not in front of `::`.
-/
import Interceptor.Net.Address

namespace Interceptor.Net.AddressReader

set_option autoImplicit false

open Text

/-- The value of a digit in base 10 or 16. -/
def digitIn? (base : Nat) (c : Char) : Option Nat :=
  let value? :=
    if '0' ≤ c ∧ c ≤ '9' then some (c.toNat - '0'.toNat)
    else if 'a' ≤ c ∧ c ≤ 'f' then some (c.toNat - 'a'.toNat + 10)
    else if 'A' ≤ c ∧ c ≤ 'F' then some (c.toNat - 'A'.toNat + 10)
    else none
  value?.filter (· < base)

/-- The leading digits of a text and what follows them. -/
def takeDigits (base : Nat) : List Char → List Nat × List Char
  | [] => ([], [])
  | c :: rest =>
    match digitIn? base c with
    | some d =>
      let (ds, rest) := takeDigits base rest
      (d :: ds, rest)
    | none => ([], c :: rest)

/-- A number in the given base, with at most `maxDigits` digits if there is such a limit. -/
def number? (base : Nat) (maxDigits : Option Nat) (leadingZero : Bool) (bound : Nat)
    (cs : List Char) : Option (Nat × List Char) :=
  let (ds, rest) := takeDigits base cs
  let value := ds.foldl (fun value d => value * base + d) 0
  if ds.isEmpty then none
  else if maxDigits.any (· < ds.length) then none
  else if !leadingZero && ds.head? == some 0 && 1 < ds.length then none
  else if bound < value then none
  else some (value, rest)

/-- Takes one given character. -/
def char? (c : Char) : List Char → Option (List Char)
  | [] => none
  | d :: rest => if c = d then some rest else none

def octet? (cs : List Char) : Option (Nat × List Char) :=
  number? 10 (some 3) false 255 cs

/-- Four octets with points between them. -/
def v4? (cs : List Char) : Option (UInt32 × List Char) := do
  let (a, cs) ← octet? cs
  let (b, cs) ← octet? (← char? '.' cs)
  let (c, cs) ← octet? (← char? '.' cs)
  let (d, cs) ← octet? (← char? '.' cs)
  return (IpAddr.ofOctets [a, b, c, d], cs)

/-- The text behind the colon that stands before every group but the first. -/
def afterColon? (first : Bool) (cs : List Char) : Option (List Char) :=
  if first then some cs else char? ':' cs

/-- At most `limit` groups: the groups, whether the last two were an IPv4 address, and the rest. -/
def groups (limit : Nat) (first : Bool) (cs : List Char) : List Nat × Bool × List Char :=
  match limit with
  | 0 => ([], false, cs)
  | limit + 1 =>
    let embedded := if limit = 0 then none else (afterColon? first cs).bind v4?
    match embedded with
    | some (word, rest) => ([word.toNat / 65536, word.toNat % 65536], true, rest)
    | none =>
      match (afterColon? first cs).bind (number? 16 (some 4) true 65535) with
      | some (group, rest) =>
        let (more, v4, rest) := groups limit false rest
        (group :: more, v4, rest)
      | none => ([], false, cs)

/-- An IPv6 address. -/
def v6? (cs : List Char) : Option (BitVec 128 × List Char) :=
  let (head, embedded, rest) := groups 8 true cs
  if head.length = 8 then some (IpAddr.ofGroups head, rest)
  else if embedded then none
  else do
    let rest ← char? ':' rest
    let rest ← char? ':' rest
    let (tail, _, rest) := groups (7 - head.length) true rest
    let zeros := List.replicate (8 - head.length - tail.length) 0
    return (IpAddr.ofGroups (head ++ zeros ++ tail), rest)

/-- The value of a reader that used up its text. -/
def whole? {α : Type} : Option (α × List Char) → Option α
  | some (value, []) => some value
  | _ => none

/-- An IPv4 address or else an IPv6 address. -/
def ip? (cs : List Char) : Option (IpAddr × List Char) :=
  match v4? cs with
  | some (word, rest) => some (.v4 word, rest)
  | none => (v6? cs).map fun (bits, rest) => (.v6 bits, rest)

/-- A colon and a port. -/
def port? (cs : List Char) : Option (Nat × List Char) :=
  (char? ':' cs).bind (number? 10 none true Unsigned.portBound)

/-- `a.b.c.d:port`. -/
def socketV4? (cs : List Char) : Option (SocketAddr × List Char) := do
  let (word, cs) ← v4? cs
  let (port, cs) ← port? cs
  return (⟨.v4 word, port, 0⟩, cs)

/-- A percent sign and a zone number, or nothing. -/
def zone (cs : List Char) : Nat × List Char :=
  ((char? '%' cs).bind (number? 10 none true 4294967295)).getD (0, cs)

/-- `[group:…%zone]:port`. -/
def socketV6? (cs : List Char) : Option (SocketAddr × List Char) := do
  let (bits, cs) ← v6? (← char? '[' cs)
  let (zone, cs) := zone cs
  let cs ← char? ']' cs
  let (port, cs) ← port? cs
  return (⟨.v6 bits, port, zone⟩, cs)

end AddressReader

/-- Reads an IP address. -/
def IpAddr.parse? (text : String) : Option IpAddr :=
  AddressReader.whole? (AddressReader.ip? text.toList)

/-- The message for a text that is no IP address. -/
def IpAddr.invalidMessage : String := "invalid IP address syntax"

/-- Reads a socket address: an IPv4 address and a port, or else a bracketed IPv6 address and a port. -/
def SocketAddr.parse? (text : String) : Option SocketAddr :=
  match AddressReader.socketV4? text.toList with
  | some (addr, rest) => AddressReader.whole? (some (addr, rest))
  | none => AddressReader.whole? (AddressReader.socketV6? text.toList)

/-- The message for a text that is no socket address. -/
def SocketAddr.invalidMessage : String := "invalid socket address syntax"

end Interceptor.Net
