/-
# Interceptor.Net.LocalNames — names a machine knows without asking anyone

A machine without name servers still knows the addresses that its own rules
give: `localhost` in any case, the classic number forms of an IPv4 address, in
which one to four numbers (decimal, octal after `0`, hexadecimal after `0x`) are
separated by points and the last one fills all bytes that are left, and an IPv6
address with a zone behind a percent sign. A zone is a number; for an address
that counts on one link only it may also be the name of the machine's link to
itself.
-/
import Interceptor.Net.AddressReader
import Interceptor.Http.UriReader
import Interceptor.Error

namespace Interceptor.Net.LocalNames

set_option autoImplicit false

open Text

/-- A number written in base 10, in base 8 after `0`, or in base 16 after `0x`. -/
def number? : List Char → Option Nat
  | ['0'] => some 0
  | '0' :: x :: digits =>
    let (base, digits) := if x = 'x' ∨ x = 'X' then (16, digits) else (8, x :: digits)
    (AddressReader.number? base none true 4294967295 digits).bind fun (n, rest) =>
      if rest.isEmpty then some n else none
  | digits =>
    (AddressReader.number? 10 none true 4294967295 digits).bind fun (n, rest) =>
      if rest.isEmpty then some n else none

/-- The IPv4 address of one to four numbers, the last of which fills the bytes that are left. -/
def ofNumbers? (numbers : List Nat) : Option IpAddr :=
  let leading := numbers.dropLast
  let free := 4 - leading.length
  match numbers.getLast? with
  | none => none
  | some last =>
    if numbers.length ≤ 4 && leading.all (· < 256) && last < 1 <<< (8 * free) then
      let high := leading.foldl (fun word n => word * 256 + n) 0
      some (.v4 (UInt32.ofNat (high <<< (8 * free) + last)))
    else none

/-- The address of a number form. -/
def numeric? (host : String) : Option IpAddr :=
  ((splitAll '.' host.toList).mapM number?).bind ofNumbers?

/-- Whether an IPv6 address, of one machine or of several, counts on one link only. -/
def isLinkLocal (bits : BitVec 128) : Bool :=
  match IpAddr.groupsOf bits with
  | first :: _ => first / 64 = 0x3fa || first / 256 = 0xff && first % 16 = 2
  | [] => false

/-- The machine's link to itself. -/
def loopbackLink : String := "lo"

/-- Whether a text is a zone for an address. -/
def isZone (bits : BitVec 128) (zone : List Char) : Bool :=
  isLinkLocal bits && zone = loopbackLink.toList ||
    (AddressReader.number? 10 none true 4294967295 zone).any (·.2.isEmpty)

/-- The address of an IPv6 text with a zone. -/
def zoned? (host : String) : Option IpAddr := do
  let (address, zone) ← splitFirst? '%' host.toList
  let (bits, rest) ← AddressReader.v6? address
  if rest.isEmpty && isZone bits zone then some (.v6 bits) else none

def loopback : IpAddr := .v4 (IpAddr.ofOctets [127, 0, 0, 1])

/-- The error for a name that nobody knows. -/
def unknownName : IoError :=
  ⟨.uncategorized, some "failed to lookup address information: Name or service not known"⟩

/-- The error for a name with a NUL character in it. -/
def nulInName : IoError :=
  ⟨.invalidInput, some "file name contained an unexpected NUL byte"⟩

/-- The addresses of a host by the machine's own rules. -/
def lookup (host : String) : Except IoError (List IpAddr) :=
  if host.toList.contains '\x00' then .error nulInName
  else if Http.lowerAsciiText host.toList = "localhost".toList then .ok [loopback]
  else
    match IpAddr.parse? host <|> numeric? host <|> zoned? host with
    | some ip => .ok [ip]
    | none => .error unknownName

/-- What comes of listening on an address: low ports are for the system alone. -/
def listen (addr : SocketAddr) : Except IoError SocketAddr :=
  if 0 < addr.port ∧ addr.port < 1024 then .error .permissionDenied else .ok addr

end Interceptor.Net.LocalNames
