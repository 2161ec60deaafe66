/-
# Interceptor.Net.Address — IP and socket addresses, and how they are written

An IPv4 address is a 32-bit word, written as four decimal octets. An IPv6
address is eight 16-bit groups, most significant first, written in lower-case
hexadecimal without leading zeros. The longest run of at least two zero groups
(the first one, if two are as long) is written `::`. An address that maps an
IPv4 address (`::ffff:` before it) shows its last two groups as octets.

A socket address puts an IPv6 address in square brackets before the port, with
its zone, when not zero, after a `%`.
-/
import Interceptor.Text.Split
import Interceptor.Text.Unsigned

namespace Interceptor.Net

set_option autoImplicit false

open Text

/-- An IPv4 or IPv6 address. -/
inductive IpAddr
  | v4 (word : UInt32)
  | v6 (bits : BitVec 128)
  deriving DecidableEq, Repr

namespace IpAddr

def isV4 : IpAddr → Bool
  | .v4 _ => true
  | .v6 _ => false

/-- The four octets of an IPv4 word, most significant first. -/
def octetsOf (word : UInt32) : List Nat :=
  [24, 16, 8, 0].map fun shift => (word.toNat >>> shift) % 256

/-- The IPv4 word of four octets. -/
def ofOctets (octets : List Nat) : UInt32 :=
  UInt32.ofNat (octets.foldl (fun word octet => word * 256 + octet) 0)

/-- The eight groups of an IPv6 address, most significant first. -/
def groupsOf (bits : BitVec 128) : List Nat :=
  [112, 96, 80, 64, 48, 32, 16, 0].map fun shift => (bits.toNat >>> shift) % 65536

/-- The IPv6 address of eight groups. -/
def ofGroups (groups : List Nat) : BitVec 128 :=
  BitVec.ofNat 128 (groups.foldl (fun bits group => bits * 65536 + group) 0)

/-- The bytes of an address, most significant first. -/
def toBytes : IpAddr → List UInt8
  | .v4 word => (octetsOf word).map UInt8.ofNat
  | .v6 bits => (groupsOf bits).flatMap fun g => [UInt8.ofNat (g / 256), UInt8.ofNat (g % 256)]

def renderOctets (octets : List Nat) : List Char :=
  joinWith ['.'] (octets.map Unsigned.toDigits)

def renderGroups (groups : List Nat) : List Char :=
  joinWith [':'] (groups.map (Nat.toDigits 16))

/-- A run of zero groups: where it starts and how long it is. -/
structure ZeroRun where
  start : Nat
  length : Nat

/-- The longest run of zero groups, the first one of those as long. -/
def longestZeroRun (groups : List Nat) : ZeroRun :=
  let step (state : Nat × ZeroRun × ZeroRun) (group : Nat) : Nat × ZeroRun × ZeroRun :=
    let (position, current, longest) := state
    if group = 0 then
      let current := if current.length = 0 then ⟨position, 1⟩ else ⟨current.start, current.length + 1⟩
      (position + 1, current, if longest.length < current.length then current else longest)
    else (position + 1, ⟨0, 0⟩, longest)
  (groups.foldl step (0, ⟨0, 0⟩, ⟨0, 0⟩)).2.2

/-- The address as text. -/
def render : IpAddr → List Char
  | .v4 word => renderOctets (octetsOf word)
  | .v6 bits =>
    let groups := groupsOf bits
    match groups with
    | [0, 0, 0, 0, 0, 0xffff, high, low] =>
      "::ffff:".toList ++ renderOctets [high / 256, high % 256, low / 256, low % 256]
    | _ =>
      let run := longestZeroRun groups
      if 1 < run.length then
        renderGroups (groups.take run.start) ++ [':', ':'] ++
          renderGroups (groups.drop (run.start + run.length))
      else renderGroups groups

instance : ToString IpAddr where
  toString ip := String.ofList ip.render

end IpAddr

/-- An address with a port, and for IPv6 a zone. -/
structure SocketAddr where
  ip : IpAddr
  port : Nat
  zone : Nat := 0
  deriving DecidableEq, Repr

namespace SocketAddr

/-- The socket address as text. -/
def render (addr : SocketAddr) : List Char :=
  match addr.ip with
  | .v4 _ => addr.ip.render ++ ':' :: Unsigned.toDigits addr.port
  | .v6 _ =>
    let zone := if addr.zone = 0 then [] else '%' :: Unsigned.toDigits addr.zone
    '[' :: addr.ip.render ++ zone ++ [']', ':'] ++ Unsigned.toDigits addr.port

instance : ToString SocketAddr where
  toString addr := String.ofList addr.render

end SocketAddr

end Interceptor.Net
