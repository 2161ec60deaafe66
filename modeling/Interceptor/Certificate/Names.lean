/-
# Interceptor.Certificate.Names — the names on a leaf certificate

A leaf for a literal IP address carries that address alone. A leaf for a host
name carries a wildcard for each suffix of at least two labels, the whole name
included, and the name itself when it has at most two labels: a wildcard does
not cover its own apex.

`SubjectNames.Covers` is what a client checks: a name is covered by itself or
by the wildcard on its parent (the name without its leftmost label).

The leaf is kept in the cache under the names with their wildcard mark taken
off, so that a sibling finds it under the parent they share:
`lookupCandidates` are the host itself and its parent.
-/
import Interceptor.Text.Split
import Interceptor.Text.Fnv
import Interceptor.Net.AddressReader

namespace Interceptor.Certificate

set_option autoImplicit false

open Text Net

/-- The name without its leftmost label, if it has more than one. -/
def parentChars? (host : List Char) : Option (List Char) :=
  (splitFirst? '.' host).map (·.2)

/-- The name without its leftmost label, if it has more than one. -/
def parent? (host : String) : Option String :=
  (parentChars? host.toList).map String.ofList

/-- Where a certificate for `host` is looked for: under the host, then under its parent. -/
def lookupCandidates (host : String) : List String :=
  host :: (parent? host |>.filter (· ≠ "")).toList

/-- The serial number of the leaf for `host`: a hash of its bytes. -/
def serialFor (host : String) : UInt32 :=
  Fnv.hash host.toUTF8.toList

/-- The labels of a name. -/
def labels (host : List Char) : List (List Char) :=
  splitAll '.' host

/-- The names of a leaf certificate. -/
structure SubjectNames where
  ip : Option IpAddr
  dns : List String
  deriving DecidableEq, Repr

namespace SubjectNames

/-- The suffixes of a label list that have at least two labels, longest first. -/
def properSuffixes : List (List Char) → List (List (List Char))
  | a :: b :: rest => (a :: b :: rest) :: properSuffixes (b :: rest)
  | _ => []

/-- A wildcard on a label list. -/
def wildcard (suffix : List (List Char)) : String :=
  String.ofList ('*' :: '.' :: joinWith ['.'] suffix)

/-- The names of the leaf for `host`. -/
def forHost (host : String) : SubjectNames :=
  match IpAddr.parse? host with
  | some ip => ⟨some ip, []⟩
  | none =>
    let parts := labels host.toList
    let wildcards := (properSuffixes parts).map wildcard
    ⟨none, wildcards ++ if parts.length ≤ 2 then [host] else []⟩

/-- A name with its wildcard mark taken off. -/
def withoutWildcard (name : String) : String :=
  match name.toList with
  | '*' :: '.' :: rest => String.ofList rest
  | _ => name

/-- Where the leaf for `host` is kept. -/
def cacheKeys (names : SubjectNames) (host : String) : List String :=
  (names.ip.map fun _ => host).toList ++ names.dns.map withoutWildcard

/-- Whether a client that asks for `name` accepts these names. -/
def Covers (names : SubjectNames) (name : String) : Prop :=
  match IpAddr.parse? name with
  | some ip => names.ip = some ip
  | none => name ∈ names.dns ∨ ∃ parent, parent? name = some parent ∧ "*." ++ parent ∈ names.dns

end SubjectNames

end Interceptor.Certificate
