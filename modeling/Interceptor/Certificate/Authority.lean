/-
# Interceptor.Certificate.Authority — leaf certificates on demand

An authority signs a leaf for every host it is asked for, under its root. With
a cache it keeps each leaf under the names it was made for and hands it out
again to the host and to its siblings. A shared key may stand in every leaf;
otherwise each leaf has a key of its own, which the caller supplies.

`leafFor` is what a connection is served with: the cached leaf under the first
candidate that has one, or a new one. `issue` always makes a new one. Both take
the port off the host they are given.

Connections are served at the same time, so `serveLeaf` does one thing at a
time: it looks under one candidate, makes the leaf, keeps it under one name.
Others may do the same in between. `leafFor` does it all at once.

A name that is not ASCII cannot stand on a certificate. A validity that runs
past the end of the calendar, and a root's name with a part of a kind that there
cannot be, cannot be written at all; they stop the task that asked, without an
error to report.
-/
import Interceptor.Certificate.Names
import Interceptor.Net.HostPort
import Interceptor.Certificate.Root
import Interceptor.Strand

namespace Interceptor.Certificate

set_option autoImplicit false

open Net

/-- A leaf certificate and its key. -/
structure Leaf where
  host : String
  names : SubjectNames
  serial : UInt32
  certificate : Certificate
  key : KeyPair
  deriving DecidableEq

/-- Leaves by name. Nothing is ever dropped from it. -/
structure LeafCache where
  entries : List (String × Leaf)

namespace LeafCache

def empty : LeafCache := ⟨[]⟩

def get? (cache : LeafCache) (name : String) : Option Leaf := cache.entries.lookup name

/-- Keeps a leaf under a name, in place of one that is there. -/
def set (cache : LeafCache) (name : String) (leaf : Leaf) : LeafCache :=
  ⟨(name, leaf) :: cache.entries.filter (·.1 != name)⟩

def size (cache : LeafCache) : Nat := cache.entries.length

/-- The names in order. -/
def hosts (cache : LeafCache) : List String :=
  (cache.entries.map (·.1)).mergeSort (· ≤ ·)

end LeafCache

/-- The protocols spoken inside a connection that is served with a leaf. -/
def protocols : List String := ["http/1.1"]

/-- The protocol agreed on with a client, by the server's preference. -/
def negotiate? (offered : List String) : Option String := protocols.find? (offered.contains ·)

/-- Why a leaf was not made. -/
inductive IssueFailure
  | refused (error : CertificateError)
  /-- The last day is past the years that are written, or a name is no text of its kind: no error is
  returned, but the task that asked for the leaf breaks off. -/
  | unwritable
  deriving DecidableEq

/-- An authority and what it remembers. -/
structure CertificateAuthority where
  root : Root
  cache : Option LeafCache
  sharedKey : Option KeyPair
  years : Nat
  issued : Nat

namespace CertificateAuthority

def defaultYears : Nat := 1

def new (root : Root) (cache : Option LeafCache) : CertificateAuthority :=
  ⟨root, cache, none, defaultYears, 0⟩

/-- Signs every leaf over one key. -/
def withSharedKey (a : CertificateAuthority) (key : KeyPair) : CertificateAuthority :=
  { a with sharedKey := some key }

/-- Sets how long leaves hold, at least a year. -/
def withYears (a : CertificateAuthority) (years : Nat) : CertificateAuthority :=
  { a with years := max years 1 }

/-- The names of a leaf as they stand on it. A name that is not ASCII has no such form. -/
def altNames (names : SubjectNames) : Except IssueError (List AltName) := do
  let dns ← names.dns.mapM fun name =>
    if name.toList.all (·.toNat < 128) then .ok (AltName.dns name) else .error (.invalidText .ia5 name)
  return (names.ip.map AltName.ip).toList ++ dns

/-- What the leaf for a host says. -/
def leafCertificate (a : CertificateAuthority) (host : String) (now : Nat) (key : KeyPair) :
    Except IssueFailure Certificate :=
  match daysAfter? now (365 * a.years) with
  | none => .error .unwritable
  | some notAfter =>
    match altNames (SubjectNames.forHost host) with
    | .error e => .error (.refused (.issue e))
    | .ok altNames => if !a.root.subject.isWritable then .error .unwritable else .ok {
        serial := (serialFor host).toNat
        subject := .ofNames organizationName host
        issuer := a.root.subject.merged
        notBefore := (now : Int) - 365 * daySeconds
        notAfter
        altNames
        keyUsage := some [.digitalSignature, .keyEncipherment, .dataEncipherment]
        extendedUsage := [.clientAuth, .serverAuth]
        constraint := ⟨false, none⟩
        publicKey := key.publicKey
        signedBy := a.root.key.publicKey }

/-- Makes a leaf for `host`, with `fresh` as its key unless all leaves share one. -/
def issue (a : CertificateAuthority) (host : String) (now : Nat) (fresh : KeyPair) :
    Except IssueFailure Leaf × CertificateAuthority :=
  let host := HostPort.stripPort host
  let key := a.sharedKey.getD fresh
  match a.leafCertificate host now key with
  | .error e => (.error e, a)
  | .ok certificate =>
    (.ok ⟨host, SubjectNames.forHost host, serialFor host, certificate, key⟩,
      { a with issued := a.issued + 1 })

/-- The leaf that is cached under a name. -/
def cached? (a : CertificateAuthority) (name : String) : Option Leaf :=
  a.cache.bind (·.get? name)

/-- Keeps a leaf under a name. -/
def keep (a : CertificateAuthority) (name : String) (leaf : Leaf) : CertificateAuthority :=
  { a with cache := a.cache.map (·.set name leaf) }

/-- Computations of an authority. -/
abbrev AuthorityM := Strand Empty CertificateAuthority

/-- Looks for a leaf under one name. -/
def look (name : String) : AuthorityM (Option Leaf) := modifyGet fun a => (a.cached? name, a)

/-- Looks for a leaf under one name after another. -/
def lookUp : List String → AuthorityM (Option Leaf)
  | [] => return none
  | name :: names => do
    match ← look name with
    | some leaf => return some leaf
    | none => lookUp names

/-- Makes a leaf. -/
def make (host : String) (now : Nat) (fresh : KeyPair) : AuthorityM (Except IssueFailure Leaf) :=
  modifyGet (·.issue host now fresh)

/-- Keeps a leaf under one name after another. -/
def keepUnder (leaf : Leaf) : List String → AuthorityM Unit
  | [] => return ()
  | name :: names => do
    modify (·.keep name leaf)
    keepUnder leaf names

/-- Finds or makes the leaf a connection to `host` is served with. -/
def serveLeaf (host : String) (now : Nat) (fresh : KeyPair) :
    AuthorityM (Except IssueFailure Leaf) := do
  let host := HostPort.stripPort host
  match ← lookUp (lookupCandidates host) with
  | some leaf => return .ok leaf
  | none =>
    match ← make host now fresh with
    | .error e => return .error e
    | .ok leaf =>
      keepUnder leaf (leaf.names.cacheKeys host)
      return .ok leaf

/-- The leaf a connection to `host` is served with. -/
def leafFor (a : CertificateAuthority) (host : String) (now : Nat) (fresh : KeyPair) :
    Except IssueFailure Leaf × CertificateAuthority :=
  (serveLeaf host now fresh).run a

end CertificateAuthority

end Interceptor.Certificate
