/-
# Interceptor.Net.Lookup — name lookups that are remembered

A cache keeps what a lookup of a host found until its time is over. Calls on
one cache overlap, so a call is a strand (`LookupM`) over the cache and the
machine that all of them share: it reads the cache, looks the host up when it
found nothing fresh there, reads the clock when the lookup has ended, and writes
what it found under that moment. Others may do the same in between. Writing
drops every entry whose time is over.

* a literal IP address is its own answer and is never kept;
* an entry is fresh strictly before the moment it expires;
* the seconds of a clock are signed numbers of 64 bits. What would expire later than it can
  show is not kept, and the call does not return: it has dropped the entries whose time is
  over by then, and takes the task that made it with it (`LookupFailure.overrun`).

`select?` picks the address to connect to: the first IPv4 address, or the last
address when there is none. `LookupCache.fetch`, `resolve` and `resolveAddr` make
a call with nobody in between.
-/
import Interceptor.Net.AddressReader
import Interceptor.Net.HostPort
import Interceptor.Error
import Interceptor.Strand

namespace Interceptor.Net

set_option autoImplicit false

/-- The address to connect to. -/
def select? (addrs : List IpAddr) : Option IpAddr :=
  match addrs.find? (·.isV4) with
  | some ip => some ip
  | none => addrs.getLast?

/-- What a lookup found, and the moment from which it no longer counts. -/
structure CachedLookup where
  addrs : List IpAddr
  expiresAt : Nat

/-- How many seconds a clock can show. -/
def clockSeconds : Nat := 0x8000000000000000

/-- When something expires that is kept from a moment on for some time, if a clock can show that. -/
def expiry? (ttl : Duration) (now : Nat) : Option Nat :=
  if (now + ttl.nanos) / 1000000000 < clockSeconds then some (now + ttl.nanos) else none

/-- Lookups by host. Moments are nanoseconds on one clock. -/
structure LookupCache where
  ttl : Duration
  entries : List (String × CachedLookup)

namespace LookupCache

/-- The time an entry stays fresh unless another is asked for. -/
def defaultTtl : Duration := .ofSecs 300

def new (ttl : Duration) : LookupCache := ⟨ttl, []⟩

def size (cache : LookupCache) : Nat := cache.entries.length

/-- What is known of a host at a moment, if it is fresh. -/
def fresh? (cache : LookupCache) (host : String) (now : Nat) : Option (List IpAddr) :=
  (cache.entries.lookup host).bind fun entry =>
    if now < entry.expiresAt then some entry.addrs else none

/-- Drops what is no longer fresh. -/
def prune (cache : LookupCache) (now : Nat) : LookupCache :=
  { cache with entries := cache.entries.filter fun (_, entry) => now < entry.expiresAt }

/-- Puts an entry in the place of the one that the host has. -/
def insert (cache : LookupCache) (host : String) (entry : CachedLookup) : LookupCache :=
  { cache with entries := cache.entries.filter (·.1 != host) ++ [(host, entry)] }

/-- Drops what is no longer fresh, and then keeps what a lookup of `host` found at a moment, if a
clock can show when that expires. Says whether it can. -/
def store (cache : LookupCache) (host : String) (addrs : List IpAddr) (now : Nat) :
    Bool × LookupCache :=
  match expiry? cache.ttl now with
  | some moment => (true, (cache.prune now).insert host ⟨addrs, moment⟩)
  | none => (false, cache.prune now)

/-- The cache as a text for people. -/
def describe (cache : LookupCache) : String :=
  "DnsCache \x7b ttl: " ++ cache.ttl.render ++ ", entries: " ++ toString cache.size ++ " \x7d"

end LookupCache

/-- The error for a host that has no address. -/
def noAddresses (host : String) : IoError :=
  ⟨.notFound, some ("no addresses found for " ++ host)⟩

/-- The error for an address text that names no port. -/
def missingPort (addr : String) : IoError :=
  ⟨.invalidInput, some ("missing port in address " ++ addr)⟩

/-- Why a call on a cache gives no address. -/
inductive LookupFailure
  | failed (error : IoError)
  /-- No clock can show when the addresses expire. The call does not return, and the task that
  made it is at its end. -/
  | overrun

/-- What an outside observer of lookups is told. -/
inductive LookupEvent
  | started (host : String)
  | done (host : String) (outcome : Except IoError (List IpAddr))

/-- The machine that lookups and connections run on, with state `σ`. -/
structure Machine (σ : Type) where
  /-- The moment, in nanoseconds. -/
  now : StateM σ Nat
  /-- Asks the system for the addresses of a host. -/
  lookup : String → StateM σ (Except IoError (List IpAddr))
  /-- Takes note of a lookup. -/
  observe : LookupEvent → StateM σ Unit

variable {σ : Type}

/-- Looks up a host on the machine; no address at all is an error. -/
def Machine.lookupAll (machine : Machine σ) (host : String) :
    StateM σ (Except IoError (List IpAddr)) := do
  match ← machine.lookup host with
  | .ok [] => return .error (noAddresses host)
  | outcome => return outcome

/-! ## Calls on a cache -/

/-- What the calls on a cache share: the state of their machine, and the cache. -/
structure Lookups (σ : Type) where
  world : σ
  cache : LookupCache

/-- What a call did. -/
inductive LookupMark
  /-- The cache was read at a moment. -/
  | read (host : String) (moment : Nat) (found : Option (List IpAddr))
  | observed (event : LookupEvent)
  /-- A lookup of the host ended. -/
  | looked (host : String) (outcome : Except IoError (List IpAddr))
  /-- The clock was read. -/
  | stamped (moment : Nat)
  /-- What a lookup found was written to the cache, under the moment at which it ended. -/
  | kept (host : String) (addrs : List IpAddr) (moment : Nat)
  /-- The cache was rid of what was over at that moment, and then the clock was overrun. -/
  | overran (host : String) (moment : Nat)

/-- Calls on a cache. -/
abbrev LookupM (σ : Type) := Strand LookupMark (Lookups σ)

namespace Machine

/-- One thing done on the machine. -/
def perform {α : Type} (act : StateM σ α) (mark : α → LookupMark) : LookupM σ α :=
  .act (fun lookups =>
    let (value, world) := act lookups.world
    (value, { lookups with world })) fun value => [mark value]

/-- Reads the cache for a host: the moment, and what is fresh then. -/
def consult (machine : Machine σ) (host : String) : LookupM σ (Nat × Option (List IpAddr)) :=
  .act (fun lookups =>
    let (now, world) := machine.now lookups.world
    ((now, lookups.cache.fresh? host now), { lookups with world }))
    fun (now, found) => [.read host now found]

/-- Writes what a lookup found to the cache, and says whether it is kept. -/
def keep (host : String) (addrs : List IpAddr) (now : Nat) : LookupM σ Bool :=
  .act (fun lookups =>
    let (kept, cache) := lookups.cache.store host addrs now
    (kept, { lookups with cache }))
    fun
    | true => [.kept host addrs now]
    | false => [.overran host now]

/-- Looks up a host and keeps what it finds. -/
def lookupAfresh (machine : Machine σ) (host : String) :
    LookupM σ (Except LookupFailure (List IpAddr)) := do
  perform (machine.observe (.started host)) fun _ => .observed (.started host)
  let outcome ← perform (machine.lookupAll host) (.looked host)
  perform (machine.observe (.done host outcome)) fun _ => .observed (.done host outcome)
  match outcome with
  | .error e => return .error (.failed e)
  | .ok addrs =>
    let now ← perform machine.now .stamped
    let kept ← keep host addrs now
    return if kept then .ok addrs else .error .overrun

/-- Every address of a host, from the cache while it is fresh. -/
def fetch (machine : Machine σ) (host : String) : LookupM σ (Except LookupFailure (List IpAddr)) :=
  match IpAddr.parse? host with
  | some ip => return .ok [ip]
  | none => do
    match ← machine.consult host with
    | (_, some addrs) => return .ok addrs
    | (_, none) => machine.lookupAfresh host

/-- The address to connect to among those of a host. -/
def choose (host : String) (outcome : Except LookupFailure (List IpAddr)) :
    Except LookupFailure IpAddr :=
  outcome.bind fun addrs => (select? addrs).elim (.error (.failed (noAddresses host))) .ok

/-- The address of a host to connect to. -/
def resolve (machine : Machine σ) (host : String) : LookupM σ (Except LookupFailure IpAddr) :=
  choose host <$> machine.fetch host

/-- The socket address of `host:port` to connect to. -/
def resolveAddr (machine : Machine σ) (addr : String) :
    LookupM σ (Except LookupFailure SocketAddr) :=
  match HostPort.split? addr with
  | none => return .error (.failed (missingPort addr))
  | some (host, port) => do
    let outcome ← machine.resolve host
    return outcome.map fun ip => ⟨ip, port, 0⟩

end Machine

namespace LookupCache

/-- Makes a call with nobody in between. -/
def alone {α : Type} (cache : LookupCache) (call : LookupM σ α) : StateM σ (α × LookupCache) :=
  fun world =>
    let (value, after) := call.run ⟨world, cache⟩
    ((value, after.cache), after.world)

def fetch (cache : LookupCache) (machine : Machine σ) (host : String) :
    StateM σ (Except LookupFailure (List IpAddr) × LookupCache) := cache.alone (machine.fetch host)

def resolve (cache : LookupCache) (machine : Machine σ) (host : String) :
    StateM σ (Except LookupFailure IpAddr × LookupCache) := cache.alone (machine.resolve host)

def resolveAddr (cache : LookupCache) (machine : Machine σ) (addr : String) :
    StateM σ (Except LookupFailure SocketAddr × LookupCache) := cache.alone (machine.resolveAddr addr)

end LookupCache

end Interceptor.Net
