/-
# Interceptor.Network — connections as the proxy sees them

Everything that happens outside the proxy and decides how an exchange goes on:
whether a connection is made, whether a parent grants a tunnel, whether a
client's connection can be taken over, whether a TLS handshake succeeds, what
is sent inside it. Each is an operation of `Network`, whose answers the proxy
has to be right for whatever they are.

`dial` resolves an address through the cache and connects to it. It has no outcome at
all when the lookup overruns the clock: the task that dials is at its end then. The
time limit is that of the connection: a lookup that is cut off by it is not described.
-/
import Interceptor.Net.Lookup
import Interceptor.Context
import Interceptor.Certificate.Authority
import Interceptor.Buffer

namespace Interceptor

set_option autoImplicit false

open Http Net Certificate

/-- A connection that is open. -/
structure Stream where
  id : Nat
  deriving DecidableEq, Repr

/-- Why something that had a time limit did not succeed. -/
inductive Failure
  | failed (error : IoError)
  | timedOut
  deriving DecidableEq, Repr

/-- Why a parent proxy gave no tunnel. -/
inductive TunnelRefusal
  | broken (error : String)
  | refused (status : Status)
  deriving DecidableEq, Repr

/-- The world outside the proxy, with state `σ`. -/
structure Network (σ : Type) extends Machine σ where
  /-- A new key for a leaf. -/
  freshKey : StateM σ KeyPair
  /-- The moment, in seconds since 1970. -/
  calendar : StateM σ Nat
  /-- Connects to an address within a time limit. -/
  connect : SocketAddr → Duration → StateM σ (Except Failure Stream)
  /-- Asks the parent at the other end of a stream for a tunnel to `host:port`. -/
  requestTunnel : Stream → String → StateM σ (Except TunnelRefusal Stream)
  /-- Waits until a client's connection is handed over. -/
  takeOver : UpgradeHandle → StateM σ (Except String Stream)
  /-- Accepts TLS on a stream under a leaf certificate, within a time limit. -/
  acceptTls : Stream → Leaf → Duration → StateM σ (Except Failure Stream)
  /-- The requests a client sends on a stream, and the error the stream ended with. -/
  requests : Stream → StateM σ (List Request × Option String)
  /-- Writes a response to the end. -/
  respond : Stream → Response → StateM σ Unit
  /-- Copies bytes both ways, through two buffers, until one side ends. -/
  relay : Stream → Stream → Buffer → Buffer → StateM σ (Except IoError Nat × Buffer × Buffer)

/-- Connects to `host:port` through the cache, within a time limit. There is no outcome when the
lookup has overrun the clock. -/
def Network.dial {σ : Type} (network : Network σ) (cache : LookupCache) (addr : String)
    (timeout : Duration) : StateM σ (Option (Except ProxyError Stream) × LookupCache) := do
  let (resolved, cache) ← cache.resolveAddr network.toMachine addr
  match resolved with
  | .error .overrun => return (none, cache)
  | .error (.failed e) => return (some (.error (.connect addr e)), cache)
  | .ok socket =>
    match ← network.connect socket timeout with
    | .ok stream => return (some (.ok stream), cache)
    | .error (.failed e) => return (some (.error (.connect addr e)), cache)
    | .error .timedOut => return (some (.error (.connectTimeout addr timeout)), cache)

end Interceptor
