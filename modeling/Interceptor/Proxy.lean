/-
# Interceptor.Proxy — the proxy and the life of an exchange

`Proxy` is what stays the same: the hooks, the transport, the network and the
time limits. `ProxyState` is what changes: the state `σ` of everything outside,
the pools, the lookup cache, the certificate authority, and the number of
exchanges in flight.

Exchanges overlap, so what a proxy does for one of them is a strand over that
state (`ProxyM`): each hook, each use of the network and each use of a pool is
one step. The marks of its steps are `Occurrence`s. Every hook, every use of the
transport and of the network is called in one place, where its mark is made.

An `Exchange` holds a pooled context from the first hook to the last. Whoever
holds it must `finish` it, exactly once: the body of a response carries it until it
has been read or dropped (`GuardedBody`), a tunnel until it has ended. Finishing runs
the last hook, gives the context back to its pool and takes the exchange off the count.

Only exchanges that are carried on to their end are described. A client that goes away
while its request is being served, so that the task that serves it is dropped between
two of its steps, is not.
-/
import Interceptor.Delegate
import Interceptor.Network
import Interceptor.Strand

namespace Interceptor

set_option autoImplicit false

open Http Net Certificate

/-- A request on its way out. -/
structure Outbound where
  request : Request
  deriving DecidableEq

/-- The parent proxy it must go through. -/
def Outbound.parent (outbound : Outbound) : Option Uri := outbound.request.parent

/-- Sends requests and brings back their responses. -/
structure Transport (σ : Type) where
  roundTrip : Outbound → StateM σ (Except ProxyError Response)

/-- A proxy. -/
structure Proxy (σ ν : Type) where
  delegate : Delegate σ ν
  transport : Transport σ
  network : Network σ
  connectTimeout : Duration := .ofSecs 5
  handshakeTimeout : Duration := .ofSecs 5

/-- What a proxy changes while it runs. -/
structure ProxyState (σ ν : Type) where
  world : σ
  contexts : Pool (Context ν)
  heads : Pool RequestHead
  buffers : BufferPool
  lookups : LookupCache
  authority : Option CertificateAuthority
  /-- Exchanges that have begun and not finished. -/
  inFlight : Nat

/-- What an exchange had to do with the world outside it, and what came of it. -/
inductive Occurrence (ν : Type)
  /-- The exchange counts as being in flight. -/
  | began
  /-- A hook was shown one context and left another. -/
  | hook (hook : Hook) (before after : Context ν)
  /-- The delegate was asked for the parent proxy of a request. -/
  | parentAsked (request : Request) (answer : Except String (Option Uri))
  | sent (outbound : Outbound) (outcome : Except ProxyError Response)
  /-- The hook after the response was shown a context and an outcome, and left others. -/
  | reviewed (before : Context ν) (outcome : Except ProxyError Response) (after : Context ν)
      (left : Except ProxyError Response)
  /-- An outcome was handed to whoever answers. -/
  | concluded (ctx : Context ν) (outcome : Except ProxyError Response)
  | logged (error : ProxyError)
  | certified (outcome : Option (Except IssueFailure Leaf))
  /-- An address was dialed, without an outcome when that has ended the task. -/
  | dialed (addr : String) (outcome : Option (Except ProxyError Stream))
  | tunnelAsked (target : String) (outcome : Except TunnelRefusal Stream)
  | takenOver (outcome : Except String Stream)
  | accepted (outcome : Except Failure Stream)
  /-- The requests of a decrypted stream, and the error it ended with. -/
  | received (requests : List Request) (ended : Option String)
  /-- A response was written to the end on a decrypted stream. -/
  | responded (response : Response)
  | relayed (outcome : Except IoError Nat)
  /-- The client was given a response that carries the exchange. -/
  | answered (response : Response)
  /-- The client was given a response whose exchange goes on as a tunnel. -/
  | tunnelled (response : Response)
  /-- The body of the response that carries the exchange has been read to its end, or dropped. -/
  | released
  /-- The exchange is off the count. -/
  | retired

/-- Computations of a proxy. -/
abbrev ProxyM (σ ν : Type) := Strand (Occurrence ν) (ProxyState σ ν)

namespace ProxyState

/-- The idle objects a pool keeps unless told otherwise. -/
def defaultCapacity : Nat := 1024

/-- The state of a proxy that has served nothing. -/
def initial {σ ν : Type} (world : σ) (capacity : Nat) (ttl : Duration)
    (authority : Option CertificateAuthority) : ProxyState σ ν where
  world
  contexts := Pool.new capacity
  heads := Pool.new capacity
  buffers := Pool.new capacity
  lookups := .new ttl
  authority
  inFlight := 0

end ProxyState

variable {σ ν : Type}

/-- One thing done in the world outside. -/
def outside {α : Type} (act : StateM σ α) (mark : α → Occurrence ν) : ProxyM σ ν α :=
  .act (fun state =>
    let (value, world) := act state.world
    (value, { state with world })) fun value => [mark value]

namespace Proxy

/-- Runs a hook. -/
def hook (proxy : Proxy σ ν) (hook : Hook) (ctx : Context ν) : ProxyM σ ν (Context ν) :=
  outside (proxy.delegate.run hook ctx) (.hook hook ctx)

/-- Runs the hook after the response. -/
def beforeResponse (proxy : Proxy σ ν) (ctx : Context ν) (outcome : Except ProxyError Response) :
    ProxyM σ ν (Context ν × Except ProxyError Response) :=
  outside (proxy.delegate.beforeResponse ctx outcome) fun (after, left) =>
    .reviewed ctx outcome after left

/-- Asks for the parent proxy of a request. -/
def askParent (proxy : Proxy σ ν) (request : Request) :
    ProxyM σ ν (Except String (Option Uri)) :=
  outside (proxy.delegate.parentProxy request) (.parentAsked request)

/-- Logs an error. -/
def log (proxy : Proxy σ ν) (e : ProxyError) : ProxyM σ ν Unit :=
  outside (proxy.delegate.errorLog e) fun _ => .logged e

/-- Sends a request and waits for its response. -/
def roundTrip (proxy : Proxy σ ν) (outbound : Outbound) :
    ProxyM σ ν (Except ProxyError Response) :=
  outside (proxy.transport.roundTrip outbound) (.sent outbound)

end Proxy

/-- An exchange that has begun and not finished. -/
structure Exchange (ν : Type) where
  ctx : Context ν

namespace Exchange

/-- Puts an exchange on the count. -/
def enter : ProxyM σ ν Unit :=
  .act (fun state => ((), { state with inFlight := state.inFlight + 1 })) fun _ => [.began]

/-- Takes an exchange off the count. -/
def leave : ProxyM σ ν Unit :=
  .act (fun state => ((), { state with inFlight := state.inFlight - 1 })) fun _ => [.retired]

/-- Takes a context from its pool. -/
def takeContext [EmptyCollection ν] : ProxyM σ ν (Context ν) :=
  modifyGet fun state =>
    let (ctx, contexts) := state.contexts.get .empty
    (ctx, { state with contexts })

/-- Gives a context back to its pool. -/
def returnContext (ctx : Context ν) : ProxyM σ ν Unit :=
  modify fun state => { state with contexts := state.contexts.put ctx }

/-- Begins an exchange with a context from the pool. -/
def begin [EmptyCollection ν] (request : Request) (remote : Option SocketAddr)
    (upgrade : Option UpgradeHandle) : ProxyM σ ν (Exchange ν) := do
  enter
  let ctx ← takeContext
  return ⟨ctx.begin request remote upgrade⟩

/-- Ends an exchange: the last hook, the context back to its pool, the count. -/
def finish (proxy : Proxy σ ν) (exchange : Exchange ν) : ProxyM σ ν Unit := do
  let ctx ← proxy.hook .finish exchange.ctx
  returnContext ctx
  leave

/-- The response of an exchange that a hook stopped: the one on its context, or an empty one. -/
def aborted (exchange : Exchange ν) : Response × Exchange ν :=
  let (response, ctx) := exchange.ctx.takeResponse
  (response.getD {}, ⟨ctx⟩)

end Exchange

/-! ## Bodies that carry an exchange -/

/-- A body that holds an exchange for as long as it is there. -/
structure GuardedBody (ν : Type) where
  inner : Body
  exchange : Exchange ν

namespace GuardedBody

/-- What its frames hold. -/
def bytes (body : GuardedBody ν) : List UInt8 := body.inner.bytes

/-- Whether nothing is left to read. -/
def isEnded (body : GuardedBody ν) : Bool := body.inner.ended

/-- The least and the largest number of bytes that remain. -/
def bounds (body : GuardedBody ν) : Nat × Option Nat := (body.inner.lower, body.inner.upper)

/-- The body as whoever reads it sees it. -/
def shown (body : GuardedBody ν) : Body :=
  ⟨body.bytes, body.isEnded, body.bounds.1, body.bounds.2⟩

/-- The body has been read to its end, or is dropped, and the exchange with it. -/
def release (proxy : Proxy σ ν) (body : GuardedBody ν) : ProxyM σ ν Unit := do
  Strand.mark .released
  body.exchange.finish proxy

end GuardedBody

/-- A response whose body carries its exchange. -/
structure GuardedResponse (ν : Type) where
  status : Status
  reason : Option String
  headers : Headers
  body : GuardedBody ν

/-- The response as its client sees it. -/
def GuardedResponse.shown (response : GuardedResponse ν) : Response :=
  ⟨response.status, response.reason, response.headers, response.body.shown⟩

/-- Ties the end of an exchange to the end of a response's body. -/
def Exchange.attach (exchange : Exchange ν) (response : Response) : GuardedResponse ν :=
  ⟨response.status, response.reason, response.headers, ⟨response.body, exchange⟩⟩

/-- A client sees nothing of the exchange that a response carries. -/
@[simp] theorem Exchange.shown_attach (exchange : Exchange ν) (response : Response) :
    (exchange.attach response).shown = response := rfl

@[simp] theorem Exchange.exchange_attach (exchange : Exchange ν) (response : Response) :
    (exchange.attach response).body.exchange = exchange := rfl

end Interceptor
