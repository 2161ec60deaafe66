/-
# Interceptor.Engine — one exchange from request to response

`doRequest` runs the hook before the request, the network exchange and the hook
after it. A hook that aborts ends it without a result; a hook that asks for a
mock, or to fail fast, leaves out the network and what comes with it.

The request that goes out has the context's method, target, version and body,
and its headers without the hop-by-hop ones. The context keeps all but the body.
-/
import Interceptor.Proxy
import Interceptor.Routing

namespace Interceptor

set_option autoImplicit false

open Http Net

variable {σ ν : Type}

namespace Proxy

/-- The request as it is sent through a parent proxy, or as it is when there is none. -/
def withParent (request : Request) : Option Uri → Request
  | none => request
  | some parent => { request with parent := some parent }

/-- Sends a request through the parent its owner names, or directly. -/
def send (proxy : Proxy σ ν) (request : Request) : ProxyM σ ν (Except ProxyError Response) := do
  match ← proxy.askParent request with
  | .ok parent => proxy.roundTrip ⟨withParent request parent⟩
  | .error source => return .error (.parentProxy request.uri.render source)

/-- Takes a request head from its pool. -/
def takeHead : ProxyM σ ν RequestHead :=
  modifyGet fun state =>
    let (head, heads) := state.heads.get {}
    (head, { state with heads })

/-- Gives a request head back to its pool. -/
def returnHead (head : RequestHead) : ProxyM σ ν Unit :=
  modify fun state => { state with heads := state.heads.put head }

/-- The head a context's request goes out with, written into a head from the pool. -/
def outboundHead (head : RequestHead) (ctx : Context ν) : RequestHead :=
  (head.copyFrom ctx.request ctx.remote).stripHops

/-- Takes the hop-by-hop fields off a response. -/
def stripResponse (response : Response) : Response :=
  { response with headers := response.headers.stripHops }

/-- The response a hook supplied, or the error that it supplied none. -/
def suppliedResponse (ctx : Context ν) : Except ProxyError Response × Context ν :=
  let (response, ctx) := ctx.takeResponse
  (response.elim (.error (.missingMockResponse ctx.request.uri.render)) .ok, ctx)

/-- Hands an outcome to `respond`. -/
def conclude {ρ : Type} (ctx : Context ν) (outcome : Except ProxyError Response)
    (respond : Context ν → Except ProxyError Response → ProxyM σ ν (ρ × Context ν)) :
    ProxyM σ ν (Option ρ × Context ν) := do
  Strand.mark (.concluded ctx outcome)
  let (answer, ctx) ← respond ctx outcome
  return (some answer, ctx)

/-- Runs the hooks and the network exchange and hands the outcome to `respond`; none after an abort. -/
def doRequest {ρ : Type} (proxy : Proxy σ ν) (ctx : Context ν)
    (respond : Context ν → Except ProxyError Response → ProxyM σ ν (ρ × Context ν)) :
    ProxyM σ ν (Option ρ × Context ν) := do
  let ctx ← proxy.hook .beforeRequest ctx
  if ctx.abort then
    return (none, ctx)
  if ctx.skipsNetwork then
    let (outcome, ctx) := suppliedResponse ctx
    conclude ctx outcome respond
  else
    let head := outboundHead (← takeHead) ctx
    let (body, ctx) := ctx.takeBody
    let outcome ← proxy.send (head.toRequest body)
    returnHead head
    let (ctx, outcome) ← proxy.beforeResponse ctx outcome
    if ctx.abort then
      return (none, ctx)
    conclude ctx (outcome.map stripResponse) respond

/-- Passes a response on, and answers an error with 502 after logging it. -/
def relayOrBadGateway (proxy : Proxy σ ν) (ctx : Context ν) (outcome : Except ProxyError Response) :
    ProxyM σ ν (Response × Context ν) :=
  match outcome with
  | .ok response => return (response, ctx)
  | .error e => do
    proxy.log e
    return (.ofStatus .badGateway, ctx)

/-- Runs `doRequest` for an exchange and answers for it in every case. -/
def relayRequest (proxy : Proxy σ ν) (exchange : Exchange ν) :
    ProxyM σ ν (Response × Exchange ν) := do
  let (answer, ctx) ← proxy.doRequest exchange.ctx proxy.relayOrBadGateway
  match answer with
  | some response => return (response, ⟨ctx⟩)
  | none => return (Exchange.aborted ⟨ctx⟩)

/-- Logs an error and answers with a status alone. -/
def refuse (proxy : Proxy σ ν) (exchange : Exchange ν) (e : ProxyError) (status : Status) :
    ProxyM σ ν (Response × Exchange ν) := do
  proxy.log e
  return (.ofStatus status, exchange)

/-- Relays a request as plain HTTP. -/
def relayHttp (proxy : Proxy σ ν) (exchange : Exchange ν) : ProxyM σ ν (Response × Exchange ν) := do
  match withHttpScheme exchange.ctx.request with
  | .error e => proxy.refuse exchange e .badGateway
  | .ok request => proxy.relayRequest ⟨{ exchange.ctx with request }⟩

end Proxy

end Interceptor
