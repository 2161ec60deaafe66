/-
# Interceptor.Context — what the hooks of one exchange see

A context belongs to one inbound request, or to one tunnel. It holds the
request, flags that hooks set, a response that hooks put in place of the
network's, and notes of any type that hooks keep for one another. Contexts are
used again: `reset` empties every part.

`RequestHead` is the copy of a request line and its headers that the outbound
request is built from; it is used again too.
-/
import Interceptor.Net.Address
import Interceptor.Http.Message
import Interceptor.Pool

namespace Interceptor

set_option autoImplicit false

open Http Net

/-- The handle through which a client's connection can be taken over. -/
structure UpgradeHandle where
  connection : Nat
  deriving DecidableEq, Repr

/-- The state of one exchange, with notes of type `ν`. -/
structure Context (ν : Type) where
  request : Request
  notes : ν
  remote : Option SocketAddr
  upgrade : Option UpgradeHandle
  abort : Bool
  tunnel : Bool
  failFast : Bool
  needMock : Bool
  response : Option Response

namespace Context

variable {ν : Type}

/-- A context with nothing in it. -/
def empty [EmptyCollection ν] : Context ν where
  request := {}
  notes := ∅
  remote := none
  upgrade := none
  abort := false
  tunnel := false
  failFast := false
  needMock := false
  response := none

instance [EmptyCollection ν] : Inhabited (Context ν) := ⟨empty⟩

instance [EmptyCollection ν] : Reset (Context ν) := ⟨fun _ => empty⟩

/-- Puts a new request into the context, with the client's address and connection. -/
def begin (ctx : Context ν) (request : Request) (remote : Option SocketAddr)
    (upgrade : Option UpgradeHandle) : Context ν :=
  { ctx with request, remote, upgrade }

/-- Swaps in a request and returns the one before it. -/
def replaceRequest (ctx : Context ν) (request : Request) : Request × Context ν :=
  (ctx.request, { ctx with request })

/-- Takes the request body and leaves an empty one. -/
def takeBody (ctx : Context ν) : Body × Context ν :=
  (ctx.request.body, { ctx with request := { ctx.request with body := .empty } })

/-- Takes the response, if there is one. -/
def takeResponse (ctx : Context ν) : Option Response × Context ν :=
  (ctx.response, { ctx with response := none })

/-- Takes the upgrade handle, if there is one. -/
def takeUpgrade (ctx : Context ν) : Option UpgradeHandle × Context ν :=
  (ctx.upgrade, { ctx with upgrade := none })

/-- Answers with `response` instead of asking the network. -/
def mock (ctx : Context ν) (response : Response) : Context ν :=
  { ctx with needMock := true, response := some response }

/-- Whether the network is left out. -/
def skipsNetwork (ctx : Context ν) : Bool := ctx.failFast || ctx.needMock

def isHttps (ctx : Context ν) : Bool := ctx.request.uri.isHttps

/-- Host and port of the request's target, with the default port of its scheme. -/
def addr (ctx : Context ν) : String :=
  let uri := ctx.request.uri
  let port := uri.port?.getD (if uri.isHttps then 443 else 80)
  (uri.host?.getD "") ++ ":" ++ toString port

end Context

/-- A request line and its headers, copied for sending. -/
structure RequestHead where
  method : Method := .get
  uri : Uri := .slash
  version : Version := .http11
  headers : Headers := .empty
  remote : Option SocketAddr := none

namespace RequestHead

instance : Inhabited RequestHead := ⟨{}⟩

instance : Reset RequestHead := ⟨fun _ => {}⟩

/-- Takes over the head of a request, in place of what it held. -/
def copyFrom (head : RequestHead) (request : Request) (remote : Option SocketAddr) : RequestHead :=
  { method := request.method, uri := request.uri, version := request.version,
    headers := head.headers.overwrite request.headers, remote }

/-- Takes the hop-by-hop fields away. -/
def stripHops (head : RequestHead) : RequestHead :=
  { head with headers := head.headers.stripHops }

/-- A request with this head and the given body. -/
def toRequest (head : RequestHead) (body : Body) : Request :=
  { method := head.method, uri := head.uri, version := head.version, headers := head.headers, body }

end RequestHead

end Interceptor
