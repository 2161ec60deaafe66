/-
# Interceptor.Routing — where a request goes, and under which target

`route` sends a request to the tunnel when its target is https or when it is a
`CONNECT` to port 443; every other request is relayed as plain HTTP.

The other functions change targets. `fillAuthority` takes a missing authority
from the `Host` field; `withHttpScheme` makes a target absolute for the plain
relay; `nameOrigin` names the origin of a request that was read inside TLS
(`withTunnelOrigin` is the request it leaves, or its error); `toOriginForm` goes
the other way, for sending inside TLS. These two change a request in place
(`Rewrite`), so that what they leave behind an error is told as well.
-/
import Interceptor.Http.Message
import Interceptor.Http.UriReader
import Interceptor.Error

namespace Interceptor

set_option autoImplicit false

open Http

/-- How an inbound request is handled. -/
inductive Route
  | http
  | tunnel
  deriving DecidableEq, Repr

def Route.text : Route → String
  | .http => "http"
  | .tunnel => "tunnel"

/-- Tunnel for https targets and for `CONNECT` to port 443; HTTP for all else. -/
def route (request : Request) : Route :=
  if request.uri.isHttps || (request.method = .connect && request.uri.port? = some 443) then .tunnel
  else .http

/-- What goes to the tunnel has an authority. -/
theorem exists_authority_of_tunnel {request : Request} (tunnelled : route request = .tunnel) :
    ∃ authority, request.uri.authority? = some authority := by
  unfold route at tunnelled
  cases uri : request.uri with
  | origin target => simp [uri, Uri.isHttps, Uri.scheme?, Uri.port?, Uri.authority?] at tunnelled
  | authority authority => exact ⟨authority, rfl⟩
  | absolute scheme authority target => exact ⟨authority, rfl⟩

/-- Gives a target without an authority the one in the first `Host` field, if that is readable. -/
def fillAuthority (request : Request) : Request :=
  match request.uri with
  | .origin target =>
    match request.headers.hostText?.map Authority.parse with
    | some (.ok authority) => { request with uri := .absolute .http authority target }
    | _ => request
  | _ => request

/-- The absolute form of a target under the http scheme. -/
def withHttpScheme (request : Request) : Except ProxyError Request :=
  match request.uri with
  | .origin _ => .error (.invalidTarget request.uri.render)
  | .authority authority => .ok { request with uri := .absolute .http authority .slash }
  | .absolute _ authority target => .ok { request with uri := .absolute .http authority target }

/-- A change of a request in place. An error ends it, and the request stays as it is by then. -/
abbrev Rewrite := ExceptT ProxyError (StateM Request)

namespace Rewrite

/-- How a change of `request` ends, and the request that is there then. -/
def on (rewrite : Rewrite Unit) (request : Request) : Except ProxyError Unit × Request :=
  rewrite.run.run request

/-- The changed request, or the error that ended the change. -/
def result (rewrite : Rewrite Unit) (request : Request) : Except ProxyError Request :=
  match rewrite.on request with
  | (.ok (), changed) => .ok changed
  | (.error e, _) => .error e

section Steps

variable (request : Request)

@[simp] theorem on_pure : on (pure ()) request = (.ok (), request) := rfl

@[simp] theorem on_throw (e : ProxyError) : on (throw e) request = (.error e, request) := rfl

@[simp] theorem on_modify (change : Request → Request) :
    on (modify change) request = (.ok (), change request) := rfl

@[simp] theorem on_get (next : Request → Rewrite Unit) :
    on (get >>= next) request = (next request).on request := rfl

/-- A change that ends well is followed by the next one. -/
theorem on_bind {first : Rewrite Unit} {between : Request} (next : Unit → Rewrite Unit)
    (done : first.on request = (.ok (), between)) :
    on (first >>= next) request = (next ()).on between := by
  rw [on] at done ⊢
  rw [ExceptT.run_bind, StateT.run_bind, done]
  rfl

end Steps

end Rewrite

/-- Gives a request read inside TLS its https target; `connectTarget` stands in for a missing `Host`. -/
def nameOrigin (connectTarget : String) : Rewrite Unit := do
  let host := (← get).headers.hostText?.getD connectTarget
  match Authority.parse host with
  | .error _ => throw (.invalidTarget host)
  | .ok authority =>
    modify fun request =>
      { request with uri := .absolute .https authority (request.uri.pathAndQuery?.getD .slash) }

/-- The https target of a request read inside TLS; `connectTarget` stands in for a missing `Host`. -/
def withTunnelOrigin (request : Request) (connectTarget : String) : Except ProxyError Request :=
  (nameOrigin connectTarget).result request

theorem on_nameOrigin (request : Request) (connectTarget : String) :
    (nameOrigin connectTarget).on request =
      match Authority.parse (request.headers.hostText?.getD connectTarget) with
      | .error _ => (.error (.invalidTarget (request.headers.hostText?.getD connectTarget)), request)
      | .ok authority => (.ok (), { request with
          uri := .absolute .https authority (request.uri.pathAndQuery?.getD .slash) }) := by
  rw [nameOrigin, Rewrite.on_get]
  cases parsed : Authority.parse (request.headers.hostText?.getD connectTarget) <;> simp [parsed]

/-- The default port of a target's scheme, or else the given one. -/
def impliedPort (uri : Uri) (defaultPort : Nat) : Nat :=
  match uri.scheme? with
  | some .https => 443
  | some .http => 80
  | _ => defaultPort

/-- `host:port` of a target, with the default port of its scheme or else the given one. -/
def authorityWithPort (uri : Uri) (defaultPort : Nat) : Except ProxyError String :=
  match uri.host? with
  | none => .error (.invalidTarget uri.render)
  | some host => .ok (host ++ ":" ++ toString (uri.port?.getD (impliedPort uri defaultPort)))

/-- An authority is enough for an address. -/
theorem authorityWithPort_of_authority {uri : Uri} {a : Authority} (there : uri.authority? = some a)
    (defaultPort : Nat) : authorityWithPort uri defaultPort =
      .ok (a.host ++ ":" ++ toString (a.port?.getD (impliedPort uri defaultPort))) := by
  simp [authorityWithPort, Uri.host?, Uri.port?, there]

/-- Gives the request a `Host` field with its authority unless it has one. -/
def fillHost : Rewrite Unit := do
  let request ← get
  if !request.headers.contains .host then
    if let some authority := request.uri.authority? then
      match HeaderValue.ofText? authority.text with
      | none => throw (.invalidTarget request.uri.render)
      | some value =>
        modify fun request => { request with headers := request.headers.insert .host value }

/-- A `Host` field that is there already is left alone. -/
theorem on_fillHost_of_contains {request : Request} (there : request.headers.contains .host = true) :
    fillHost.on request = (.ok (), request) := by
  rw [fillHost, Rewrite.on_get, there]
  rfl

theorem on_fillHost_of_missing {request : Request} {authority : Authority} {value : HeaderValue}
    (missing : request.headers.contains .host = false) (there : request.uri.authority? = some authority)
    (text : HeaderValue.ofText? authority.text = some value) :
    fillHost.on request =
      (.ok (), { request with headers := request.headers.insert .host value }) := by
  rw [fillHost, Rewrite.on_get, missing]
  simp [there, text]

/-- The origin form of a request: its path and query alone, its authority in `Host`. -/
def toOriginForm : Rewrite Unit := do
  fillHost
  let uri := (← get).uri
  match Uri.parse ((uri.pathAndQuery?.map PathAndQuery.written).getD "/") with
  | .error _ => throw (.invalidTarget uri.render)
  | .ok uri => modify fun request => { request with uri }

end Interceptor
