/-
# Interceptor.Config — what can be configured

A configuration says where to listen, whether and how to intercept, how to reach
servers, how long looked up names are kept, and which parent proxy to go through.
Everything has a default.

`validate` accepts a configuration that can be run: the host to listen on is an
address, certificate and key of the root come together, certificates are valid
for some time, and time limits are not zero; the parent proxy is reached by
plain HTTP. The first fault is reported.
-/
import Interceptor.Http.UriReader
import Interceptor.Net.AddressReader
import Interceptor.Text.Duration

namespace Interceptor

set_option autoImplicit false

open Http Net

namespace Config

/-- Where clients connect. -/
structure Listen where
  host : String := "127.0.0.1"
  port : UInt16 := 8888

/-- How tunnels are intercepted. -/
structure Interception where
  enabled : Bool := false
  /-- The file of the root certificate; the development root is used if there is none. -/
  certificatePath : Option String := none
  keyPath : Option String := none
  /-- Whether one key serves all leaf certificates. -/
  reuseKey : Bool := true
  validityYears : UInt32 := 1
  handshakeMillis : UInt64 := 5000

/-- How servers are reached. -/
structure Outbound where
  maxIdlePerHost : UInt64 := 10
  idleSecs : UInt64 := 10
  keepaliveSecs : UInt64 := 60
  connectSecs : UInt64 := 5
  /-- The time limit for a handshake behind a parent proxy. -/
  handshakeMillis : UInt64 := 5000
  keepalive : Bool := true
  /-- Whether any certificate of a server is accepted. -/
  skipVerify : Bool := true

/-- How long looked up names are kept. -/
structure Lookups where
  ttlSecs : UInt64 := 300

end Config

/-- What can be configured. -/
structure Config where
  listen : Config.Listen := {}
  interception : Config.Interception := {}
  outbound : Config.Outbound := {}
  lookups : Config.Lookups := {}
  /-- The proxy that every request goes through. -/
  parent : Option String := none

namespace Config

/-- Why a configuration cannot be run. -/
inductive Fault
  | listenHost (host : String)
  | halfRoot
  | noValidity
  | noHandshakeTime
  | noConnectTime
  | noOutboundHandshakeTime
  | parentUri (text : String) (error : UriError)
  | parentWithoutHost (text : String)
  | parentScheme (scheme : String)

def Fault.message : Fault → String
  | .listenHost host => "Invalid listen host '" ++ host ++ "': " ++ IpAddr.invalidMessage
  | .halfRoot => "'mitm.ca_cert_path' and 'mitm.ca_key_path' must be provided together"
  | .noValidity => "'mitm.cert_validity_years' must be at least 1"
  | .noHandshakeTime => "'mitm.handshake_timeout_ms' must be greater than 0"
  | .noConnectTime => "'transport.connect_timeout_secs' must be greater than 0"
  | .noOutboundHandshakeTime => "'transport.tls_handshake_timeout_ms' must be greater than 0"
  | .parentUri text error => "Invalid upstream_proxy '" ++ text ++ "': " ++ error.message
  | .parentWithoutHost text => "upstream_proxy '" ++ text ++ "' has no host"
  | .parentScheme scheme =>
    "Unsupported upstream_proxy scheme '" ++ scheme ++ "'. Currently supported: http"

/-- The address to listen on. -/
def Listen.socketAddr (listen : Listen) : Except Fault SocketAddr :=
  match IpAddr.parse? listen.host with
  | some ip => .ok ⟨ip, listen.port.toNat, 0⟩
  | none => .error (.listenHost listen.host)

/-- The time limit for the handshake of an intercepted tunnel. -/
def Interception.handshakeTimeout (i : Interception) : Duration := .ofMillis i.handshakeMillis.toNat

def Outbound.connectTimeout (o : Outbound) : Duration := .ofSecs o.connectSecs.toNat

def Outbound.handshakeTimeout (o : Outbound) : Duration := .ofMillis o.handshakeMillis.toNat

def Lookups.ttl (l : Lookups) : Duration := .ofSecs l.ttlSecs.toNat

/-- The URI of a parent proxy: it has a host, and no scheme or that of plain HTTP. -/
def readParent (text : String) : Except Fault Uri := do
  let uri ← (Uri.parse text).mapError (.parentUri text)
  if uri.host?.isNone then throw (.parentWithoutHost text)
  match uri.scheme? with
  | none | some .http => return uri
  | some other => throw (.parentScheme other.text)

/-- The parent proxy, if there is one. -/
def parentProxy (config : Config) : Except Fault (Option Uri) := config.parent.mapM readParent

/-- Stops with a fault unless a condition holds. -/
def require (holds : Bool) (fault : Fault) : Except Fault Unit := if holds then .ok () else .error fault

/-- Accepts a configuration that can be run. -/
def validate (config : Config) : Except Fault Unit := do
  discard config.listen.socketAddr
  let interception := config.interception
  require (interception.certificatePath.isSome = interception.keyPath.isSome) .halfRoot
  require (interception.validityYears ≠ 0) .noValidity
  require (interception.handshakeMillis ≠ 0) .noHandshakeTime
  require (config.outbound.connectSecs ≠ 0) .noConnectTime
  require (config.outbound.handshakeMillis ≠ 0) .noOutboundHandshakeTime
  discard config.parentProxy

end Config

end Interceptor
