/-
# Interceptor.Config.Layout — the names of the settings

The layout lists the settings by the names that they have in a file, in the
order in which they are written, each with how it is read off a configuration
and put into one. Reading and writing both go by it.
-/
import Interceptor.Config

namespace Interceptor.Config

set_option autoImplicit false

/-- A setting, by what it holds. -/
inductive Setting
  | text (get : Config → String) (set : String → Config → Config)
  | optionalText (get : Config → Option String) (set : Option String → Config → Config)
  | flag (get : Config → Bool) (set : Bool → Config → Config)
  /-- A number of some bits, with the name of its kind. -/
  | number (kind : String) (bits : Nat) (get : Config → Nat) (set : Nat → Config → Config)

/-- Settings that stand together under one name. -/
structure Group where
  label : String
  settings : List (String × Setting)

/-- What stands at the outermost level. -/
inductive Entry
  | group (group : Group)
  | single (setting : Setting)

def inListen (change : Listen → Listen) (c : Config) : Config := { c with listen := change c.listen }

def inInterception (change : Interception → Interception) (c : Config) : Config :=
  { c with interception := change c.interception }

def inOutbound (change : Outbound → Outbound) (c : Config) : Config :=
  { c with outbound := change c.outbound }

/-- A number of seconds or milliseconds for outbound connections. -/
def outboundWord (get : Outbound → UInt64) (set : UInt64 → Outbound → Outbound) (kind : String) : Setting :=
  .number kind 64 (get ·.outbound |>.toNat) fun n => inOutbound (set (.ofNat n))

def listenGroup : Group where
  label := "ListenConfig"
  settings := [
    ("host", .text (·.listen.host) fun v => inListen ({ · with host := v })),
    ("port", .number "u16" 16 (·.listen.port.toNat) fun n => inListen ({ · with port := .ofNat n }))]

def interceptionGroup : Group where
  label := "MitmConfig"
  settings := [
    ("enabled", .flag (·.interception.enabled) fun v => inInterception ({ · with enabled := v })),
    ("ca_cert_path", .optionalText (·.interception.certificatePath) fun v =>
      inInterception ({ · with certificatePath := v })),
    ("ca_key_path", .optionalText (·.interception.keyPath) fun v => inInterception ({ · with keyPath := v })),
    ("reuse_key", .flag (·.interception.reuseKey) fun v => inInterception ({ · with reuseKey := v })),
    ("cert_validity_years", .number "u32" 32 (·.interception.validityYears.toNat) fun n =>
      inInterception ({ · with validityYears := .ofNat n })),
    ("handshake_timeout_ms", .number "u64" 64 (·.interception.handshakeMillis.toNat) fun n =>
      inInterception ({ · with handshakeMillis := .ofNat n }))]

def outboundGroup : Group where
  label := "TransportConfig"
  settings := [
    ("max_idle_per_host", outboundWord (·.maxIdlePerHost) (fun n o => { o with maxIdlePerHost := n }) "usize"),
    ("idle_timeout_secs", outboundWord (·.idleSecs) (fun n o => { o with idleSecs := n }) "u64"),
    ("keepalive_timeout_secs", outboundWord (·.keepaliveSecs) (fun n o => { o with keepaliveSecs := n }) "u64"),
    ("connect_timeout_secs", outboundWord (·.connectSecs) (fun n o => { o with connectSecs := n }) "u64"),
    ("tls_handshake_timeout_ms",
      outboundWord (·.handshakeMillis) (fun n o => { o with handshakeMillis := n }) "u64"),
    ("keepalive", .flag (·.outbound.keepalive) fun v => inOutbound ({ · with keepalive := v })),
    ("tls_skip_verify", .flag (·.outbound.skipVerify) fun v => inOutbound ({ · with skipVerify := v }))]

def lookupsGroup : Group where
  label := "DnsConfig"
  settings := [
    ("ttl_secs", .number "u64" 64 (·.lookups.ttlSecs.toNat) fun n c =>
      { c with lookups := { ttlSecs := .ofNat n } })]

/-- All settings. -/
def layout : List (String × Entry) := [
  ("listen", .group listenGroup),
  ("mitm", .group interceptionGroup),
  ("transport", .group outboundGroup),
  ("dns", .group lookupsGroup),
  ("upstream_proxy", .single (.optionalText (·.parent) fun v c => { c with parent := v }))]

end Interceptor.Config
