/-
# Interceptor.Http.Message — bodies, requests and responses

A body carries its bytes together with what it says of itself before it is
read: whether it is over, and bounds on its size. A body made from bytes knows
its size exactly.
-/
import Interceptor.Http.Header

namespace Interceptor.Http

set_option autoImplicit false

/-- The protocol version of a message. -/
inductive Version
  | http09
  | http10
  | http11
  | http2
  | http3
  deriving DecidableEq, Repr

namespace Version

instance : Inhabited Version := ⟨.http11⟩

def all : List Version := [.http09, .http10, .http11, .http2, .http3]

def text : Version → String
  | .http09 => "HTTP/0.9"
  | .http10 => "HTTP/1.0"
  | .http11 => "HTTP/1.1"
  | .http2 => "HTTP/2.0"
  | .http3 => "HTTP/3.0"

def parse? (text : String) : Option Version :=
  all.find? (·.text = text)

end Version

/-- A message body. -/
structure Body where
  bytes : List UInt8
  /-- Whether nothing is left to read. -/
  ended : Bool
  /-- The least number of bytes that remain. -/
  lower : Nat
  /-- The largest number of bytes that remain, where it is known. -/
  upper : Option Nat
  deriving DecidableEq, Repr

namespace Body

/-- A body that holds these bytes and nothing else. -/
def full (bytes : List UInt8) : Body :=
  ⟨bytes, bytes.isEmpty, bytes.length, some bytes.length⟩

def empty : Body := full []

instance : Inhabited Body := ⟨empty⟩

end Body

/-- A request. -/
structure Request where
  method : Method := .get
  uri : Uri := .slash
  version : Version := .http11
  headers : Headers := .empty
  body : Body := .empty
  /-- The proxy that whoever sends it goes through. It is no part of the message. -/
  parent : Option Uri := none
  deriving DecidableEq

instance : Inhabited Request := ⟨{}⟩

/-- A response. -/
structure Response where
  status : Status := .ok
  /-- A phrase that replaces the registered one. -/
  reason : Option String := none
  headers : Headers := .empty
  body : Body := .empty
  deriving DecidableEq

namespace Response

instance : Inhabited Response := ⟨{}⟩

/-- A response without a body. -/
def ofStatus (status : Status) : Response := { status }

end Response

end Interceptor.Http
