/-
# Interceptor.Http.Method — methods and status codes

A method is a token of at least one character; its case matters. A status code
is a number from 100 to 999, written with the phrase registered for it.
-/
import Interceptor.Http.Uri

namespace Interceptor.Http

set_option autoImplicit false

/-- Characters of a token. -/
def isTokenChar (c : Char) : Bool :=
  isAlphanumeric c || "!#$%&'*+-.^_|~".toList.contains c || c.toNat == 0x60

/-- A request method. -/
structure Method where
  name : String
  deriving DecidableEq, Repr

namespace Method

def get : Method := ⟨"GET"⟩

def connect : Method := ⟨"CONNECT"⟩

instance : Inhabited Method := ⟨get⟩

def parse? (text : String) : Option Method :=
  if text.toList ≠ [] && text.toList.all isTokenChar then some ⟨text⟩ else none

/-- The message for a text that is no method. -/
def invalidMessage : String := "invalid HTTP method"

end Method

/-- A status code. -/
structure Status where
  code : Nat
  valid : 100 ≤ code ∧ code < 1000 := by decide
  deriving DecidableEq, Repr

namespace Status

def ok : Status := ⟨200, by decide⟩

def badGateway : Status := ⟨502, by decide⟩

def imATeapot : Status := ⟨418, by decide⟩

instance : Inhabited Status := ⟨ok⟩

/-- The status of a number, cut to 16 bits first. -/
def ofNat? (n : Nat) : Option Status :=
  let code := n % 65536
  if h : 100 ≤ code ∧ code < 1000 then some ⟨code, h⟩ else none

/-- The message for a number that is no status code. -/
def invalidMessage : String := "invalid status code"

/-- The registered phrases. -/
def phrases : List (Nat × String) :=
  [(100, "Continue"), (101, "Switching Protocols"), (102, "Processing"), (103, "Early Hints"),
   (200, "OK"), (201, "Created"), (202, "Accepted"), (203, "Non Authoritative Information"),
   (204, "No Content"), (205, "Reset Content"), (206, "Partial Content"), (207, "Multi-Status"),
   (208, "Already Reported"), (226, "IM Used"), (300, "Multiple Choices"),
   (301, "Moved Permanently"), (302, "Found"), (303, "See Other"), (304, "Not Modified"),
   (305, "Use Proxy"), (307, "Temporary Redirect"), (308, "Permanent Redirect"),
   (400, "Bad Request"), (401, "Unauthorized"), (402, "Payment Required"), (403, "Forbidden"),
   (404, "Not Found"), (405, "Method Not Allowed"), (406, "Not Acceptable"),
   (407, "Proxy Authentication Required"), (408, "Request Timeout"), (409, "Conflict"),
   (410, "Gone"), (411, "Length Required"), (412, "Precondition Failed"),
   (413, "Payload Too Large"), (414, "URI Too Long"), (415, "Unsupported Media Type"),
   (416, "Range Not Satisfiable"), (417, "Expectation Failed"), (418, "I'm a teapot"),
   (421, "Misdirected Request"), (422, "Unprocessable Entity"), (423, "Locked"),
   (424, "Failed Dependency"), (425, "Too Early"), (426, "Upgrade Required"),
   (428, "Precondition Required"), (429, "Too Many Requests"),
   (431, "Request Header Fields Too Large"), (451, "Unavailable For Legal Reasons"),
   (500, "Internal Server Error"), (501, "Not Implemented"), (502, "Bad Gateway"),
   (503, "Service Unavailable"), (504, "Gateway Timeout"), (505, "HTTP Version Not Supported"),
   (506, "Variant Also Negotiates"), (507, "Insufficient Storage"), (508, "Loop Detected"),
   (510, "Not Extended"), (511, "Network Authentication Required")]

/-- The code and its phrase. -/
def render (s : Status) : String :=
  toString s.code ++ " " ++ ((phrases.lookup s.code).getD "<unknown status code>")

end Status

end Interceptor.Http
