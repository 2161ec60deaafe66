/-
# Interceptor.Http.Header — header fields

A header name is a token of at most 65535 characters, kept in lower case. A
value is a byte sequence without control characters other than the tab; it is
readable as text when all of it is visible ASCII.

`Headers` is a list of fields in the order they were added. Names may repeat,
and the values of one name keep their order. Hop-by-hop fields are meant for
the next proxy alone: `stripHops` takes all of them away and
leaves every other field where it was.
-/
import Interceptor.Http.Method
import Interceptor.Http.UriReader

namespace Interceptor.Http

set_option autoImplicit false

/-- A header name, in lower case. -/
structure HeaderName where
  text : String
  deriving DecidableEq, Repr

namespace HeaderName

/-- The longest header name. -/
def maxLength : Nat := 65535

def parse? (text : String) : Option HeaderName :=
  let cs := text.toList
  if cs ≠ [] && cs.length ≤ maxLength && cs.all isTokenChar then
    some ⟨String.ofList (lowerAsciiText cs)⟩
  else none

/-- The message for a text that is no header name. -/
def invalidMessage : String := "invalid HTTP header name"

def host : HeaderName := ⟨"host"⟩
def proxyConnection : HeaderName := ⟨"proxy-connection"⟩
def keepAlive : HeaderName := ⟨"keep-alive"⟩
def proxyAuthenticate : HeaderName := ⟨"proxy-authenticate"⟩
def proxyAuthorization : HeaderName := ⟨"proxy-authorization"⟩

end HeaderName

/-- The value of a header field. -/
structure HeaderValue where
  bytes : List UInt8
  deriving DecidableEq, Repr

namespace HeaderValue

def isValidByte (b : UInt8) : Bool := (32 ≤ b && b != 127) || b == 9

def isVisibleByte (b : UInt8) : Bool := (32 ≤ b && b < 127) || b == 9

def ofBytes? (bytes : List UInt8) : Option HeaderValue :=
  if bytes.all isValidByte then some ⟨bytes⟩ else none

/-- The message for bytes that are no header value. -/
def invalidMessage : String := "failed to parse header value"

/-- The value as text, when all of it is visible. -/
def text? (v : HeaderValue) : Option String :=
  if v.bytes.all isVisibleByte then
    some (String.ofList (v.bytes.map fun b => Char.ofNat b.toNat))
  else none

/-- A text as a value, when all of it is visible. -/
def ofText? (text : String) : Option HeaderValue :=
  let bytes := text.toUTF8.toList
  if bytes.all isVisibleByte then some ⟨bytes⟩ else none

end HeaderValue

/-- Header fields in the order they were added. -/
structure Headers where
  fields : List (HeaderName × HeaderValue)
  deriving DecidableEq, Repr

namespace Headers

def empty : Headers := ⟨[]⟩

instance : Inhabited Headers := ⟨empty⟩
instance : EmptyCollection Headers := ⟨empty⟩

/-- The number of values. -/
def size (h : Headers) : Nat := h.fields.length

/-- The distinct names, in the order they first appear. -/
def names (h : Headers) : List HeaderName :=
  (h.fields.map (·.1)).eraseDups

/-- The values of a name, in order. -/
def values (h : Headers) (name : HeaderName) : List HeaderValue :=
  (h.fields.filter (·.1 = name)).map (·.2)

/-- The first value of a name. -/
def get? (h : Headers) (name : HeaderName) : Option HeaderValue :=
  (h.values name).head?

def contains (h : Headers) (name : HeaderName) : Bool :=
  h.fields.any (·.1 = name)

/-- Adds a value behind those that are there. -/
def append (h : Headers) (name : HeaderName) (value : HeaderValue) : Headers :=
  ⟨h.fields ++ [(name, value)]⟩

/-- Takes every value of a name away. -/
def erase (h : Headers) (name : HeaderName) : Headers :=
  ⟨h.fields.filter (·.1 ≠ name)⟩

/-- Makes `value` the only value of a name. -/
def insert (h : Headers) (name : HeaderName) (value : HeaderValue) : Headers :=
  (h.erase name).append name value

/-- Takes every field away. -/
def clear (_ : Headers) : Headers := empty

/-- Puts a copy of every field of `source` in place of what was there. -/
def overwrite (h source : Headers) : Headers :=
  source.fields.foldl (fun copy field => copy.append field.1 field.2) h.clear

/-- The names of the fields meant for this proxy alone. -/
def hopNames : List HeaderName :=
  [.proxyConnection, .keepAlive, .proxyAuthenticate, .proxyAuthorization]

/-- They are these four, and no others. -/
theorem mem_hopNames {name : HeaderName} : name ∈ hopNames ↔ name.text ∈
    ["proxy-connection", "keep-alive", "proxy-authenticate", "proxy-authorization"] := by
  obtain ⟨text⟩ := name
  simp [hopNames, HeaderName.proxyConnection, HeaderName.keepAlive, HeaderName.proxyAuthenticate,
    HeaderName.proxyAuthorization]

/-- Takes the hop-by-hop fields away. -/
def stripHops (h : Headers) : Headers :=
  ⟨h.fields.filter fun field => !hopNames.contains field.1⟩

/-- The first `Host` value, when it is readable as text. -/
def hostText? (h : Headers) : Option String :=
  (h.get? .host).bind HeaderValue.text?

theorem foldl_append (fields : List (HeaderName × HeaderValue)) (h : Headers) :
    fields.foldl (fun copy field => copy.append field.1 field.2) h = ⟨h.fields ++ fields⟩ := by
  induction fields generalizing h with
  | nil => simp
  | cons field fields ih =>
    rw [List.foldl_cons, ih]
    simp [append]

/-- Nothing of what was there is left, and nothing of what is copied is lost. -/
@[simp] theorem overwrite_eq (h source : Headers) : h.overwrite source = source :=
  foldl_append source.fields h.clear

theorem values_stripHops (h : Headers) (name : HeaderName) :
    h.stripHops.values name = if name ∈ hopNames then [] else h.values name := by
  by_cases hn : name ∈ hopNames
  · simp only [values, stripHops, hn, if_true, List.filter_filter]
    rw [List.filter_eq_nil_iff.2]
    · rfl
    · rintro ⟨n, v⟩ _
      by_cases h' : n = name <;> simp [h', hn]
  · simp only [values, stripHops, hn, if_false, List.filter_filter]
    congr 1
    apply List.filter_congr
    rintro ⟨n, v⟩ _
    by_cases h' : n = name <;> simp [h', hn]

theorem stripHops_stripHops (h : Headers) : h.stripHops.stripHops = h.stripHops := by
  simp [stripHops, List.filter_filter]

end Headers

end Interceptor.Http
