/-
# Interceptor.Http.Uri — request targets

A request target has one of three forms: a path alone (`/a?b`, or `*`), an
authority alone (`example.com:443`), or all of it (`http://example.com/a?b`).
`Uri` has one constructor for each, so that a scheme never stands without an
authority.

An authority is a text that `Authority.check` accepts: characters that may
stand in an authority, square brackets at most once and in order, at most one
colon outside of them, user information before an `@`. What follows the host
need not be a number: `port?` is none for a text that is no port, exactly as
when nothing is written.

`PathAndQuery` keeps the path as written, so an empty one stays empty until it
is read (`pathText`) or written (`render`), where it is `/`.
-/
import Interceptor.Text.Split
import Interceptor.Text.Unsigned

namespace Interceptor.Http

set_option autoImplicit false

open Text

/-- Why a text is not a request target, an authority or a path. -/
inductive UriError
  | invalidCharacter
  | invalidAuthority
  | invalidFormat
  | empty
  | tooLong
  | schemeTooLong
  deriving DecidableEq, Repr

def UriError.message : UriError → String
  | .invalidCharacter => "invalid uri character"
  | .invalidAuthority => "invalid authority"
  | .invalidFormat => "invalid format"
  | .empty => "empty string"
  | .tooLong => "uri too long"
  | .schemeTooLong => "scheme too long"

/-- The scheme of a target. A scheme other than `http` and `https` keeps its spelling. -/
inductive Scheme
  | http
  | https
  | other (name : String)
  deriving DecidableEq, Repr

def Scheme.text : Scheme → String
  | .http => "http"
  | .https => "https"
  | .other name => name

/-- Letters and digits of ASCII. -/
def isAlphanumeric (c : Char) : Bool :=
  ('a' ≤ c && c ≤ 'z') || ('A' ≤ c && c ≤ 'Z') || ('0' ≤ c && c ≤ '9')

/-- Characters that may stand in an authority, apart from a percent sign. -/
def isUriChar (c : Char) : Bool :=
  isAlphanumeric c || "!#$&'()*+,-./:;=?@[]_~".toList.contains c

/-- Characters at which an authority ends. -/
def endsAuthority (c : Char) : Bool :=
  c == '/' || c == '?' || c == '#'

/-- An authority as far as it has been read. -/
structure AuthorityScan where
  /-- Colons since the last bracket or `@`. -/
  colons : Nat := 0
  opened : Bool := false
  closed : Bool := false
  /-- Whether a percent sign stands outside the user information so far. -/
  percent : Bool := false
  /-- Whether the last character was an `@`. -/
  atSign : Bool := false

/-- The largest number of colons that may stand in a row of groups. -/
def maxColons : Nat := 8

/-- Reads one character of an authority. -/
def AuthorityScan.step (s : AuthorityScan) (c : Char) : Except UriError AuthorityScan :=
  let s := { s with atSign := c == '@' }
  if c = ':' then
    if maxColons ≤ s.colons then .error .invalidAuthority
    else .ok { s with colons := s.colons + 1 }
  else if c = '[' then
    if s.percent || s.opened then .error .invalidAuthority
    else .ok { s with opened := true }
  else if c = ']' then
    if !s.opened || s.closed then .error .invalidAuthority
    else .ok { s with closed := true, colons := 0, percent := false }
  else if c = '@' then .ok { s with colons := 0, percent := false }
  else if c = '%' then .ok { s with percent := true }
  else if isUriChar c then .ok s
  else .error .invalidCharacter

/-- What must hold at the end of an authority. -/
def AuthorityScan.finish (s : AuthorityScan) : Except UriError Unit :=
  if s.opened != s.closed then .error .invalidAuthority
  else if 1 < s.colons then .error .invalidAuthority
  else if s.atSign then .error .invalidAuthority
  else if s.percent then .error .invalidAuthority
  else .ok ()

/-- Checks the characters of an authority, which may be none. -/
def Authority.check (cs : List Char) : Except UriError Unit :=
  cs.foldlM AuthorityScan.step {} >>= AuthorityScan.finish

/-- User information, host and port of a target, as written. -/
structure Authority where
  text : String
  nonempty : text.toList ≠ []
  whole : text.toList.all (fun c => !endsAuthority c) = true
  checked : (Authority.check text.toList).isOk = true
  deriving DecidableEq

namespace Authority

/-- Reads a text as an authority. -/
def parse (text : String) : Except UriError Authority :=
  let cs := text.toList
  let part := cs.takeWhile (fun c => !endsAuthority c)
  if hne : cs = [] then .error .empty
  else
    match check part with
    | .error e => .error e
    | .ok () =>
      if hw : cs.all (fun c => !endsAuthority c) = true then
        if hc : (check cs).isOk = true then .ok ⟨text, hne, hw, hc⟩ else .error .invalidCharacter
      else .error .invalidCharacter

/-- An authority that is read from a text is that text. -/
theorem text_of_parse {text : String} {a : Authority} (parsed : parse text = .ok a) :
    a.text = text := by
  unfold parse at parsed
  simp only at parsed
  split at parsed
  · exact nomatch parsed
  split at parsed
  · exact nomatch parsed
  split at parsed
  · split at parsed
    · cases parsed
      rfl
    · exact nomatch parsed
  · exact nomatch parsed

/-- What follows the last `@`. -/
def hostPort (a : Authority) : List Char :=
  match splitLast? '@' a.text.toList with
  | some (_, rest) => rest
  | none => a.text.toList

/-- The host: through the closing bracket, or up to the first colon. -/
def hostChars (a : Authority) : List Char :=
  match a.hostPort with
  | '[' :: rest =>
    match splitFirst? ']' rest with
    | some (inner, _) => '[' :: inner ++ [']']
    | none => '[' :: rest
  | host =>
    match splitFirst? ':' host with
    | some (name, _) => name
    | none => host

/-- The host, with its brackets. -/
def host (a : Authority) : String := String.ofList a.hostChars

/-- The port, when what follows the last colon is one. -/
def port? (a : Authority) : Option Nat :=
  (splitLast? ':' a.text.toList).bind fun (_, port) => Unsigned.readPort? port

end Authority

/-- Characters that may stand in a path. -/
def isPathChar (c : Char) : Bool :=
  c == '!' || ('$' ≤ c && c ≤ ';') || c == '=' || ('@' ≤ c && c ≤ '_') || ('a' ≤ c && c ≤ 'z') ||
    c == '|' || c == '~' || 128 ≤ c.toNat || c == '"' || c == '\x7b' || c == '\x7d'

/-- Characters that may stand in a query. -/
def isQueryChar (c : Char) : Bool :=
  c == '!' || ('$' ≤ c && c ≤ ';') || c == '=' || ('?' ≤ c && c ≤ '~') || 128 ≤ c.toNat

/-- The path and the query of a target, as written. -/
structure PathAndQuery where
  path : String
  query : Option String
  pathChecked : path.toList.all isPathChar = true
  queryChecked : (query.map fun q => q.toList.all isQueryChar).getD true = true
  deriving DecidableEq

namespace PathAndQuery

/-- The path `/`. -/
def slash : PathAndQuery := ⟨"/", none, by decide, rfl⟩

/-- The path `*`, which stands for no resource in particular. -/
def star : PathAndQuery := ⟨"*", none, by decide, rfl⟩

/-- Reads a path and a query, and drops a fragment. -/
def parse (cs : List Char) : Except UriError PathAndQuery :=
  let path := cs.takeWhile fun c => c != '?' && c != '#'
  if hp : (String.ofList path).toList.all isPathChar = true then
    match cs.drop path.length with
    | '?' :: rest =>
      let query := rest.takeWhile (· != '#')
      if hq : (String.ofList query).toList.all isQueryChar = true then
        .ok ⟨String.ofList path, some (String.ofList query), hp, hq⟩
      else .error .invalidCharacter
    | _ => .ok ⟨String.ofList path, none, hp, rfl⟩
  else .error .invalidCharacter

/-- The path, where an empty one is `/`. -/
def pathText (p : PathAndQuery) : String :=
  if p.path.isEmpty then "/" else p.path

/-- The query behind its question mark, or nothing. -/
def queryText (p : PathAndQuery) : String :=
  match p.query with
  | some query => "?" ++ query
  | none => ""

/-- The path and the query as one text. -/
def render (p : PathAndQuery) : String := p.pathText ++ p.queryText

/-- The text as it was written, where nothing at all is `/`. -/
def written (p : PathAndQuery) : String :=
  let text := p.path ++ p.queryText
  if text.isEmpty then "/" else text

end PathAndQuery

/-- A request target. -/
inductive Uri
  | origin (target : PathAndQuery)
  | authority (authority : Authority)
  | absolute (scheme : Scheme) (authority : Authority) (target : PathAndQuery)
  deriving DecidableEq

namespace Uri

/-- The target `/`. -/
def slash : Uri := .origin .slash

instance : Inhabited Uri := ⟨slash⟩

def scheme? : Uri → Option Scheme
  | .absolute scheme _ _ => some scheme
  | _ => none

def authority? : Uri → Option Authority
  | .authority a => some a
  | .absolute _ a _ => some a
  | .origin _ => none

def pathAndQuery? : Uri → Option PathAndQuery
  | .origin target => some target
  | .absolute _ _ target => some target
  | .authority _ => none

/-- The host, with the brackets of an IPv6 address. -/
def host? (uri : Uri) : Option String := uri.authority?.map Authority.host

/-- The port, when one is written that can be read. -/
def port? (uri : Uri) : Option Nat := uri.authority?.bind Authority.port?

def isHttps (uri : Uri) : Bool := uri.scheme? = some .https

/-- The target as text. -/
def render : Uri → String
  | .origin target => target.render
  | .authority a => a.text
  | .absolute scheme a target => scheme.text ++ "://" ++ a.text ++ target.render

instance : ToString Uri := ⟨render⟩

end Uri

end Interceptor.Http
