/-
# Interceptor.Http.UriReader — reading request targets

A text that begins with `/` is a path; `*` alone is one too. A text with a
scheme (`name://`) must go on with an authority. Any other text is an
authority as a whole. A scheme is at most 64 characters of letters, digits,
`+`, `-`, `.` and `~`; `http` and `https` are known in any case.
-/
import Interceptor.Http.Uri

namespace Interceptor.Http

set_option autoImplicit false

/-- The longest target, in bytes. -/
def maxUriBytes : Nat := 65534

/-- The longest scheme. -/
def maxSchemeLength : Nat := 64

/-- Characters of a scheme. -/
def isSchemeChar (c : Char) : Bool :=
  isAlphanumeric c || c == '+' || c == '-' || c == '.' || c == '~'

/-- An ASCII letter in lower case; any other character as it is. -/
def lowerAscii (c : Char) : Char :=
  if 'A' ≤ c ∧ c ≤ 'Z' then Char.ofNat (c.toNat + 32) else c

/-- A text in lower case, ASCII letters only. -/
def lowerAsciiText (cs : List Char) : List Char := cs.map lowerAscii

/-- The scheme in front of `://` and what follows, if a text has one. -/
def readScheme (cs : List Char) : Except UriError (Option (Scheme × List Char)) :=
  if lowerAsciiText (cs.take 7) = "http://".toList then .ok (some (.http, cs.drop 7))
  else if lowerAsciiText (cs.take 8) = "https://".toList then .ok (some (.https, cs.drop 8))
  else if cs.length ≤ 3 then .ok none
  else
    let name := cs.takeWhile isSchemeChar
    match cs.drop name.length with
    | ':' :: '/' :: '/' :: rest =>
      if maxSchemeLength < name.length then .error .schemeTooLong
      else .ok (some (.other (String.ofList name), rest))
    | _ => .ok none

/-- Reads an authority, and behind a scheme a path and a query. -/
def readWithAuthority (cs : List Char) : Except UriError Uri := do
  match ← readScheme cs with
  | none =>
    let part := cs.takeWhile fun c => !endsAuthority c
    Authority.check part
    if part.length ≠ cs.length then throw .invalidFormat
    return .authority (← Authority.parse (String.ofList cs))
  | some (scheme, rest) =>
    let part := rest.takeWhile fun c => !endsAuthority c
    if rest.isEmpty then throw .empty
    Authority.check part
    if part.isEmpty then throw .invalidFormat
    let authority ← Authority.parse (String.ofList part)
    return .absolute scheme authority (← PathAndQuery.parse (rest.drop part.length))

/-- Reads a request target. -/
def Uri.parse (text : String) : Except UriError Uri :=
  if maxUriBytes < text.utf8ByteSize then .error .tooLong
  else
    match text.toList with
    | [] => .error .empty
    | ['/'] => .ok slash
    | ['*'] => .ok (.origin .star)
    | [_] => (Authority.parse text).map .authority
    | '/' :: rest => (PathAndQuery.parse ('/' :: rest)).map .origin
    | cs => readWithAuthority cs

end Interceptor.Http
