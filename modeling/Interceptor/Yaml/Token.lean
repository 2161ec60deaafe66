/-
# Interceptor.Yaml.Token — the words and signs of a document

A token is one sign of the notation (a bracket, a dash, a colon), the start or
end of an indented structure, which is not written at all, or a word: a scalar,
an anchor, a reference, a tag or a directive. Each has the mark where it starts and
the mark where it stops.

The readers below take the cursor to the first character of a word and give what
the word means and the cursor behind it, or an error when it is not well formed.
An error refers to the place `start` where the word begins.
-/
import Interceptor.Yaml.Scalar

namespace Interceptor.Yaml

set_option autoImplicit false

/-- What a token means. -/
inductive Sign
  | versionDirective (major minor : Nat)
  /-- Says which beginning a tag's handle stands for. -/
  | tagDirective (handle beginning : String)
  | documentStart
  | documentEnd
  | blockSequenceStart
  | blockMappingStart
  | blockEnd
  | flowSequenceStart
  | flowSequenceEnd
  | flowMappingStart
  | flowMappingEnd
  | blockEntry
  | flowEntry
  | key
  | value
  | reference (name : String)
  | anchor (name : String)
  /-- A tag: an empty handle stands for an empty beginning. -/
  | tag (handle suffix : String)
  | scalar (text : String) (style : ScalarStyle)
  | streamEnd
  deriving DecidableEq

/-- A sign and the stretch of text that it takes. -/
structure Token where
  sign : Sign
  start : Mark
  stop : Mark

/-- Whether a character may stand in the name of an anchor, of a handle or of a directive. -/
def isWordChar (c : Char) : Bool := c.isAlphanum || c = '_' || c = '-'

/-! ## Anchors -/

/-- Reads the name of an anchor or of a reference behind its sign. -/
def readAnchorName (pursuit : Pursuit) (cursor : Cursor) : Scanned (String × Cursor) :=
  let (name, after) := cursor.skip.takeWhile isWordChar
  if !name.isEmpty
      && (isGap after.peek || after.peek.any (· ∈ ['?', ':', ',', ']', '}', '%', '@', '`'])) then
    .ok (String.ofList name, after)
  else after.refuse .missingName pursuit cursor.mark

/-! ## Tags -/

/-- Whether a character may stand in a tag as it is; `verbatim` tags allow brackets and commas. -/
def isTagChar (verbatim : Bool) (c : Char) : Bool :=
  isWordChar c || c ∈ ";/?:@&=+$.!~*'()".toList || verbatim && c ∈ [',', '[', ']']

/-- The octet that an escape in front of the text writes. -/
def octet? : List Char → Option Nat
  | '%' :: high :: low :: _ => do return (← hexDigit? high) * 16 + (← hexDigit? low)
  | _ => none

/-- How many octets follow the first one of an encoded character. -/
def trailingOctets? (first : Nat) : Option Nat :=
  if first < 0x80 then some 0
  else if first / 0x20 = 0x06 then some 1
  else if first / 0x10 = 0x0e then some 2
  else if first / 0x08 = 0x1e then some 3
  else none

/-- Reads the octet that an escape at the cursor writes. -/
def readOctet (pursuit : Pursuit) (start : Mark) (cursor : Cursor) : Scanned Nat :=
  (octet? cursor.rest).elim (cursor.refuse .missingOctet pursuit start) .ok

/-- Reads escapes of `count` octets that continue a character. -/
def readTrailing (pursuit : Pursuit) (start : Mark) : Nat → Cursor → Scanned (List Char × Cursor)
  | 0, cursor => .ok ([], cursor)
  | count + 1, cursor => do
    let octet ← readOctet pursuit start cursor
    if octet / 0x40 ≠ 2 then cursor.refuse .trailingOctet pursuit start
    let (more, cursor) ← readTrailing pursuit start count (cursor.advance 3)
    return (Char.ofNat octet :: more, cursor)

/-- Reads the characters of a tag. An escaped octet is kept as the character of its number. -/
def readTagChars (verbatim : Bool) (pursuit : Pursuit) (start : Mark) :
    Nat → Cursor → Scanned (List Char × Cursor)
  | 0, cursor => .ok ([], cursor)
  | fuel + 1, cursor =>
    match cursor.peek with
    | none => .ok ([], cursor)
    | some c =>
      if c = '%' then do
        let first ← readOctet pursuit start cursor
        let some count := trailingOctets? first | cursor.refuse .leadingOctet pursuit start
        let (trailing, cursor) ← readTrailing pursuit start count (cursor.advance 3)
        let (more, cursor) ← readTagChars verbatim pursuit start fuel cursor
        return (Char.ofNat first :: trailing ++ more, cursor)
      else if isTagChar verbatim c then do
        let (more, cursor) ← readTagChars verbatim pursuit start fuel cursor.skip
        return (c :: more, cursor)
      else .ok ([], cursor)

/-- What a part of a tag says: an escaped NUL ends it. -/
def tagText (chars : List Char) : List Char := chars.takeWhile (· ≠ '\x00')

/-- Reads the rest of a tag, which may not be empty. -/
def readTagRest (verbatim : Bool) (pursuit : Pursuit) (start : Mark) (cursor : Cursor) :
    Scanned (List Char × Cursor) := do
  let (text, after) ← readTagChars verbatim pursuit start cursor.rest.length cursor
  if text.isEmpty then after.refuse .missingTag pursuit start
  return (tagText text, after)

/-- Reads `!` and a word, with the `!` behind it if there is one. -/
def readHandle (pursuit : Pursuit) (start : Mark) (cursor : Cursor) : Scanned (List Char × Cursor) :=
  if cursor.peek = some '!' then
    let (word, after) := cursor.skip.takeWhile isWordChar
    if after.peek = some '!' then .ok ('!' :: word ++ ['!'], after.skip)
    else .ok ('!' :: word, after)
  else cursor.refuse .missingTagMark pursuit start

/-- Whether what was read is a handle: it ends as it begins. -/
def isHandle (handle : List Char) : Bool := 2 ≤ handle.length && handle.getLast? = some '!'

/-- Reads a tag: handle and suffix. The tag `!` has no handle. -/
def readTagName (cursor : Cursor) : Scanned (String × String × Cursor) :=
  let start := cursor.mark
  if cursor.ahead 1 = some '<' then do
    let (text, after) ← readTagRest true .tagText start (cursor.advance 2)
    if after.peek ≠ some '>' then after.refuse .unclosedTag .tag start
    return ("", String.ofList text, after.skip)
  else do
    let (handle, after) ← readHandle .tag start cursor
    if isHandle handle then
      let (suffix, after) ← readTagRest false .tagText start after
      return (String.ofList handle, String.ofList suffix, after)
    else
      let (more, after) ← readTagChars false .tagText start after.rest.length after
      match tagText (handle.drop 1 ++ more) with
      | [] => return ("", "!", after)
      | suffix => return ("!", String.ofList suffix, after)

/-- Reads a tag and makes sure that it ends there. -/
def readTag (inFlow : Bool) (cursor : Cursor) : Scanned (Sign × Cursor) := do
  let (handle, suffix, after) ← readTagName cursor
  if !(isGap after.peek || inFlow && after.peek = some ',') then
    after.refuse .missingGap .tag cursor.mark
  return (.tag handle suffix, after)

/-! ## Directives -/

/-- Reads a number of at most nine digits. -/
def readShortNumber (start : Mark) (cursor : Cursor) : Scanned (Nat × Cursor) :=
  let (digits, after) := cursor.takeWhile Char.isDigit
  if digits.isEmpty then after.refuse .missingVersion .versionDirective start
  else if 9 < digits.length then (cursor.advance 9).refuse .longVersion .versionDirective start
  else .ok (digits.foldl (fun n d => n * 10 + (d.toNat - 48)) 0, after)

/-- Reads a version: two numbers with a point between them. -/
def readVersion (start : Mark) (cursor : Cursor) : Scanned (Sign × Cursor) := do
  let (major, cursor) ← readShortNumber start cursor
  if cursor.peek ≠ some '.' then cursor.refuse .missingVersionPoint .versionDirective start
  let (minor, cursor) ← readShortNumber start cursor.skip
  return (.versionDirective major minor, cursor)

/-- Reads a handle and the beginning that it stands for. -/
def readHandleMeaning (start : Mark) (cursor : Cursor) : Scanned (Sign × Cursor) := do
  let (handle, cursor) ← readHandle .directiveSign start cursor
  if !(handle = ['!'] || isHandle handle) then cursor.refuse .missingTagMark .directiveHandle start
  if !cursor.peek.any isBlank then cursor.refuse .missingBlank .tagDirective start
  let (beginning, cursor) ← readTagRest true .directiveTag start (cursor.skipWhile isBlank)
  if !isGap cursor.peek then cursor.refuse .missingGap .tagDirective start
  return (.tagDirective (String.ofList handle) (String.ofList beginning), cursor)

/-- Reads a directive up to the end of its words, and the cursor behind its line. -/
def readDirective (cursor : Cursor) : Scanned (Sign × Mark × Cursor) := do
  let start := cursor.mark
  let (name, cursor) := cursor.skip.takeWhile isWordChar
  if name.isEmpty then cursor.refuse .missingDirectiveName .directive start
  if !isGap cursor.peek then cursor.refuse .directiveCharacter .directive start
  let words := cursor.skipWhile isBlank
  let (sign, cursor) ←
    if name = ['Y', 'A', 'M', 'L'] then readVersion start words
    else if name = ['T', 'A', 'G'] then readHandleMeaning start words
    else cursor.refuse .unknownDirective .directive start
  let stop := cursor.mark
  let cursor := cursor.skipWhile isBlank
  let cursor := if cursor.peek = some '#' then cursor.skipWhile (!isBreak ·) else cursor
  if !cursor.peek.all isBreak then cursor.refuse .missingLineEnd .directive start
  return (sign, stop, cursor.skipBreak)

end Interceptor.Yaml
