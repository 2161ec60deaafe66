/-
# Interceptor.Yaml.Token.Scan — the tokens of a text

A text is read from left to right. Two things cannot be told from the characters
at hand and are kept track of instead.

* Indentation. Outside brackets, a structure begins where a key or a dash stands
  further to the right than the structure around it, and ends where something
  stands to its left.
* Simple keys. A key without a question mark is known to be one only at the
  colon behind it. Each place where one may have begun is remembered, one for
  every level of brackets, and the tokens that announce the key are put in there
  once the colon is seen. A simple key stays on one line and within 1024
  bytes. One that begins a line of the current structure must turn out to
  be a key.

`Tokens.ofText` gives the tokens of a text, the last of which is the end of the
stream. When the text is not well formed it gives the tokens that can be told
before that shows, and the error.
-/
import Interceptor.Yaml.Token

namespace Interceptor.Yaml

set_option autoImplicit false

/-- A place where a key may have begun. -/
structure SimpleKey where
  /-- Whether it has to be a key. -/
  required : Bool
  /-- The number of its first token. -/
  token : Nat
  mark : Mark

/-- Whether a key that began there can no longer end at `now`. -/
def SimpleKey.isStale (key : SimpleKey) (now : Mark) : Bool :=
  key.mark.line < now.line || key.mark.index + 1024 < now.index

/-- A text that has been read in part. -/
structure Scan where
  cursor : Cursor
  tokens : Array Token := #[]
  /-- The column of the current structure, and those around it; nothing at the outermost level. -/
  indents : List Nat := []
  /-- The place of the current level of brackets where a key may have begun. -/
  simpleKey : Option SimpleKey := none
  /-- Those of the levels around it. -/
  outerKeys : List (Option SimpleKey) := []
  /-- Whether a key may begin here. -/
  keyAllowed : Bool := true

namespace Scan

/-- Whether the cursor stands inside brackets. -/
def inFlow (s : Scan) : Bool := !s.outerKeys.isEmpty

/-- Whether the current structure is indented less than `column`. -/
def isInside (s : Scan) (column : Nat) : Bool := s.indents.head?.all (· < column)

def push (s : Scan) (token : Token) : Scan := { s with tokens := s.tokens.push token }

/-- Adds a sign of some characters and goes over them. -/
def sign (s : Scan) (sign : Sign) (width : Nat) : Scan :=
  let after := s.cursor.advance width
  { s.push ⟨sign, s.cursor.mark, after.mark⟩ with cursor := after }

/-- Adds a word that was read up to `after`. -/
def word (s : Scan) (sign : Sign) (after : Cursor) : Scan :=
  { s.push ⟨sign, s.cursor.mark, after.mark⟩ with cursor := after }

def allowKey (s : Scan) (allowed : Bool) : Scan := { s with keyAllowed := allowed }

/-! ## Simple keys -/

/-- Gives up a place where a key may have begun. -/
def giveUp (s : Scan) : Option SimpleKey → Scanned (Option SimpleKey)
  | some key =>
    if key.required then s.cursor.refuse .missingColon .simpleKey key.mark else .ok none
  | none => .ok none

/-- Gives up the place where a key may have begun at this level. -/
def removeKey (s : Scan) : Scanned Scan := do
  return { s with simpleKey := ← s.giveUp s.simpleKey }

/-- Remembers this place if a key may begin here. -/
def saveKey (s : Scan) : Scanned Scan :=
  if s.keyAllowed then do
    let s ← s.removeKey
    let required := !s.inFlow && s.indents.head? = some s.cursor.mark.column
    return { s with simpleKey := some ⟨required, s.tokens.size, s.cursor.mark⟩ }
  else .ok s

/-- Gives up the places that are too far away. -/
def expireKeys (s : Scan) : Scanned Scan := do
  let expire (key : Option SimpleKey) : Scanned (Option SimpleKey) :=
    if key.any (·.isStale s.cursor.mark) then s.giveUp key else .ok key
  let outerKeys ← s.outerKeys.mapM expire
  let simpleKey ← expire s.simpleKey
  return { s with simpleKey, outerKeys }

/-! ## Indentation -/

/-- Begins a structure at a column, unless it is inside brackets or not further to the right. Its
first token is put at the place `number`. -/
def indentTo (s : Scan) (column number : Nat) (sign : Sign) (mark : Mark) : Scan :=
  if s.inFlow || !s.isInside column then s
  else { s with
    indents := column :: s.indents
    tokens := s.tokens.insertIdxIfInBounds number ⟨sign, mark, mark⟩ }

/-- Begins a structure at the cursor. -/
def indentHere (s : Scan) (sign : Sign) : Scan :=
  s.indentTo s.cursor.mark.column s.tokens.size sign s.cursor.mark

/-- Ends the structures that satisfy `ends`. -/
def dedentWhile (s : Scan) (ends : Nat → Bool) : Scan :=
  if s.inFlow then s
  else
    let ended := s.indents.takeWhile ends
    { s with
      indents := s.indents.drop ended.length
      tokens := s.tokens ++ ended.map fun _ => Token.mk .blockEnd s.cursor.mark s.cursor.mark }

/-- Ends the structures to the right of the cursor. -/
def dedent (s : Scan) : Scan := s.dedentWhile (s.cursor.mark.column < ·)

/-- Ends all structures. -/
def dedentAll (s : Scan) : Scan := s.dedentWhile fun _ => true

/-! ## Tokens -/

/-- Goes over blanks, comments and breaks. Where a key may begin, a tab is none of them. A mark of the
order of bytes may stand at the start of a line. -/
def skipGap : Nat → Scan → Scan
  | 0, s => s
  | fuel + 1, s =>
    let atByteMark := s.cursor.mark.column = 0 && s.cursor.peek = some '\ufeff'
    let cursor := if atByteMark then s.cursor.skip else s.cursor
    let cursor := cursor.skipWhile fun c => c = ' ' || c = '\t' && (s.inFlow || !s.keyAllowed)
    let cursor := if cursor.peek = some '#' then cursor.skipWhile (!isBreak ·) else cursor
    if cursor.peek.any isBreak then
      skipGap fuel { s with cursor := cursor.skipBreak, keyAllowed := !s.inFlow || s.keyAllowed }
    else { s with cursor }

/-- The end of the text, which ends the last line too. -/
def streamEnd (s : Scan) : Scanned Scan := do
  let mark := s.cursor.mark
  let mark := if mark.column = 0 then mark else { mark with line := mark.line + 1, column := 0 }
  let s := { s with cursor := { s.cursor with mark } }
  return ((← s.dedentAll.removeKey).allowKey false).sign .streamEnd 0

/-- What stands outside all structures. -/
def outermost (s : Scan) : Scanned Scan := do return (← s.dedentAll.removeKey).allowKey false

def directive (s : Scan) : Scanned Scan := do
  let s ← s.outermost
  let (sign, stop, after) ← readDirective s.cursor
  return { s.push ⟨sign, s.cursor.mark, stop⟩ with cursor := after }

def documentMark (s : Scan) (sign : Sign) : Scanned Scan := do return (← s.outermost).sign sign 3

def openBracket (s : Scan) (sign : Sign) : Scanned Scan := do
  let s ← s.saveKey
  let s := { s with simpleKey := none, outerKeys := s.simpleKey :: s.outerKeys }
  return (s.allowKey true).sign sign 1

def closeBracket (s : Scan) (sign : Sign) : Scanned Scan := do
  let s ← s.removeKey
  let s := match s.outerKeys with
    | [] => s
    | key :: outer => { s with simpleKey := key, outerKeys := outer }
  return (s.allowKey false).sign sign 1

def flowEntry (s : Scan) : Scanned Scan := do return ((← s.removeKey).allowKey true).sign .flowEntry 1

/-- Outside brackets, refuses a sign where no key may begin. -/
def requireKeyAllowed (s : Scan) (problem : Problem) : Scanned Unit :=
  if s.inFlow || s.keyAllowed then .ok () else .error (.broken problem s.cursor.mark none)

def blockEntry (s : Scan) : Scanned Scan := do
  s.requireKeyAllowed .strayDash
  return ((← (s.indentHere .blockSequenceStart).removeKey).allowKey true).sign .blockEntry 1

/-- A key with a question mark. -/
def explicitKey (s : Scan) : Scanned Scan := do
  s.requireKeyAllowed .strayKey
  let s ← (s.indentHere .blockMappingStart).removeKey
  return (s.allowKey !s.inFlow).sign .key 1

/-- A colon: what stands in front of it is a simple key, if one may have begun. -/
def value (s : Scan) : Scanned Scan :=
  match s.simpleKey with
  | some key =>
    let s := { s with
      tokens := s.tokens.insertIdxIfInBounds key.token ⟨.key, key.mark, key.mark⟩
      simpleKey := none }
    let s := s.indentTo key.mark.column key.token .blockMappingStart key.mark
    .ok ((s.allowKey false).sign .value 1)
  | none => do
    s.requireKeyAllowed .strayValue
    return ((s.indentHere .blockMappingStart).allowKey !s.inFlow).sign .value 1

def anchor (s : Scan) : Scanned Scan := do
  let s ← s.saveKey
  let (name, after) ← readAnchorName .anchor s.cursor
  return (s.word (.anchor name) after).allowKey false

def reference (s : Scan) : Scanned Scan := do
  let s ← s.saveKey
  let (name, after) ← readAnchorName .reference s.cursor
  return (s.word (.reference name) after).allowKey false

def tag (s : Scan) : Scanned Scan := do
  let s ← s.saveKey
  let (sign, after) ← readTag s.inFlow s.cursor
  return (s.word sign after).allowKey false

def block (s : Scan) (style : ScalarStyle) : Scanned Scan := do
  let s ← s.removeKey
  let outer : Int := s.indents.head?.elim (-1) Int.ofNat
  let (text, stop, after) ← readBlock (style = .folded) outer s.cursor
  return { s.push ⟨.scalar (String.ofList text) style, s.cursor.mark, stop⟩ with
    cursor := after, keyAllowed := true }

def quoted (s : Scan) (style : ScalarStyle) : Scanned Scan := do
  let s ← s.saveKey
  let (text, after) ← readQuoted (style = .singleQuoted) s.cursor
  return (s.word (.scalar (String.ofList text) style) after).allowKey false

def plain (s : Scan) : Scanned Scan := do
  let s ← s.saveKey
  let column := s.indents.head?.elim 0 (· + 1)
  let plain ← readPlain s.inFlow column s.cursor
  return { s.push ⟨.scalar (String.ofList plain.text) .plain, s.cursor.mark, plain.stop⟩ with
    cursor := plain.gap.cursor, keyAllowed := plain.gap.broken }

/-- Whether a plain scalar may begin with `c` in front of `next`. -/
def beginsPlain (s : Scan) (c : Char) (next : Option Char) : Bool :=
  if c = '-' then !next.any isBlank
  else if c = '?' || c = ':' then !s.inFlow && !isGap next
  else !isGap (some c) && c ∉ ",[]{}#&*!|>'\"%@`".toList

/-- Reads the token at the cursor. -/
def token (s : Scan) : Scanned Scan :=
  let next := s.cursor.ahead 1
  match s.cursor.peek with
  | none => s.streamEnd
  | some c =>
    if c = '%' && s.cursor.mark.column = 0 then s.directive
    else if s.cursor.atDocumentMark then
      s.documentMark (if c = '-' then .documentStart else .documentEnd)
    else if c = '[' then s.openBracket .flowSequenceStart
    else if c = '{' then s.openBracket .flowMappingStart
    else if c = ']' then s.closeBracket .flowSequenceEnd
    else if c = '}' then s.closeBracket .flowMappingEnd
    else if c = ',' then s.flowEntry
    else if c = '-' && isGap next then s.blockEntry
    else if c = '?' && (s.inFlow || isGap next) then s.explicitKey
    else if c = ':' && (s.inFlow || isGap next) then s.value
    else if c = '*' then s.reference
    else if c = '&' then s.anchor
    else if c = '!' then s.tag
    else if c = '|' && !s.inFlow then s.block .literal
    else if c = '>' && !s.inFlow then s.block .folded
    else if c = '\'' then s.quoted .singleQuoted
    else if c = '"' then s.quoted .doubleQuoted
    else if s.beginsPlain c next then s.plain
    else s.cursor.refuse .strayCharacter .token s.cursor.mark

/-- Goes to the next token and reads it. -/
def step (s : Scan) : Scanned Scan := do
  let s ← (skipGap (s.cursor.rest.length + 1) s).expireKeys
  (← s.dedent.token).expireKeys

/-- Whether the end of the text has been read. -/
def isDone (s : Scan) : Bool := s.tokens.back?.any (·.sign = .streamEnd)

/-- The tokens in front of the first one that may yet turn out to begin a key. -/
def settled (s : Scan) : List Token :=
  let undecided := ((s.simpleKey :: s.outerKeys).filterMap id).map (·.token)
  s.tokens.toList.take (undecided.foldl min s.tokens.size)

end Scan

/-- The tokens of a text. -/
structure Tokens where
  list : List Token
  /-- Why there are no more, if the last one is not the end of the stream. -/
  fault : Option SyntaxError := none

/-- Whether a text may hold a character. -/
def isAllowed (c : Char) : Bool :=
  c = '\t' || c = '\n' || c = '\r' || ' ' ≤ c && c ≤ '~' || c = '\u0085'
    || '\u00a0' ≤ c && c ≤ '\ufffd' || 0x10000 ≤ c.toNat

namespace Tokens

/-- Reads up to the end or to the first error. -/
def ofScan : Nat → Scan → Tokens
  | 0, s => { list := s.settled }
  | fuel + 1, s =>
    match s.step with
    | .ok next => if next.isDone then { list := next.tokens.toList } else ofScan fuel next
    | .error error => { list := s.settled, fault := some error }

/-- The tokens of a text, which may hold allowed characters only. -/
def ofText (text : String) : Tokens :=
  let chars := text.toList
  let part := chars.takeWhile isAllowed
  if part.length < chars.length then
    { list := [], fault := some (.forbiddenCharacter (String.ofList part).utf8ByteSize) }
  else ofScan (chars.length + 1) { cursor := { rest := chars } }

end Tokens

end Interceptor.Yaml
