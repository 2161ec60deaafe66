/-
# Interceptor.Yaml.Scalar — reading the text of scalars

Scalars are written plain, in one of two kinds of quotation marks, or as blocks
of lines. A line break inside a plain or quoted scalar is folded: a single one
reads as a space, and of several in a row the first is dropped. Blocks are
indented; a literal block keeps its breaks and a folded one folds those between
lines that do not begin with a blank.

Each reader takes a cursor and gives the text and the cursor behind it, or an
error when the scalar is not well formed. An error refers to the place `start`
where the scalar begins.
-/
import Interceptor.Yaml.SyntaxError

namespace Interceptor.Yaml

set_option autoImplicit false

/-- How a scalar is written. -/
inductive ScalarStyle
  | plain
  | singleQuoted
  | doubleQuoted
  | literal
  | folded
  deriving DecidableEq, Repr

/-- Blanks and breaks inside a scalar. -/
structure Gap where
  cursor : Cursor
  /-- Whether a break was read. -/
  broken : Bool := false
  /-- Blanks in front of the first break. -/
  spaces : List Char := []
  firstBreak : List Char := []
  laterBreaks : List Char := []

namespace Gap

/-- Reads blanks and breaks. A tab may not stand in front of `column` on a new line. -/
def read (start : Mark) (column : Nat) : Nat → Gap → Scanned Gap
  | 0, gap => .ok gap
  | fuel + 1, gap =>
    match gap.cursor.peek with
    | none => .ok gap
    | some c =>
      if isBlank c then
        if gap.broken then
          if gap.cursor.mark.column < column && c = '\t' then
            gap.cursor.refuse .tabInIndentation .plainScalar start
          else read start column fuel { gap with cursor := gap.cursor.skip }
        else read start column fuel { gap with spaces := gap.spaces ++ [c], cursor := gap.cursor.skip }
      else if isBreak c then
        let (line, cursor) := gap.cursor.readBreak
        if gap.broken then
          read start column fuel { gap with laterBreaks := gap.laterBreaks ++ line, cursor }
        else
          read start column fuel { gap with broken := true, spaces := [], firstBreak := line, cursor }
      else .ok gap

/-- What the gap reads as. -/
def fold (gap : Gap) : List Char :=
  if gap.broken then
    if gap.firstBreak = ['\n'] then
      if gap.laterBreaks.isEmpty then [' '] else gap.laterBreaks
    else gap.firstBreak ++ gap.laterBreaks
  else gap.spaces

end Gap

/-! ## Plain scalars -/

/-- The marks that end a plain scalar inside brackets. -/
def isFlowMark (c : Char) : Bool := c ∈ [',', '[', ']', '{', '}']

/-- The characters up to a gap or to a mark that ends a plain scalar, and whether a colon stands
there that may not. -/
def plainRun (inFlow : Bool) : List Char → List Char × Bool
  | [] => ([], false)
  | c :: rest =>
    if isGap (some c) then ([], false)
    else if c = ':' && inFlow && rest.head?.any (fun n => n = '?' || isFlowMark n) then ([], true)
    else if c = ':' && isGap rest.head? then ([], false)
    else if inFlow && isFlowMark c then ([], false)
    else
      let (run, refused) := plainRun inFlow rest
      (c :: run, refused)

/-- A plain scalar that is being read. -/
structure PlainText where
  text : List Char
  stop : Mark
  gap : Gap

/-- Reads runs and the gaps between them; a line must reach `column` to go on. -/
def plainRuns (start : Mark) (inFlow : Bool) (column : Nat) : Nat → PlainText → Scanned PlainText
  | 0, plain => .ok plain
  | fuel + 1, plain =>
    let cursor := plain.gap.cursor
    if cursor.atDocumentMark || cursor.peek = some '#' then .ok plain
    else do
      let (run, refused) := plainRun inFlow cursor.rest
      let after := cursor.advance run.length
      if refused then after.refuse .unexpectedColon .plainScalar start
      let plain := if run.isEmpty then plain else
        { text := plain.text ++ plain.gap.fold ++ run, stop := after.mark, gap := { cursor := after } }
      if after.rest.isEmpty || !isGap after.peek then return plain
      let gap ← Gap.read start column after.rest.length plain.gap
      let plain := { plain with gap }
      if !inFlow && gap.cursor.mark.column < column then return plain
      plainRuns start inFlow column fuel plain

/-- Reads a plain scalar: its text, where it ends, and the gap behind it. -/
def readPlain (inFlow : Bool) (column : Nat) (cursor : Cursor) : Scanned PlainText :=
  plainRuns cursor.mark inFlow column (cursor.rest.length + 1) ⟨[], cursor.mark, { cursor }⟩

/-! ## Quoted scalars -/

/-- What stands behind a backslash. -/
inductive Escape
  | char (c : Char)
  /-- The number of hexadecimal digits that follow. -/
  | code (digits : Nat)

/-- The meaning of the character behind a backslash. -/
def escape? : Char → Option Escape
  | '0' => some (.char '\x00')
  | 'a' => some (.char '\x07')
  | 'b' => some (.char '\x08')
  | 't' | '\t' => some (.char '\t')
  | 'n' => some (.char '\n')
  | 'v' => some (.char '\x0b')
  | 'f' => some (.char '\x0c')
  | 'r' => some (.char '\r')
  | 'e' => some (.char '\x1b')
  | ' ' => some (.char ' ')
  | '"' => some (.char '"')
  | '/' => some (.char '/')
  | '\\' => some (.char '\\')
  | 'N' => some (.char '\u0085')
  | '_' => some (.char '\u00a0')
  | 'L' => some (.char '\u2028')
  | 'P' => some (.char '\u2029')
  | 'x' => some (.code 2)
  | 'u' => some (.code 4)
  | 'U' => some (.code 8)
  | _ => none

/-- The value of a hexadecimal digit. -/
def hexDigit? (c : Char) : Option Nat :=
  if '0' ≤ c && c ≤ '9' then some (c.toNat - 48)
  else if 'a' ≤ c && c ≤ 'f' then some (c.toNat - 87)
  else if 'A' ≤ c && c ≤ 'F' then some (c.toNat - 55)
  else none

/-- The number that exactly `count` hexadecimal digits write. -/
def hexNumber? (count : Nat) (digits : List Char) : Option Nat :=
  if (digits.take count).length = count then
    (digits.take count).foldlM (fun n d => (hexDigit? d).map (n * 16 + ·)) 0
  else none

/-- The character of a number, if it is one. -/
def charOf? (n : Nat) : Option Char :=
  if n.isValidChar then some (Char.ofNat n) else none

/-- Reads up to a gap or the closing mark; the flag says that a break was escaped. -/
def quotedRun (start : Mark) (single : Bool) : Nat → Cursor → Scanned (List Char × Cursor × Bool)
  | 0, cursor => .ok ([], cursor, false)
  | fuel + 1, cursor =>
    let more (c : Char) (n : Nat) : Scanned (List Char × Cursor × Bool) := do
      let (text, rest) ← quotedRun start single fuel (cursor.advance n)
      return (c :: text, rest)
    match cursor.rest with
    | [] => .ok ([], cursor, false)
    | c :: rest =>
      if isGap (some c) then .ok ([], cursor, false)
      else if single then
        if c ≠ '\'' then more c 1
        else if rest.head? = some '\'' then more c 2
        else .ok ([], cursor, false)
      else if c = '"' then .ok ([], cursor, false)
      else if c ≠ '\\' then more c 1
      else match rest with
        | [] => cursor.refuse .unknownEscape .escape start
        | e :: digits =>
          if isBreak e then .ok ([], cursor.skip.skipBreak, true)
          else match escape? e with
            | none => cursor.refuse .unknownEscape .escape start
            | some (.char v) => more v 2
            | some (.code count) =>
              match hexNumber? count digits with
              | none => (cursor.advance 2).refuse .missingHexDigit .escape start
              | some n =>
                match charOf? n with
                | none => (cursor.advance 2).refuse .notACharacter .escape start
                | some v => more v (2 + count)

/-- Reads runs and gaps up to the closing mark. -/
def quotedRuns (start : Mark) (single : Bool) : Nat → Cursor → List Char → Scanned (List Char × Cursor)
  | 0, cursor, _ => cursor.refuse .unclosedQuote .quotedScalar start
  | fuel + 1, cursor, text => do
    if cursor.atDocumentMark then cursor.refuse .documentMark .quotedScalar start
    if cursor.rest.isEmpty then cursor.refuse .unclosedQuote .quotedScalar start
    let (run, cursor, escaped) ← quotedRun start single (cursor.rest.length + 1) cursor
    if cursor.peek = some (if single then '\'' else '"') && !escaped then
      return (text ++ run, cursor.skip)
    let gap ← Gap.read start 0 cursor.rest.length { cursor, broken := escaped }
    quotedRuns start single fuel gap.cursor (text ++ run ++ gap.fold)

/-- Reads a scalar with its quotation marks. -/
def readQuoted (single : Bool) (cursor : Cursor) : Scanned (List Char × Cursor) :=
  quotedRuns cursor.mark single (cursor.rest.length + 1) cursor.skip []

/-! ## Blocks -/

/-- What becomes of the breaks at the end of a block. -/
inductive Chomping
  | strip
  | clip
  | keep
  deriving DecidableEq

/-- Reads a sign for chomping, if there is one. -/
def chomping? (cursor : Cursor) : Option (Chomping × Cursor) :=
  match cursor.peek with
  | some '+' => some (.keep, cursor.skip)
  | some '-' => some (.strip, cursor.skip)
  | _ => none

/-- Reads a digit for indentation, if there is one. -/
def readIndentation (start : Mark) (cursor : Cursor) : Scanned (Option Nat × Cursor) :=
  match cursor.peek with
  | some d =>
    if d = '0' then cursor.refuse .zeroIndentation .blockScalar start
    else if '1' ≤ d && d ≤ '9' then .ok (some (d.toNat - 48), cursor.skip)
    else .ok (none, cursor)
  | none => .ok (none, cursor)

/-- Reads the marks behind `|` or `>`: chomping and indentation, in either order. -/
def readBlockHeader (start : Mark) (cursor : Cursor) : Scanned (Chomping × Option Nat × Cursor) := do
  match chomping? cursor with
  | some (chomping, cursor) =>
    let (indent, cursor) ← readIndentation start cursor
    return (chomping, indent, cursor)
  | none =>
    let (indent, cursor) ← readIndentation start cursor
    match indent, chomping? cursor with
    | some _, some (chomping, cursor) => return (chomping, indent, cursor)
    | _, _ => return (.clip, indent, cursor)

/-- Breaks between the lines of a block, and the indentation in front of what follows. -/
structure BlockGap where
  cursor : Cursor
  breaks : List Char := []
  deepest : Nat := 0
  stop : Mark

/-- Reads breaks and spaces up to column `indent`, or up to any column when it is not known. -/
def readBlockGap (start : Mark) (indent : Option Nat) : Nat → BlockGap → Scanned BlockGap
  | 0, gap => .ok gap
  | fuel + 1, gap =>
    let room := gap.cursor.rest.takeWhile (· = ' ')
    let taken := indent.elim room.length fun column => min room.length (column - gap.cursor.mark.column)
    let cursor := gap.cursor.advance taken
    let gap := { gap with cursor, deepest := max gap.deepest cursor.mark.column }
    if indent.all (cursor.mark.column < ·) && cursor.peek = some '\t' then
      cursor.refuse .tabForSpace .blockScalar start
    else if cursor.peek.any isBreak then
      let (line, cursor) := cursor.readBreak
      readBlockGap start indent fuel { gap with cursor, breaks := gap.breaks ++ line, stop := cursor.mark }
    else .ok gap

/-- The lines of a block that have been read. -/
structure BlockText where
  text : List Char := []
  /-- The break behind the last line. -/
  lastBreak : List Char := []
  lastBlank : Bool := false
  gap : BlockGap

/-- Reads the lines of a block. -/
def readBlockLines (start : Mark) (folds : Bool) (indent : Nat) : Nat → BlockText → Scanned BlockText
  | 0, block => .ok block
  | fuel + 1, block =>
    let cursor := block.gap.cursor
    if cursor.mark.column ≠ indent || cursor.rest.isEmpty then .ok block
    else
      let blank := cursor.peek.any isBlank
      let between :=
        if folds && block.lastBreak = ['\n'] && !block.lastBlank && !blank then
          (if block.gap.breaks.isEmpty then [' '] else []) ++ block.gap.breaks
        else block.lastBreak ++ block.gap.breaks
      let (line, cursor) := cursor.takeWhile (!isBreak ·)
      let (lastBreak, cursor) := cursor.readBreak
      do
        let gap ← readBlockGap start (some indent) (cursor.rest.length + 1) { cursor, stop := cursor.mark }
        readBlockLines start folds indent fuel
          { text := block.text ++ between ++ line, lastBreak, lastBlank := blank, gap }

/-- Reads a block with its mark, inside a structure indented by `outer`. -/
def readBlock (folds : Bool) (outer : Int) (cursor : Cursor) : Scanned (List Char × Mark × Cursor) := do
  let start := cursor.mark
  let (chomping, increment, cursor) ← readBlockHeader start cursor.skip
  let cursor := cursor.skipWhile isBlank
  let cursor := if cursor.peek = some '#' then cursor.skipWhile (!isBreak ·) else cursor
  if !cursor.peek.all isBreak then cursor.refuse .missingLineEnd .blockScalar start
  let cursor := cursor.skipBreak
  let indent := increment.map fun n => if 0 ≤ outer then outer.toNat + n else n
  let gap ← readBlockGap start indent (cursor.rest.length + 1) { cursor, stop := cursor.mark }
  let column := indent.getD (max gap.deepest (max (outer + 1).toNat 1))
  let block ← readBlockLines start folds column (cursor.rest.length + 1) { gap }
  let tail := match chomping with
    | .strip => []
    | .clip => block.lastBreak
    | .keep => block.lastBreak ++ block.gap.breaks
  return (block.text ++ tail, block.gap.stop, block.gap.cursor)

end Interceptor.Yaml
