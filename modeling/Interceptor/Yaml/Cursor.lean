/-
# Interceptor.Yaml.Cursor — a place in a text

A cursor is what is left of a text and the mark of where that begins. A mark
counts lines, the characters of the line, and the bytes of the text from zero.
Five characters break a line; a carriage return and the line feed behind it are
one break, and every break but the two separators of Unicode is read as a line
feed.
-/

namespace Interceptor.Yaml

set_option autoImplicit false

/-- A place in a text. -/
structure Mark where
  line : Nat := 0
  column : Nat := 0
  index : Nat := 0
  deriving DecidableEq, Repr

/-- Whether a character breaks a line. -/
def isBreak (c : Char) : Bool :=
  c = '\n' || c = '\r' || c = '\u0085' || c = '\u2028' || c = '\u2029'

/-- Whether a character is a space or a tab. -/
def isBlank (c : Char) : Bool := c = ' ' || c = '\t'

/-- Whether there is a blank, a break or nothing. -/
def isGap (c : Option Char) : Bool := c.all fun c => isBlank c || isBreak c

/-- The rest of a text. -/
structure Cursor where
  rest : List Char
  mark : Mark := {}

namespace Cursor

def peek (c : Cursor) : Option Char := c.rest.head?

/-- How many bytes the next `n` characters take. -/
def bytes (c : Cursor) (n : Nat) : Nat := (c.rest.take n).foldl (fun bytes x => bytes + x.utf8Size) 0

/-- The character some places ahead. -/
def ahead (c : Cursor) (n : Nat) : Option Char := c.rest[n]?

/-- Goes over `n` characters of one line. -/
def advance (c : Cursor) (n : Nat) : Cursor :=
  { rest := c.rest.drop n
    mark := { c.mark with column := c.mark.column + n, index := c.mark.index + c.bytes n } }

def skip (c : Cursor) : Cursor := c.advance 1

/-- Goes over `n` characters to the start of the next line. -/
def nextLine (c : Cursor) (n : Nat) : Cursor :=
  { rest := c.rest.drop n
    mark := { line := c.mark.line + 1, column := 0, index := c.mark.index + c.bytes n } }

/-- Reads a break, if there is one. -/
def readBreak (c : Cursor) : List Char × Cursor :=
  match c.rest with
  | '\r' :: '\n' :: _ => (['\n'], c.nextLine 2)
  | '\u2028' :: _ => (['\u2028'], c.nextLine 1)
  | '\u2029' :: _ => (['\u2029'], c.nextLine 1)
  | x :: _ => if isBreak x then (['\n'], c.nextLine 1) else ([], c)
  | [] => ([], c)

/-- Goes over a break, if there is one. -/
def skipBreak (c : Cursor) : Cursor := c.readBreak.2

/-- Reads characters of one line while they satisfy `p`. -/
def takeWhile (c : Cursor) (p : Char → Bool) : List Char × Cursor :=
  let taken := c.rest.takeWhile p
  (taken, c.advance taken.length)

/-- Goes over characters of one line while they satisfy `p`. -/
def skipWhile (c : Cursor) (p : Char → Bool) : Cursor := (c.takeWhile p).2

/-- Whether the cursor stands on the first column in front of a document mark. -/
def atDocumentMark (c : Cursor) : Bool :=
  c.mark.column = 0 && (c.rest.take 3 = ['-', '-', '-'] || c.rest.take 3 = ['.', '.', '.'])
    && isGap (c.ahead 3)

end Cursor

end Interceptor.Yaml
