/-
# Interceptor.Log.Pattern — patterns for the values of a field

A directive may ask for lines whose field matches a pattern: characters, sets
of them in brackets, groups in parentheses, alternatives with `|` between them,
and `?`, `*` or `+` behind what may be left out or repeated. No line of the
program has a field that a pattern could be held against, so a pattern is only
checked: `check` says whether it is well formed and, if it is, whether it asks
for the boundary of a word, which no matcher can be built for.

Classes of characters by their meaning (`\d`, `\w`, `\s`), properties and the
comparison of letters in any case need tables of all scripts. There are none,
so they can be used only where a group restricts itself to ASCII.
-/
import Interceptor.Text.Blank
import Interceptor.Text.LetterOrNumber
import Interceptor.Text.Split

namespace Interceptor.Log

set_option autoImplicit false

/-- Why a pattern cannot be used. -/
inductive PatternError
  | malformed
  | wordBoundary
  deriving DecidableEq, Repr

def PatternError.message : PatternError → String
  | .malformed => "error building NFA"
  | .wordBoundary =>
    "unsupported regex feature for DFAs: cannot build DFAs for regexes with Unicode word boundaries; switch to ASCII word boundaries, or heuristically enable Unicode word boundaries or use a different regex engine"

namespace Pattern

/-- How the characters of a part of a pattern are read. -/
structure Mode where
  /-- Whether letters stand for both of their cases. -/
  anyCase : Bool := false
  /-- Whether blanks and comments are passed over. -/
  spaced : Bool := false
  /-- Whether characters are those of all scripts, and not bytes of ASCII. -/
  allScripts : Bool := true

/-- What stands behind a backslash. -/
inductive Escaped
  | literal (c : Char)
  /-- A byte given by its two digits. -/
  | byte (c : Char)
  /-- A class of characters by their meaning, or all characters outside of it. -/
  | meaning (negated : Bool)
  | wordEdge
  | textEdge

/-- Passes over blanks and comments where they have no meaning. -/
def skip (mode : Mode) (cs : List Char) : List Char :=
  if mode.spaced then go false cs else cs
where
  go (inComment : Bool) : List Char → List Char
    | [] => []
    | c :: rest =>
      if inComment then go (c ≠ '\n') rest
      else if Text.isBlank c then go false rest
      else if c = '#' then go true rest
      else c :: rest

/-- The value of a hexadecimal digit. -/
def hexDigit? (c : Char) : Option Nat :=
  if '0' ≤ c ∧ c ≤ '9' then some (c.toNat - '0'.toNat)
  else if 'a' ≤ c ∧ c ≤ 'f' then some (c.toNat - 'a'.toNat + 10)
  else if 'A' ≤ c ∧ c ≤ 'F' then some (c.toNat - 'A'.toNat + 10)
  else none

/-- The character with a number that is written as so many hexadecimal digits. -/
def readHex (count : Nat) (cs : List Char) : Option (Char × List Char) := do
  let digits := cs.take count
  if digits.length < count then none
  let number ← digits.foldlM (fun n c => (hexDigit? c).map (n * 16 + ·)) 0
  if number.isValidChar then return (Char.ofNat number, cs.drop count) else none

/-- The characters that letters behind a backslash stand for. -/
def namedCharacters : List (Char × Char) :=
  [('a', '\x07'), ('f', '\x0c'), ('t', '\t'), ('n', '\n'), ('r', '\r'), ('v', '\x0b')]

/-- Reads what stands behind a backslash. -/
def readEscaped : List Char → Option (Escaped × List Char)
  | [] => none
  | 'x' :: rest => (readHex 2 rest).map fun (c, rest) => (.byte c, rest)
  | 'u' :: rest => (readHex 4 rest).map fun (c, rest) => (.literal c, rest)
  | 'U' :: rest => (readHex 8 rest).map fun (c, rest) => (.literal c, rest)
  | c :: rest =>
    if c ∈ ['d', 's', 'w'] then some (.meaning false, rest)
    else if c ∈ ['D', 'S', 'W'] then some (.meaning true, rest)
    else if c ∈ ['b', 'B', '<', '>'] then some (.wordEdge, rest)
    else if c ∈ ['A', 'z'] then some (.textEdge, rest)
    else match namedCharacters.lookup c with
      | some named => some (.literal named, rest)
      | none => if c.toNat < 128 && !c.isAlphanum then some (.literal c, rest) else none

/-- Whether an item other than an edge can be used. -/
def Mode.allows (mode : Mode) : Escaped → Bool
  | .literal _ => !(mode.anyCase && mode.allScripts)
  | .byte c => if mode.allScripts then !mode.anyCase else c.toNat < 128
  | .meaning negated => !mode.allScripts && !negated
  | .wordEdge | .textEdge => true

/-! ## Sets of characters -/

/-- The names of sets inside brackets. -/
def setNames : List String :=
  ["alnum", "alpha", "ascii", "blank", "cntrl", "digit", "graph", "lower", "print", "punct", "space",
   "upper", "word", "xdigit"]

/-- What follows a named set, such as `[:alpha:]`, and whether it stands for all others. -/
def readNamedSet? (cs : List Char) : Option (Bool × List Char) := do
  let inner ← Text.dropPrefix? ['[', ':'] cs
  let negated := inner.head? = some '^'
  let inner := if negated then inner.drop 1 else inner
  let (name, rest) ← Text.splitFirst? ':' inner
  let rest ← Text.dropPrefix? [']'] rest
  if String.ofList name ∈ setNames then some (negated, rest) else none

/-- Reads one member of a set, which is a character or a class. -/
def readMember (mode : Mode) (cs : List Char) : Option (Escaped × List Char) := do
  let (member, rest) ← match cs with
    | [] => none
    | '\\' :: rest => readEscaped rest
    | c :: rest => some (.literal c, rest)
  match member with
  | .wordEdge | .textEdge => none
  | .literal c => if mode.allows member && (mode.allScripts || c.toNat < 128) then some (member, rest) else none
  | _ => if mode.allows member then some (member, rest) else none

def Escaped.character? : Escaped → Option Char
  | .literal c | .byte c => some c
  | _ => none

/-- Reads a member, or the first and the last of several with `-` between them. -/
def readRange (mode : Mode) (cs : List Char) : Option (List Char) := do
  let (first, rest) ← readMember mode cs
  match skip mode rest with
  | '-' :: behind =>
    if (skip mode behind).head? ∈ [some ']', some '-'] then some rest
    else do
      let (last, rest) ← readMember mode (skip mode behind)
      if (← first.character?) ≤ (← last.character?) then some rest else none
  | _ => some rest

/-- Reads behind the bracket that opens a set: `^`, then `-` and `]` as members. -/
def openSet (mode : Mode) (cs : List Char) : Option (List Char) :=
  let inner := skip mode cs
  if inner.head? = some '^' then
    if mode.allScripts then some (members (skip mode (inner.drop 1))) else none
  else some (members inner)
where
  members (cs : List Char) : List Char :=
    match cs with
    | ']' :: rest => rest
    | cs => cs.dropWhile (· = '-')

/-- Reads the members of sets, so many of them open, up to the bracket that closes the outermost. -/
def readSets (mode : Mode) : Nat → Nat → List Char → Option (List Char)
  | 0, _, _ => none
  | fuel + 1, depth, cs =>
    match skip mode cs with
    | [] => none
    | ']' :: rest => if depth = 0 then some rest else readSets mode fuel (depth - 1) rest
    | '&' :: '&' :: rest | '-' :: '-' :: rest | '~' :: '~' :: rest => readSets mode fuel depth rest
    | '[' :: rest =>
      match readNamedSet? ('[' :: rest) with
      | some (negated, rest) => if negated && !mode.allScripts then none else readSets mode fuel depth rest
      | none => do readSets mode fuel (depth + 1) (← openSet mode rest)
    | cs => do readSets mode fuel depth (← readRange mode cs)

/-- Reads a set behind its opening bracket. -/
def readSet (mode : Mode) (cs : List Char) : Option (List Char) :=
  if mode.anyCase && mode.allScripts then none
  else do readSets mode (2 * cs.length + 1) 0 (← openSet mode cs)

/-! ## Groups -/

/-- Reads the name of a group up to `>`. -/
def readName (cs : List Char) : Option (List Char × List Char) := do
  let (name, rest) ← Text.splitFirst? '>' cs
  let mayStart (c : Char) := c = '_' || Text.isLetterOrNumber c && !c.isDigit
  let mayFollow (c : Char) := Text.isLetterOrNumber c || c ∈ ['_', '.', '[', ']']
  if name.head?.any mayStart && name.all mayFollow then some (name, rest) else none

/-- Reads the flags of a group up to `:` or `)`, with that sign in front of the rest. -/
def readFlags (mode : Mode) (seen : List Char) : List Char → Option (Mode × List Char)
  | [] => none
  | c :: rest =>
    if c ∈ [':', ')'] then if seen.head? = some '-' then none else some (mode, c :: rest)
    else if c ∈ seen then none
    else
      let on := c = '-' || '-' ∉ seen
      let mode? := match c with
        | 'i' => some { mode with anyCase := on }
        | 'x' => some { mode with spaced := on }
        | 'u' => some { mode with allScripts := on }
        | 'm' | 's' | 'U' | 'R' | '-' => some mode
        | _ => none
      mode?.bind fun mode => readFlags mode (c :: seen) rest

/-- A pattern as far as it has been read. -/
structure Reading where
  mode : Mode := {}
  /-- The modes around the groups that are open, the innermost first. -/
  outer : List Mode := []
  /-- Whether there is something in front that can be repeated. -/
  repeatable : Bool := false
  /-- The names of groups. -/
  names : List (List Char) := []
  /-- Whether the boundary of a word is asked for. -/
  wordEdge : Bool := false

/-- Opens a group whose characters are read in some mode. -/
def Reading.opened (r : Reading) (mode : Mode) : Reading :=
  { r with mode, outer := r.mode :: r.outer, repeatable := false }

/-- Reads behind the parenthesis that opens a group, or that only sets flags. -/
def readOpening (r : Reading) (cs : List Char) : Option (Reading × List Char) :=
  match skip r.mode cs with
  | '?' :: 'P' :: '<' :: rest | '?' :: '<' :: rest => do
    if rest.head? ∈ [some '=', some '!'] then none
    let (name, rest) ← readName rest
    if name ∈ r.names then none
    return ({ r.opened r.mode with names := name :: r.names }, rest)
  | '?' :: rest => do
    match ← readFlags r.mode [] rest with
    | (mode, ':' :: behind) => return (r.opened mode, behind)
    | (mode, _ :: behind) =>
      if rest.head? = some ')' then none else return ({ r with mode, repeatable := false }, behind)
    | (_, []) => none
  | rest => some (r.opened r.mode, rest)

/-- Reads one item in front of what may follow it. -/
def readItem (r : Reading) : List Char → Option (Reading × List Char)
  | '\\' :: rest => do
    let (item, rest) ← readEscaped rest
    if r.mode.allows item then
      let wordEdge := r.wordEdge || item matches .wordEdge && r.mode.allScripts
      return ({ r with repeatable := true, wordEdge }, rest)
    else none
  | '[' :: rest => do return ({ r with repeatable := true }, ← readSet r.mode rest)
  | '.' :: rest => if r.mode.allScripts then some ({ r with repeatable := true }, rest) else none
  | '^' :: rest | '$' :: rest => some ({ r with repeatable := true }, rest)
  | '{' :: _ => none
  | c :: rest => if r.mode.allows (.literal c) then some ({ r with repeatable := true }, rest) else none
  | [] => none

/-- Reads a pattern to its end. -/
def readAll : Nat → Reading → List Char → Option Reading
  | 0, _, _ => none
  | fuel + 1, r, cs =>
    match skip r.mode cs with
    | [] => if r.outer.isEmpty then some r else none
    | '(' :: rest => do
      let (r, rest) ← readOpening r rest
      readAll fuel r rest
    | ')' :: rest =>
      match r.outer with
      | [] => none
      | mode :: outer => readAll fuel { r with mode, outer, repeatable := true } rest
    | '|' :: rest => readAll fuel { r with repeatable := false } rest
    | '?' :: rest | '*' :: rest | '+' :: rest =>
      if r.repeatable then
        readAll fuel r (if rest.head? = some '?' then rest.drop 1 else rest)
      else none
    | cs => do
      let (r, rest) ← readItem r cs
      readAll fuel r rest

/-- Checks a pattern. -/
def check (cs : List Char) : Except PatternError Unit :=
  match readAll (cs.length + 1) {} cs with
  | none => .error .malformed
  | some r => if r.wordEdge then .error .wordBoundary else .ok ()

end Pattern

/-- Whether a text is a number that may have a sign, decimals and an exponent, or a word for infinity
or for no number. -/
def isNumber (text : List Char) : Bool :=
  let unsigned := match text with
    | '+' :: rest | '-' :: rest => rest
    | rest => rest
  let whole := unsigned.takeWhile Char.isDigit
  let (part, rest) := match unsigned.drop whole.length with
    | '.' :: rest => (rest.takeWhile Char.isDigit, rest.dropWhile Char.isDigit)
    | rest => ([], rest)
  let exponent := match rest with
    | 'e' :: rest | 'E' :: rest =>
      let digits := match rest with
        | '+' :: digits | '-' :: digits => digits
        | digits => digits
      !digits.isEmpty && digits.all Char.isDigit
    | rest => rest.isEmpty
  String.ofList (unsigned.map Char.toLower) ∈ ["inf", "infinity", "nan"] ||
    !(whole ++ part).isEmpty && exponent

end Interceptor.Log
