/-
# Interceptor.Log.Filter — which log lines are shown

A filter is a list of directives with commas between them. A directive is a
level, the beginning of a target, or both with `=` between them; the target may
be followed by a span in brackets, with the field of a span or of a line in
braces: `target[span{field=value}]=level`. The most specific directive for a
line decides, and of two equally specific ones the later one. A level is a name
or its number; a target alone shows everything.

The program opens no spans and its lines have only a message. So a directive
that names a span, or a value that a field must have, decides nothing.

Blanks around a directive are no part of it when its signs are looked for, but
the parts between the signs are taken from the text with its blanks, at the
same distance from its beginning.
-/
import Interceptor.Log
import Interceptor.Log.Pattern
import Interceptor.Text.Unsigned

namespace Interceptor.Log

set_option autoImplicit false

/-- Why a directive cannot be read. -/
inductive DirectiveError
  | malformed
  | unknownLevel
  | field (error : PatternError)
  deriving DecidableEq, Repr

def DirectiveError.message : DirectiveError → String
  | .malformed => "invalid filter directive"
  | .unknownLevel =>
    "error parsing level filter: expected one of \"off\", \"error\", \"warn\", \"info\", \"debug\", \"trace\", or a number 0-5"
  | .field error => "invalid field filter: " ++ error.message

/-- A field that lines must have. -/
structure FieldFilter where
  name : String
  /-- Whether the field must have a certain value. -/
  hasValue : Bool
  deriving DecidableEq, Repr

/-- Up to which verbosity the lines of some targets are shown. -/
structure Directive where
  /-- The beginning of the targets; without one the directive is for all. -/
  target : Option String := none
  /-- The span that the lines must be in. -/
  span : Option String := none
  field : Option FieldFilter := none
  verbosity : Nat := 5
  deriving DecidableEq, Repr

/-- The names of the levels by verbosity. -/
def levelNames : List String := ["off", "error", "warn", "info", "debug", "trace"]

/-- The verbosity that a name or a number stands for. -/
def verbosity? (text : List Char) : Option Nat :=
  match Text.Unsigned.read 5 text with
  | .ok n => some n
  | .error _ => if text.isEmpty then some 1 else levelNames.idxOf? (String.ofList (text.map Char.toLower))

/-- The level behind `=`; everything if there is none. -/
def levelAfter (text : List Char) : Except DirectiveError Nat :=
  if text.isEmpty then .ok 5 else (verbosity? text).elim (.error .unknownLevel) .ok

/-- A level or a target that stands alone. -/
def ofWord (word : List Char) : Directive :=
  match verbosity? word with
  | some verbosity => { verbosity }
  | none => { target := some (String.ofList word) }

/-- A field as it stands in the braces: a name, and the value behind `=`. -/
def readField (text : List Char) : Except DirectiveError FieldFilter :=
  match Text.splitAll '=' text with
  | name :: value :: _ =>
    if isNumber value then .ok ⟨String.ofList name, true⟩
    else match Pattern.check value with
      | .ok () => .ok ⟨String.ofList name, true⟩
      | .error e => .error (.field e)
  | _ => if text.isEmpty then .error .malformed else .ok ⟨String.ofList text, false⟩

/-- Whether a directive may begin with a character. -/
def mayBegin (c : Char) : Bool := Text.isLetterOrNumber c || c ∈ ['-', ':', '_']

/-- Which part of a directive is being read. Numbers say at which byte the part begins. -/
inductive DirectivePart
  | nothing
  | word (start : Nat)
  | span (start : Nat)
  | field (start : Nat)
  | closed
  | bracketed
  | level (start : Nat)
  deriving DecidableEq, Repr

/-- The characters of a text whose bytes begin at `first` or later and before `last`. -/
def sliceBytes (first last : Nat) (text : List Char) : List Char :=
  go 0 text
where
  go (place : Nat) : List Char → List Char
    | [] => []
    | c :: rest =>
      let others := go (place + c.utf8Size) rest
      if first ≤ place && place < last then c :: others else others

/-- Reads the sign `c` at byte `place` of a directive. -/
def DirectivePart.step (text : List Char) (place : Nat) (c : Char) (d : Directive) :
    DirectivePart → Except DirectiveError (DirectivePart × Directive)
  | .nothing =>
    if c = '[' then .ok (.span 1, d)
    else if mayBegin c then .ok (.word place, d)
    else .error .malformed
  | .word start =>
    let target := some (String.ofList (sliceBytes start place text))
    if c = '=' then .ok (.level (place + 1), { d with target })
    else if c = '[' then .ok (.span (place + 1), { d with target })
    else .ok (.word start, d)
  | .span start =>
    let name := sliceBytes start place text
    if c = ']' then .ok (.bracketed, { d with span := some (String.ofList name) })
    else if c = '\x7b' then
      .ok (.field (place + 1), { d with span := if name.isEmpty then none else some (String.ofList name) })
    else .ok (.span start, d)
  | .field start =>
    if c = '\x7d' then do
      return (.closed, { d with field := some (← readField (sliceBytes start place text)) })
    else .ok (.field start, d)
  | .closed => if c = ']' then .ok (.bracketed, d) else .error .malformed
  | .bracketed => if c = '=' then .ok (.level (place + 1), d) else .error .malformed
  | .level start => .ok (.level start, d)

/-- What a directive is when its text ends within a part. -/
def DirectivePart.finish (text : List Char) (d : Directive) : DirectivePart → Except DirectiveError Directive
  | .word start => .ok (ofWord (sliceBytes start (String.ofList text).utf8ByteSize text))
  | .level start => do
    return { d with verbosity := ← levelAfter (sliceBytes start (String.ofList text).utf8ByteSize text) }
  | .bracketed => .ok d
  | _ => .error .malformed

/-- Reads one directive. -/
def readDirective (text : List Char) : Except DirectiveError Directive := do
  let (_, part, d) ← (Text.trim text).foldlM (fun (place, part, d) c => do
    return (place + c.utf8Size, ← part.step text place c d)) (0, DirectivePart.nothing, {})
  part.finish text d

/-- The only field of the program's lines. -/
def messageField : String := "message"

namespace Directive

/-- Whether a directive decides about lines at all. -/
def decides (d : Directive) : Bool := d.span.isNone && d.field.all (!·.hasValue)

/-- Whether a directive is for lines of a target. -/
def isFor (target : String) (d : Directive) : Bool :=
  d.decides && d.target.all (fun start => start.toList.isPrefixOf target.toList) &&
    d.field.all (·.name = messageField)

/-- How specific a directive is: a longer target first, then one with a field. -/
def weight (d : Directive) : Nat :=
  2 * d.target.elim 0 (fun start => start.utf8ByteSize + 1) + if d.field.isSome then 1 else 0

end Directive

/-- Directives, the later ones last. -/
structure Filter where
  directives : List Directive

namespace Filter

/-- The more specific of two directives, of two equal ones the second. -/
def stronger (known : Option Directive) (d : Directive) : Option Directive :=
  if known.all fun k => k.weight ≤ d.weight then some d else known

/-- Whether a line is shown. -/
def shows (filter : Filter) (line : LogLine) : Bool :=
  ((filter.directives.filter (·.isFor line.target)).foldl stronger none).any (line.level.verbosity ≤ ·.verbosity)

/-- The texts of the directives. -/
def parts (text : String) : List (List Char) := (Text.splitAll ',' text.toList).filter (!·.isEmpty)

/-- Reads a filter, and the directives that are passed over because they are not well formed. Only
errors are shown when no directive is left. -/
def readLossy (text : String) : Filter × List (String × DirectiveError) :=
  let read := (parts text).map fun part => (part, readDirective part)
  let directives := read.filterMap fun (_, result) => result.toOption
  let faults := read.filterMap fun (part, result) => match result with
    | .ok _ => none
    | .error e => some (String.ofList part, e)
  (⟨if directives.isEmpty then [{ verbosity := 1 }] else directives⟩, faults)

/-- Reads a filter that has to be well formed. Nothing is shown when it is empty. -/
def read? (text : String) : Option Filter := do
  return ⟨← (parts text).mapM fun part => (readDirective part).toOption⟩

end Filter

end Interceptor.Log
