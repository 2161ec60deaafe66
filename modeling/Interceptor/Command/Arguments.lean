/-
# Interceptor.Command.Arguments — reading the arguments of a command

A command has flags, some of which take a value, and may have commands of its
own. A flag is given by its long name behind two dashes or by its letter behind
one; a value stands behind `=`, right behind the letter, or in the next
argument. Flags without a value may share a dash. Behind two dashes alone
nothing is a flag.

A value in an argument of its own is looked at when the next flag or the end is
reached. Reading stops at the first error, at the flag for help and at the flag
for the version.
-/
import Interceptor.Text.Split
import Interceptor.Text.Terminal
import Interceptor.Text.Unsigned

namespace Interceptor.Command

set_option autoImplicit false

open Text.Terminal (bold green heading plain yellow)

/-- What a flag takes. -/
inductive Takes
  | text
  | path
  | choice (values : List String)
  | number (bound : Nat)
  deriving DecidableEq, Repr

/-- What a flag does besides being set. -/
inductive Effect
  | set
  | help
  | version
  deriving DecidableEq, Repr

/-- A flag. -/
structure Flag where
  long : String
  letter : Option Char := none
  /-- The word for its value, and what the value may be. -/
  value : Option (String × Takes) := none
  note : String := ""
  default : Option String := none
  /-- The variable that gives the value when the flag is absent. -/
  setBy : Option String := none
  required : Bool := false
  effect : Effect := .set
  deriving DecidableEq, Repr

/-- The flag and the word for its value. -/
def Flag.usage (flag : Flag) : String :=
  "--" ++ flag.long ++ flag.value.elim "" fun (word, _) => " <" ++ word ++ ">"

/-- A command: its flags in the order in which help lists them. -/
structure Spec where
  /-- The name by which it is called. -/
  name : String
  about : String
  /-- What stands behind the name in a call. -/
  call : String
  flags : List Flag
  /-- Its own commands, with what they do. -/
  commands : List (String × String) := []

/-- Why arguments cannot be read. -/
inductive UsageError
  /-- A flag or a value that nobody takes. -/
  | unexpectedArgument (arg : String)
  | unrecognizedCommand (arg : String)
  | missingCommand (name : String)
  /-- A value for a flag that takes none. -/
  | unexpectedValue (value : String) (flag : Flag)
  | missingValue (flag : Flag)
  | invalidChoice (value : String) (flag : Flag) (values : List String)
  | invalidNumber (value : String) (flag : Flag) (reason : String)
  | repeated (flag : Flag)
  | missingFlags (flags : List Flag)
  deriving DecidableEq, Repr

namespace UsageError

/-- The error in one line: what is wrong in yellow, what is right in bold. -/
def message : UsageError → String
  | .unexpectedArgument arg => "unexpected argument '" ++ yellow arg ++ "' found"
  | .unrecognizedCommand arg => "unrecognized subcommand '" ++ yellow arg ++ "'"
  | .missingCommand name => "'" ++ yellow name ++ "' requires a subcommand but one was not provided"
  | .unexpectedValue value flag =>
    "unexpected value '" ++ yellow value ++ "' for '" ++ bold flag.usage ++ "' found; no more were expected"
  | .missingValue flag => "a value is required for '" ++ yellow flag.usage ++ "' but none was supplied"
  | .invalidChoice value flag _ => "invalid value '" ++ yellow value ++ "' for '" ++ bold flag.usage ++ "'"
  | .invalidNumber value flag reason =>
    "invalid value '" ++ yellow value ++ "' for '" ++ bold flag.usage ++ "': " ++ reason
  | .repeated flag => "the argument '" ++ yellow flag.usage ++ "' cannot be used multiple times"
  | .missingFlags _ => "the following required arguments were not provided:"

/-- Further lines. -/
def details : UsageError → List String
  | .invalidChoice _ _ values => ["  [possible values: " ++ ", ".intercalate (values.map green) ++ "]"]
  | .missingFlags flags => flags.map fun flag => "  " ++ green flag.usage
  | _ => []

end UsageError

/-- Why reading stops. -/
inductive Stop
  /-- The text that was asked for. -/
  | answer (text : String)
  /-- The help, for a call that says nothing. -/
  | nothingSaid (help : String)
  | usage (error : UsageError) (command : Spec)

/-! ## Help -/

/-- The dashes and names of a flag, in bold, and the word for its value. -/
def Flag.entry (flag : Flag) : String :=
  let names := flag.letter.elim "    " (fun c => bold ("-" ++ c.toString) ++ ", ") ++ bold ("--" ++ flag.long)
  names ++ flag.value.elim "" fun (word, _) => " <" ++ word ++ ">"

/-- A default, in quotation marks if there are blanks in it. -/
def shownDefault (text : String) : String := if text.toList.contains ' ' then "\"" ++ text ++ "\"" else text

/-- What help says about a flag. -/
def Flag.explanation (env : String → Option String) (flag : Flag) : String :=
  let setBy := flag.setBy.map fun name => "[env: " ++ name ++ "=" ++ (env name).getD "" ++ "]"
  let default := flag.default.map fun text => "[default: " ++ shownDefault text ++ "]"
  let choice := match flag.value with
    | some (_, .choice values) => some ("[possible values: " ++ ", ".intercalate values ++ "]")
    | _ => none
  let note := if flag.note.isEmpty then none else some flag.note
  " ".intercalate [note, setBy, default, choice].reduceOption

/-- A text whose further lines begin behind some blanks. -/
def indented (width : Nat) (text : String) : String :=
  String.ofList (text.toList.flatMap fun c => if c = '\n' then c :: List.replicate width ' ' else [c])

/-- Two columns, the second one two blanks behind the widest entry of the first. -/
def columns (rows : List (String × String)) : String :=
  let width (left : String) := (plain left).length
  let widest := (rows.map fun row => width row.1).foldl max 0
  String.join (rows.map fun (left, right) =>
    "  " ++ left ++ "".pushn ' ' (widest + 2 - width left) ++ indented (widest + 4) right ++ "\n")

/-- How a command is called. -/
def Spec.usage (spec : Spec) : String := heading "Usage:" ++ " " ++ bold spec.name ++ " " ++ spec.call

/-- The help for a command. -/
def Spec.help (spec : Spec) (env : String → Option String) : String :=
  let commands := if spec.commands.isEmpty then "" else
    "\n" ++ heading "Commands:" ++ "\n" ++ columns (spec.commands.map fun (name, about) => (bold name, about))
  let flags := if spec.flags.isEmpty then "" else
    "\n" ++ heading "Options:" ++ "\n" ++ columns (spec.flags.map fun flag => (flag.entry, flag.explanation env))
  spec.about ++ "\n\n" ++ spec.usage ++ "\n" ++ commands ++ flags

/-! ## Values -/

/-- Reads a number with or without a sign as a number from zero to a bound. -/
def readNumber (bound : Nat) (text : String) : Except String Nat :=
  let (negative, digits) := match text.toList with
    | '-' :: rest => (true, if rest.head? = some '+' then ['-'] else rest)
    | cs => (false, cs)
  let limit := if negative then 0x8000000000000000 else 0x7fffffffffffffff
  match Text.Unsigned.read limit digits with
  | .error .tooLarge =>
    .error (if negative then "number too small to fit in target type" else Text.Unsigned.Fault.tooLarge.message)
  | .error fault =>
    .error (if negative && digits.isEmpty then Text.Unsigned.Fault.invalidDigit.message else fault.message)
  | .ok n =>
    if (negative && 0 < n) || bound < n then
      .error ((if negative then "-" else "") ++ toString n ++ " is not in 0..=" ++ toString bound)
    else .ok n

/-- Checks a value. -/
def Takes.check (takes : Takes) (flag : Flag) (value : String) : Except UsageError Unit :=
  match takes with
  | .text => .ok ()
  | .path => if value.isEmpty then .error (.missingValue flag) else .ok ()
  | .choice values =>
    if value ∈ values then .ok ()
    else if value.isEmpty then .error (.missingValue flag)
    else .error (.invalidChoice value flag values)
  | .number bound =>
    match readNumber bound value with
    | .ok _ => .ok ()
    | .error reason => .error (.invalidNumber value flag reason)

/-! ## Arguments -/

/-- What has been read of the arguments. -/
structure Reading where
  /-- The flags that were set, with their values; the value of a switch is empty. -/
  values : List (String × String) := []
  /-- A flag that takes a value, and the value if it has been read. -/
  pending : Option (Flag × Option String) := none
  /-- Whether two dashes alone have been read. -/
  plain : Bool := false

section Read

variable (spec : Spec) (env : String → Option String)

def refuse {α : Type} (error : UsageError) : Except Stop α := .error (.usage error spec)

/-- Takes note of a flag. -/
def setFlag (state : Reading) (flag : Flag) (value : Option String) : Except Stop Reading := do
  match flag.value, value with
  | some (_, takes), some value =>
    if (state.values.lookup flag.long).isSome then refuse spec (.repeated flag)
    (takes.check flag value).mapError (.usage · spec)
    return { state with values := (flag.long, value) :: state.values }
  | some _, none => refuse spec (.missingValue flag)
  | none, _ =>
    match flag.effect with
    | .help => .error (.answer (spec.help env))
    | .version => .error (.answer (spec.name ++ " 0.1.0\n"))
    | .set =>
      if (state.values.lookup flag.long).isSome then refuse spec (.repeated flag)
      return { state with values := (flag.long, "") :: state.values }

/-- Looks at the flag that is still pending. -/
def settle (state : Reading) : Except Stop Reading :=
  match state.pending with
  | none => .ok state
  | some (flag, value) => setFlag spec env { state with pending := none } flag value

/-- Takes a flag with what is attached to it. -/
def takeFlag (state : Reading) (flag : Flag) (attached : Option String) : Except Stop Reading := do
  let state ← settle spec env state
  if flag.value.isSome && attached.isNone then return { state with pending := some (flag, none) }
  else setFlag spec env state flag attached

/-- Takes an argument behind two dashes. -/
def takeLong (state : Reading) (text : List Char) : Except Stop Reading :=
  let (name, attached) := match Text.splitFirst? '=' text with
    | some (name, value) => (name, some (String.ofList value))
    | none => (text, none)
  match spec.flags.find? (·.long.toList = name), attached with
  | none, _ => refuse spec (.unexpectedArgument ("--" ++ String.ofList name))
  | some flag, some value =>
    if flag.value.isNone then refuse spec (.unexpectedValue value flag)
    else takeFlag spec env state flag (some value)
  | some flag, none => takeFlag spec env state flag none

/-- Takes letters behind one dash. -/
def takeLetters (state : Reading) : List Char → Except Stop Reading
  | [] => .ok state
  | c :: rest =>
    match spec.flags.find? (·.letter = some c) with
    | none => refuse spec (.unexpectedArgument ("-" ++ c.toString))
    | some flag =>
      if flag.value.isSome then
        let attached := match rest with
          | [] => none
          | '=' :: value => some (String.ofList value)
          | value => some (String.ofList value)
        takeFlag spec env state flag attached
      else do takeLetters (← takeFlag spec env state flag none) rest

/-- Whether a flag waits for its value. -/
def Reading.waits (state : Reading) : Bool := state.pending.any (·.2.isNone)

/-- An argument that is no flag and no value. -/
def stray (state : Reading) (arg : String) : UsageError :=
  let isCommand := spec.commands.any (·.1 = arg)
  if spec.commands.isEmpty || state.plain && isCommand then .unexpectedArgument arg
  else .unrecognizedCommand arg

/-- Reads arguments up to the end, or up to a command and the arguments behind it. -/
def readArguments (state : Reading) : List String → Except Stop (Reading × Option (String × List String))
  | [] => .ok (state, none)
  | arg :: rest =>
    if state.plain then refuse spec (stray spec state arg)
    else if !state.waits && spec.commands.any (·.1 = arg) then .ok (state, some (arg, rest))
    else match arg.toList with
      | ['-', '-'] => readArguments { state with plain := true } rest
      | '-' :: '-' :: text => do readArguments (← takeLong spec env state text) rest
      | '-' :: c :: letters => do readArguments (← takeLetters spec env state (c :: letters)) rest
      | _ =>
        match state.pending with
        | some (flag, none) => readArguments { state with pending := some (flag, some arg) } rest
        | _ => refuse spec (stray spec state arg)

/-- Takes a flag's value from its variable if the flag is absent. -/
def takeVariable (state : Reading) (flag : Flag) : Except Stop Reading :=
  match (state.values.lookup flag.long).isNone, flag.setBy >>= env with
  | true, some value => setFlag spec env state flag (some value)
  | _, _ => .ok state

/-- Completes what was read: values from variables, and whether all that is required is there. -/
def complete (state : Reading) : Except Stop (List (String × String)) := do
  let state ← settle spec env state
  let state ← spec.flags.foldlM (takeVariable spec env) state
  match spec.flags.filter fun flag => flag.required && (state.values.lookup flag.long).isNone with
  | [] => return state.values
  | missing => refuse spec (.missingFlags missing)

end Read

end Interceptor.Command
