/-
# Interceptor.Command — the commands of the program

The program runs the proxy, mints a root certificate, or shows the one that
clients have to trust. `read` finds out from the arguments and the environment
what to do and what to log.
-/
import Interceptor.Command.Arguments
import Interceptor.Log

namespace Interceptor

set_option autoImplicit false

open Text.Terminal (bold heading)

/-- What the program is to do. -/
inductive Command
  /-- Run the proxy, with the port and the interception that were asked for. -/
  | run (config : Option String) (port : Option Nat) (intercept : Bool)
  /-- Write a new root certificate and its key to two files. -/
  | mintRoot (certificatePath keyPath commonName : String) (years : Nat)
  /-- Print the root certificate. -/
  | showRoot (config : Option String)
  deriving DecidableEq, Repr

/-- A command and how to log. -/
structure Invocation where
  logLevel : String
  logFormat : LogFormat
  command : Command
  deriving DecidableEq, Repr

namespace Command

def programName : String := "rift-mitm"

def logLevelFlag : Flag where
  long := "log-level"
  value := some ("LOG_LEVEL", .text)
  note := "Log filter, overridden by RUST_LOG"
  default := some "info"

def logFormatFlag : Flag where
  long := "log-format"
  value := some ("LOG_FORMAT", .choice ["text", "json"])
  default := some "text"

def helpFlag : Flag where
  long := "help"
  letter := some 'h'
  note := "Print help"
  effect := .help

def versionFlag : Flag where
  long := "version"
  letter := some 'V'
  note := "Print version"
  effect := .version

def configFlag : Flag where
  long := "config"
  letter := some 'c'
  value := some ("CONFIG", .path)
  setBy := some "RIFT_MITM_CONFIG"

def portFlag : Flag where
  long := "port"
  letter := some 'p'
  value := some ("PORT", .number Text.Unsigned.portBound)
  note := "Overrides \x60listen.port\x60"

def interceptFlag : Flag where
  long := "mitm"
  note := "Decrypt HTTPS tunnels regardless of \x60mitm.enabled\x60"

/-- A file that has to be named. -/
def fileFlag (long : String) : Flag where
  long := long
  value := some ("FILE", .path)
  required := true

def commonNameFlag : Flag where
  long := "common-name"
  value := some ("COMMON_NAME", .text)
  default := some "Rift MITM Root"

def yearsFlag : Flag where
  long := "years"
  value := some ("YEARS", .number 0xffffffff)
  default := some "10"

def runSpec : Spec where
  name := programName ++ " run"
  about := "Run the proxy"
  call := "[OPTIONS]"
  flags := [configFlag, logLevelFlag, logFormatFlag, portFlag, interceptFlag, helpFlag]

def mintSpec : Spec where
  name := programName ++ " gen-ca"
  about := "Write a new root certificate and key"
  call := "[OPTIONS] " ++ bold "--cert" ++ " <FILE> " ++ bold "--key" ++ " <FILE>"
  flags := [fileFlag "cert", logLevelFlag, fileFlag "key", logFormatFlag, commonNameFlag, yearsFlag, helpFlag]

def showSpec : Spec where
  name := programName ++ " print-ca"
  about := "Print the root certificate clients must trust"
  call := "[OPTIONS]"
  flags := [configFlag, logLevelFlag, logFormatFlag, helpFlag]

def helpAbout : String := "Print this message or the help of the given subcommand(s)"

def helpSpec : Spec where
  name := programName ++ " help"
  about := helpAbout
  call := "[COMMAND]...\n\n" ++ heading "Arguments:" ++ "\n" ++ "  [COMMAND]...  Print help for the subcommand(s)"
  flags := []

/-- The commands by name. -/
def specs : List (String × Spec) :=
  [("run", runSpec), ("gen-ca", mintSpec), ("print-ca", showSpec), ("help", helpSpec)]

def programSpec : Spec where
  name := programName
  about := "Intercepting HTTP/HTTPS forward proxy"
  call := "[OPTIONS] <COMMAND>"
  flags := [logLevelFlag, logFormatFlag, helpFlag, versionFlag]
  commands := specs.map fun (name, spec) => (name, spec.about)

/-- The help for the command that some names lead to. -/
def helpFor (env : String → Option String) : List String → Stop
  | [] => .answer (programSpec.help env)
  | name :: rest =>
    match specs.lookup name, rest with
    | some spec, [] => .answer (spec.help env)
    | some spec, other :: _ => .usage (.unrecognizedCommand other) spec
    | none, _ => .usage (.unrecognizedCommand name) programSpec

/-- A flag's value, or its default. -/
def valueOf (values : List (String × String)) (flag : Flag) : Option String :=
  values.lookup flag.long <|> flag.default

/-- A flag's value as a number. -/
def numberOf (values : List (String × String)) (flag : Flag) : Option Nat := do
  (readNumber 0xffffffff (← valueOf values flag)).toOption

/-- The command of a name and its flags. -/
def ofValues (name : String) (values : List (String × String)) : Command :=
  let text (flag : Flag) := (valueOf values flag).getD ""
  if name = "run" then
    .run (valueOf values configFlag) (numberOf values portFlag) (valueOf values interceptFlag).isSome
  else if name = "gen-ca" then
    .mintRoot (text (fileFlag "cert")) (text (fileFlag "key")) (text commonNameFlag)
      ((numberOf values yearsFlag).getD 0)
  else .showRoot (valueOf values configFlag)

/-- Completes a call that names no command. -/
def withoutCommand (env : String → Option String) (state : Reading) : Except Stop Invocation := do
  let state ← settle programSpec env state
  if state.values.isEmpty then .error (.nothingSaid (programSpec.help env))
  else refuse programSpec (.missingCommand programName)

/-- Reads the arguments of the program. -/
def read (env : String → Option String) (args : List String) : Except Stop Invocation := do
  let (outer, command) ← readArguments programSpec env {} args
  let some (name, rest) := command | withoutCommand env outer
  let some spec := specs.lookup name | refuse programSpec (.unrecognizedCommand name)
  if name = "help" then .error (helpFor env rest)
  let (inner, _) ← readArguments spec env {} rest
  let values ← complete spec env inner
  let outerValues ← complete programSpec env outer
  let shared (flag : Flag) : String :=
    (values.lookup flag.long <|> valueOf outerValues flag).getD ""
  return {
    logLevel := shared logLevelFlag
    logFormat := if shared logFormatFlag = "json" then .json else .text
    command := ofValues name values }

end Command

end Interceptor
