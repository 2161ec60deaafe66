/-
# Interceptor.Main — the program on a machine

The machine gives the program its files, its clock and its randomness. There are
no sockets to listen on, so a proxy that is started says so and ends.
-/
import Interceptor.Program
import Std.Time.DateTime.Timestamp

namespace Interceptor.Machine

set_option autoImplicit false

/-- An error of the machine. -/
def ioError : IO.Error → IoError
  | .noFileOrDirectory .. => .noSuchFile
  | .permissionDenied .. => .permissionDenied
  | .inappropriateType .. => .isADirectory
  | error => ⟨.other, some error.toString⟩

/-- Does something, and gives its error as a value. -/
def attempt {α : Type} (action : IO α) : IO (Except IoError α) := do
  try
    return .ok (← action)
  catch error =>
    return .error (ioError error)

/-- A text between the quotation marks of a record. -/
def quoted (text : String) : String :=
  "\"" ++ String.join (text.toList.map fun c =>
    if c = '"' then "\\\"" else if c = '\\' then "\\\\" else if c = '\n' then "\\n" else c.toString) ++ "\""

/-- A log line as it is written. -/
def written : LogFormat → LogLine → String
  | .text, line => line.level.text ++ " " ++ line.target ++ ": " ++ line.message
  | .json, line =>
    "\x7b\"level\":" ++ quoted line.level.text ++ ",\"fields\":\x7b\"message\":" ++ quoted line.message
      ++ "\x7d,\"target\":" ++ quoted line.target ++ "\x7d"

/-- What comes of listening where there are no sockets. -/
def unsupported : IoError := .ofSystem .unsupported "Operation not supported" 95

/-- The machine as surroundings of the program. -/
def host : Host IO where
  read path := attempt do return (← IO.FS.readBinFile path).toList
  write path content := attempt (IO.FS.writeBinFile path ⟨content.toArray⟩)
  listen _ := return .error unsupported
  serve := return ()
  now := return (← Std.Time.Timestamp.now).toSecondsSinceUnixEpoch.val.toNat
  seed := return (← IO.getRandomBytes 32).toList
  log format line := IO.eprintln (written format line)
  print text := IO.print text

end Interceptor.Machine

open Interceptor in
/-- Runs the program with the arguments and the environment of the process. -/
def main (args : List String) : IO UInt32 := do
  let names := [Command.configFlag.setBy.getD "", Program.filterVariable, Program.styleVariable, Program.plainVariable]
  let values ← names.mapM fun name => do return (name, ← IO.getEnv name)
  let ending ← Program.run Machine.host (fun name => (values.lookup name).join) args
  IO.eprint ending.complaint
  return ending.code.toUInt32
