/-
# Interceptor.Host — what the program needs of its surroundings

A host gives the program files, the time, randomness, a place to listen on, and
somewhere to write. `Desk` is a host in memory: files that are changed by
writing, and everything that was logged and printed.

A command error is a message with the messages of what caused it, the nearest first.
-/
import Interceptor.Certificate.Root
import Interceptor.Files
import Interceptor.Log
import Interceptor.Net.LocalNames

namespace Interceptor

set_option autoImplicit false

open Certificate Net

/-- Surroundings of the program. -/
structure Host (m : Type → Type) where
  read : String → m (Except IoError (List UInt8))
  write : String → List UInt8 → m (Except IoError Unit)
  /-- Listens on an address and gives the address that clients can use. -/
  listen : SocketAddr → m (Except IoError SocketAddr)
  /-- Serves clients until it is told to stop. -/
  serve : m Unit
  /-- The time in seconds. -/
  now : m Nat
  /-- Fresh randomness for a key. -/
  seed : m (List UInt8)
  log : LogFormat → LogLine → m Unit
  print : String → m Unit

/-- Why a command fails. -/
structure CommandError where
  message : String
  causes : List String := []
  code : Nat := 1
  deriving DecidableEq, Repr

namespace CommandError

/-- A text whose further lines stand below the first, behind `indent` blanks. -/
def hanging (first : String) (indent : Nat) (text : String) : String :=
  let lines := (Text.splitAll '\n' text.toList).map String.ofList
  first ++ ("\n" ++ "".pushn ' ' indent).intercalate lines

/-- A cause behind its number, which has five places. -/
def numbered (cause : String) (number : Nat) : String :=
  let digits := toString number
  hanging ("".pushn ' ' (5 - digits.length) ++ digits ++ ": ") 7 cause

/-- The error as text. Causes are numbered if there are several. -/
def render (error : CommandError) : String :=
  let causes := match error.causes with
    | [] => []
    | [cause] => ["", "Caused by:", hanging "    " 4 cause]
    | causes => "" :: "Caused by:" :: causes.mapIdx fun number cause => numbered cause number
  "\n".intercalate (("Error: " ++ error.message) :: causes) ++ "\n"

end CommandError

variable {m : Type → Type} [Monad m]

/-- The text of a file. -/
def Host.readText (host : Host m) (path : String) : m (Except IoError String) := do
  match ← host.read path with
  | .error error => return .error error
  | .ok bytes =>
    return (String.fromUTF8? (ByteArray.mk bytes.toArray)).elim (.error .notUtf8) .ok

/-- The root whose certificate and key are in two files. -/
def Host.readRoot (host : Host m) (certificatePath keyPath : String) : m (Except CertificateError Root) :=
  ExceptT.run do
    let certificate ← ExceptT.mk do return (← host.readText certificatePath).mapError (.read certificatePath)
    let key ← ExceptT.mk do return (← host.readText keyPath).mapError (.read keyPath)
    ExceptT.mk (pure (Root.ofPem certificate key))

/-- Surroundings in memory. -/
structure Desk where
  files : Files := {}
  time : Nat := 0
  randomness : List UInt8 := []
  logged : List (LogFormat × LogLine) := []
  printed : String := ""

/-- The host of a desk. -/
def Desk.host : Host (StateM Desk) where
  read path := return (← get).files.read path
  write path content := modifyGet fun desk =>
    let (outcome, files) := desk.files.write path content
    (outcome, { desk with files })
  listen addr := return LocalNames.listen addr
  serve := return ()
  now := return (← get).time
  seed := return (← get).randomness
  log format line := modify fun desk => { desk with logged := desk.logged ++ [(format, line)] }
  print text := modify fun desk => { desk with printed := desk.printed ++ text }

end Interceptor
