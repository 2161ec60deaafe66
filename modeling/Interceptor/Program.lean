/-
# Interceptor.Program — from the arguments to the end

The program reads its arguments, sets up the log and carries out a command.
Running the proxy means loading the configuration, announcing what is unusual
about it, listening, and serving until told to stop.

Minting writes the certificate first and the key second. A file that was there
is replaced at once; when the second one cannot be written, the first has been.
-/
import Interceptor.Certificate.Authority
import Interceptor.Command
import Interceptor.Config.File
import Interceptor.Host
import Interceptor.Log.Filter

namespace Interceptor

set_option autoImplicit false

open Certificate

/-- The message of a file that cannot be used. -/
def Config.LoadError.message : Config.LoadError → String
  | .io error => error.message
  | .notWellFormed error => error.message
  | .decode error => error.message
  | .invalid fault => fault.message

/-- An authority as it is configured. -/
def Config.Interception.authority (interception : Config.Interception) (root : Root) (shared : KeyPair) :
    CertificateAuthority :=
  let authority := (CertificateAuthority.new root (some .empty)).withYears interception.validityYears.toNat
  if interception.reuseKey then authority.withSharedKey shared else authority

namespace Program

variable {m : Type → Type} [Monad m]

/-- Carrying out a command, which may fail. -/
abbrev Task (m : Type → Type) := ExceptT CommandError m

/-- How a task writes to the log. -/
structure Session (m : Type → Type) where
  host : Host m
  format : LogFormat
  filter : Log.Filter

namespace Session

def log (session : Session m) (level : LogLevel) (target message : String) : Task m Unit :=
  let line : LogLine := ⟨level, target, message⟩
  if session.filter.shows line then ExceptT.lift (session.host.log session.format line) else pure ()

/-- The configuration of a file, or the default one. -/
def loadConfig (session : Session m) : Option String → Task m Config
  | none => return {}
  | some path => do
    match Config.load (← ExceptT.lift (session.host.read path)) with
    | .ok config => return config
    | .error error => throw ⟨"Failed to load config from " ++ path, [error.message], 1⟩

/-- The root that is configured, or the development root. -/
def loadRoot (session : Session m) (interception : Config.Interception) : Task m Root := do
  let loaded ← match interception.certificatePath, interception.keyPath with
    | some certificate, some key => ExceptT.lift (session.host.readRoot certificate key)
    | _, _ => pure Root.development
  match loaded with
  | .ok root => return root
  | .error error => throw ⟨"Failed to load root CA", error.message :: error.causes, 1⟩

/-- The authority for intercepted tunnels, if they are intercepted. -/
def authority? (session : Session m) (interception : Config.Interception) :
    Task m (Option CertificateAuthority) := do
  if !interception.enabled then return none
  if interception.certificatePath.isNone then
    session.log .warn "rift_mitm"
      "Using the bundled development root CA; do not trust it outside test machines"
  let root ← session.loadRoot interception
  return some (interception.authority root (.ofSeed (← ExceptT.lift session.host.seed)))

/-- What is unusual about outbound connections, and how many are kept. -/
def announce (session : Session m) (outbound : Config.Outbound) : Task m Unit := do
  if outbound.skipVerify then
    session.log .warn "rift_mitm::transport::tls"
      "Upstream TLS certificate verification DISABLED (development/testing only)"
  let idle := if outbound.keepalive then outbound.maxIdlePerHost else 0
  session.log .info "rift_mitm::transport::client"
    ("Connection pool configured (HTTP/1.1): max_idle_per_host=" ++ toString idle ++ ", idle_timeout="
      ++ toString outbound.idleSecs ++ "s, connect_timeout=" ++ toString outbound.connectSecs ++ "s")

/-- A fault of the configuration as an error of the command. -/
def require {α : Type} (result : Except Config.Fault α) : Task m α :=
  match result with
  | .ok value => return value
  | .error fault => throw ⟨fault.message, [], 1⟩

/-- Runs the proxy. -/
def serve (session : Session m) (config : Config) : Task m Unit := do
  let addr ← require config.listen.socketAddr
  if let some parent ← require config.parentProxy then
    session.log .info "rift_mitm" ("Chaining through parent proxy " ++ parent.render)
  let authority ← session.authority? config.interception
  session.announce config.outbound
  match ← ExceptT.lift (session.host.listen addr) with
  | .error error => throw ⟨"Failed to bind " ++ toString addr, [error.message], 1⟩
  | .ok bound =>
    session.log .info "rift_mitm::server" ("Listening on http://" ++ toString bound)
    if authority.isSome then session.log .info "rift_mitm::server" "HTTPS decryption enabled"
    ExceptT.lift session.host.serve
    session.log .info "rift_mitm::server" "Shutting down listener"

/-- Writes a file. -/
def writeFile (session : Session m) (path content : String) : Task m Unit := do
  match ← ExceptT.lift (session.host.write path content.toUTF8.toList) with
  | .ok () => return ()
  | .error error => throw ⟨"Failed to write " ++ path, [error.message], 1⟩

/-- Writes a new root certificate and its key. -/
def mintRoot (session : Session m) (certificatePath keyPath commonName : String) (years : Nat) :
    Task m Unit := do
  let now ← ExceptT.lift session.host.now
  let seed ← ExceptT.lift session.host.seed
  let some (certificate, key) := Root.mint? commonName years now seed
    | throw ⟨"the root would be valid past the end of the calendar", [], 101⟩
  session.writeFile certificatePath certificate
  session.writeFile keyPath key
  session.log .info "rift_mitm"
    ("Wrote root certificate to " ++ certificatePath ++ " and key to " ++ keyPath)

/-- Carries out a command. -/
def execute (session : Session m) : Command → Task m Unit
  | .run path port intercept => do
    let config ← session.loadConfig path
    let listen := { config.listen with port := port.elim config.listen.port UInt16.ofNat }
    let interception := { config.interception with enabled := config.interception.enabled || intercept }
    session.serve { config with listen, interception }
  | .mintRoot certificatePath keyPath commonName years =>
    session.mintRoot certificatePath keyPath commonName years
  | .showRoot path => do
    let config ← session.loadConfig path
    let root ← session.loadRoot config.interception
    ExceptT.lift (session.host.print root.pem)

end Session

/-- The variable that sets the log filter. -/
def filterVariable : String := "RUST_LOG"

/-- The log filter: that of the environment if it is well formed, else that of the arguments, with
what is said about directives that are passed over. -/
def logFilter (env : String → Option String) (level : String) : Log.Filter × List String :=
  match env filterVariable >>= Log.Filter.read? with
  | some filter => (filter, [])
  | none =>
    let (filter, faults) := Log.Filter.readLossy level
    (filter, faults.map fun (part, error) => "ignoring \x60" ++ part ++ "\x60: " ++ error.message ++ "\n")

/-- How the program ends. -/
structure Ending where
  code : Nat
  /-- What it has to complain about. -/
  complaint : String := ""
  deriving DecidableEq, Repr

/-- The lines of what it has to complain about. A line ends in a line feed, or in a carriage return and a
line feed; the last one need not. -/
def Ending.lines (ending : Ending) : List String :=
  let parts := Text.splitAll '\n' ending.complaint.toList
  let ended := parts.dropLast.map fun line => if line.getLast? = some '\r' then line.dropLast else line
  (ended ++ parts.getLast?.toList.filter (!·.isEmpty)).map String.ofList

/-- The complaint about arguments that cannot be read. -/
def usageComplaint (error : Command.UsageError) (spec : Command.Spec) : String :=
  "\n".intercalate ((Text.Terminal.red "error:" ++ " " ++ error.message) :: error.details
    ++ ["", spec.usage, "", "For more information, try '" ++ Text.Terminal.bold "--help" ++ "'.", ""])

/-- The variables that ask for styled text where there is no terminal, and for plain text in any case. -/
def styleVariable : String := "CLICOLOR_FORCE"
def plainVariable : String := "NO_COLOR"

/-- A text about the arguments as it is shown: without styles unless they are asked for. -/
def shown (env : String → Option String) (text : String) : String :=
  let isSet (name : String) := (env name).any (!·.isEmpty)
  if isSet styleVariable && !isSet plainVariable then text else Text.Terminal.plain text

/-- Runs the program. -/
def run (host : Host m) (env : String → Option String) (args : List String) : m Ending := do
  match Command.read env args with
  | .error (.answer text) =>
    host.print (shown env text)
    return { code := 0 }
  | .error (.nothingSaid help) => return { code := 2, complaint := shown env help }
  | .error (.usage error spec) => return { code := 2, complaint := shown env (usageComplaint error spec) }
  | .ok invocation =>
    let (filter, remarks) := logFilter env invocation.logLevel
    match ← (Session.execute ⟨host, invocation.logFormat, filter⟩ invocation.command).run with
    | .ok () => return { code := 0, complaint := String.join remarks }
    | .error failure =>
      return { code := failure.code, complaint := String.join remarks ++ failure.render }

end Program

end Interceptor
