/-
# Interceptor.Error — what can go wrong, and how it is said

Errors are causes. `IoError` comes from files and connections, `CertificateError`
from the certificate authority, and `ProxyError` from one exchange: it carries
the target the exchange was working on, so that its message leads with it.

The wording is in the `message` functions and nowhere else.

* `bind_eq_ok_iff`, `isOk_iff_exists`, `map_eq_ok_iff`, `mapError_eq_ok_iff`: what comes of steps that may fail one after another.
-/
import Interceptor.Text.Duration
import Interceptor.Http.Method

namespace Interceptor

set_option autoImplicit false

open Http

/-- What sort of error came from a file or a connection. -/
inductive IoErrorKind
  | notFound
  | permissionDenied
  | connectionRefused
  | connectionReset
  | networkUnreachable
  | addrInUse
  | addrNotAvailable
  | brokenPipe
  | invalidInput
  | invalidData
  | timedOut
  | writeZero
  | unexpectedEof
  | isADirectory
  | notADirectory
  | unsupported
  | other
  | uncategorized
  deriving DecidableEq, Repr

namespace IoErrorKind

def description : IoErrorKind → String
  | .notFound => "entity not found"
  | .permissionDenied => "permission denied"
  | .connectionRefused => "connection refused"
  | .connectionReset => "connection reset"
  | .networkUnreachable => "network unreachable"
  | .addrInUse => "address in use"
  | .addrNotAvailable => "address not available"
  | .brokenPipe => "broken pipe"
  | .invalidInput => "invalid input parameter"
  | .invalidData => "invalid data"
  | .timedOut => "timed out"
  | .writeZero => "write zero"
  | .unexpectedEof => "unexpected end of file"
  | .isADirectory => "is a directory"
  | .notADirectory => "not a directory"
  | .unsupported => "unsupported"
  | .other => "other error"
  | .uncategorized => "uncategorized error"

/-- The name of the kind. -/
def name : IoErrorKind → String
  | .notFound => "NotFound"
  | .permissionDenied => "PermissionDenied"
  | .connectionRefused => "ConnectionRefused"
  | .connectionReset => "ConnectionReset"
  | .networkUnreachable => "NetworkUnreachable"
  | .addrInUse => "AddrInUse"
  | .addrNotAvailable => "AddrNotAvailable"
  | .brokenPipe => "BrokenPipe"
  | .invalidInput => "InvalidInput"
  | .invalidData => "InvalidData"
  | .timedOut => "TimedOut"
  | .writeZero => "WriteZero"
  | .unexpectedEof => "UnexpectedEof"
  | .isADirectory => "IsADirectory"
  | .notADirectory => "NotADirectory"
  | .unsupported => "Unsupported"
  | .other => "Other"
  | .uncategorized => "Uncategorized"

end IoErrorKind

/-- An error from a file or a connection. -/
structure IoError where
  kind : IoErrorKind
  /-- A text of its own, in place of the description of its kind. -/
  text : Option String := none
  deriving DecidableEq, Repr

namespace IoError

def message (e : IoError) : String := e.text.getD e.kind.description

/-- An error the operating system reports under a number. -/
def ofSystem (kind : IoErrorKind) (text : String) (number : Nat) : IoError :=
  ⟨kind, some (text ++ " (os error " ++ toString number ++ ")")⟩

def noSuchFile : IoError := ofSystem .notFound "No such file or directory" 2
def permissionDenied : IoError := ofSystem .permissionDenied "Permission denied" 13
def notADirectory : IoError := ofSystem .notADirectory "Not a directory" 20
def isADirectory : IoError := ofSystem .isADirectory "Is a directory" 21
def networkUnreachable : IoError := ofSystem .networkUnreachable "Network is unreachable" 101
def noSpace : IoError := ofSystem .uncategorized "No space left on device" 28
def nameTooLong : IoError := ofSystem .uncategorized "File name too long" 36
def tooManyLinks : IoError := ofSystem .uncategorized "Too many levels of symbolic links" 40
def nulInPath : IoError := ⟨.invalidInput, some "file name contained an unexpected NUL byte"⟩
def notUtf8 : IoError := ⟨.invalidData, some "stream did not contain valid UTF-8"⟩
def writeZero : IoError := ⟨.writeZero, none⟩

end IoError

/-- The kinds of text on a certificate. -/
inductive TextSort
  | utf8
  | printable
  | ia5
  | teletex
  | bmp
  | universal
  deriving DecidableEq, Repr

def TextSort.name : TextSort → String
  | .utf8 => "UTF8String"
  | .printable => "PrintableString"
  | .ia5 => "IA5String"
  | .teletex => "TeletexString"
  | .bmp => "BMPString"
  | .universal => "UniversalString"

/-- Why a certificate or a key could not be read or made. -/
inductive IssueError
  | keyPair
  | certificate
  | keyPem (text : String)
  /-- A text with characters that its kind does not have. -/
  | invalidText (sort : TextSort) (text : String)
  deriving DecidableEq, Repr

def IssueError.message : IssueError → String
  | .keyPair => "Could not parse key pair"
  | .certificate => "Could not parse certificate"
  | .keyPem text => "PEM error: " ++ text
  | .invalidText sort text => "Invalid " ++ sort.name ++ ": '" ++ text ++ "'"

/-- Errors of the certificate authority. -/
inductive CertificateError
  | missingCertificate
  | unsupportedRootKey
  | pem (source : IoError)
  | issue (source : IssueError)
  | read (path : String) (source : IoError)
  deriving DecidableEq, Repr

namespace CertificateError

def message : CertificateError → String
  | .missingCertificate => "no certificate found in root PEM"
  | .unsupportedRootKey => "root key must be ECDSA P-256"
  | .pem source => "invalid PEM: " ++ source.message
  | .issue source => "certificate generation failed: " ++ source.message
  | .read path source => "failed to read " ++ path ++ ": " ++ source.message

/-- The name of the kind of error. -/
def name : CertificateError → String
  | .missingCertificate => "MissingCertificate"
  | .unsupportedRootKey => "UnsupportedRootKey"
  | .pem _ => "Pem"
  | .issue _ => "Rcgen"
  | .read .. => "Read"

/-- The messages of the errors behind this one. -/
def causes : CertificateError → List String
  | .pem source => [source.message]
  | .issue source => [source.message]
  | .read _ source => [source.message]
  | _ => []

end CertificateError

/-- Errors of one exchange. -/
inductive ProxyError
  | request (target source : String)
  | hijackUnsupported (target : String)
  | upgrade (target source : String)
  | parentProxy (target source : String)
  | parentRefused (target : String) (status : Status)
  | certificate (target : String) (source : CertificateError)
  | handshake (target : String) (source : IoError)
  | handshakeTimeout (target : String) (timeout : Duration)
  | connect (target : String) (source : IoError)
  | connectTimeout (target : String) (timeout : Duration)
  | transfer (target : String) (source : IoError)
  | serve (target source : String)
  | missingMockResponse (target : String)
  | invalidTarget (target : String)
  deriving DecidableEq, Repr

namespace ProxyError

def message : ProxyError → String
  | .request target source => target ++ " - HTTP request error: " ++ source
  | .hijackUnsupported target => target ++ " - connection does not support hijacking"
  | .upgrade target source => target ++ " - connection upgrade failed: " ++ source
  | .parentProxy target source => target ++ " - failed to resolve parent proxy: " ++ source
  | .parentRefused target status =>
    target ++ " - parent proxy refused tunnel with status " ++ status.render
  | .certificate target source => target ++ " - failed to generate certificate: " ++ source.message
  | .handshake target source => target ++ " - TLS handshake failed: " ++ source.message
  | .handshakeTimeout target timeout => target ++ " - TLS handshake timed out after " ++ timeout.render
  | .connect target source => target ++ " - dial failed: " ++ source.message
  | .connectTimeout target timeout => target ++ " - dial timed out after " ++ timeout.render
  | .transfer target source => target ++ " - tunnel transfer failed: " ++ source.message
  | .serve target source => target ++ " - failed to serve decrypted connection: " ++ source
  | .missingMockResponse target => target ++ " - hook requested a mock response but set none"
  | .invalidTarget target => "invalid request target: " ++ target

/-- The name of the kind of error. -/
def name : ProxyError → String
  | .request .. => "Upstream"
  | .hijackUnsupported .. => "HijackUnsupported"
  | .upgrade .. => "Upgrade"
  | .parentProxy .. => "ParentProxy"
  | .parentRefused .. => "ParentRefused"
  | .certificate .. => "Certificate"
  | .handshake .. => "Handshake"
  | .handshakeTimeout .. => "HandshakeTimeout"
  | .connect .. => "Connect"
  | .connectTimeout .. => "ConnectTimeout"
  | .transfer .. => "Transfer"
  | .serve .. => "Serve"
  | .missingMockResponse .. => "MissingMockResponse"
  | .invalidTarget .. => "InvalidTarget"

/-- Whether another error stands behind this one. -/
def hasSource : ProxyError → Bool
  | .request .. | .upgrade .. | .parentProxy .. | .certificate .. | .handshake .. | .connect ..
  | .transfer .. | .serve .. => true
  | _ => false

end ProxyError

/-! ## Steps that may fail -/

/-- Two steps succeed if the first does and the second does with what the first gives. -/
theorem bind_eq_ok_iff {ε α β : Type} {first : Except ε α} {next : α → Except ε β} {value : β} :
    first >>= next = .ok value ↔ ∃ given, first = .ok given ∧ next given = .ok value := by
  cases first with
  | error e => simp [bind, Except.bind]
  | ok given => simp [bind, Except.bind]

theorem isOk_iff_exists {ε α : Type} {outcome : Except ε α} :
    outcome.isOk = true ↔ ∃ value, outcome = .ok value := by
  cases outcome with
  | error e => simp [Except.isOk, Except.toBool]
  | ok value => simp [Except.isOk, Except.toBool]

theorem map_eq_ok_iff {ε α β : Type} {outcome : Except ε α} {f : α → β} {value : β} :
    outcome.map f = .ok value ↔ ∃ given, outcome = .ok given ∧ f given = value := by
  cases outcome with
  | error e => simp [Except.map]
  | ok given => simp [Except.map]

theorem mapError_eq_ok_iff {ε ε' α : Type} {outcome : Except ε α} {name : ε → ε'} {value : α} :
    outcome.mapError name = .ok value ↔ outcome = .ok value := by
  cases outcome with
  | error e => exact ⟨fun same => (by cases same), fun same => (by cases same)⟩
  | ok given => exact ⟨fun same => (by cases same; rfl), fun same => (by cases same; rfl)⟩

end Interceptor
