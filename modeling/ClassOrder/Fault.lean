import ClassOrder.Frame
import ClassOrder.Number.Amount
import ClassOrder.Timeline

/-!
# Faults

Everything that an operation can fail with, told apart by cause.  A fault has a text, which is
what a report shows of it, and a kind, by which the operations above decide what to do with it.

## Main definitions

* `FaultKind` — the kinds, with the four families that operations ask about.
* `SystemFault` — what the operating system reports.
* `Fault` — the causes.
* `Fault.kind`, `Fault.message` — kind and text of a cause.
-/

namespace ClassOrder

/-- The kinds of fault. -/
inductive FaultKind where
  /-- A setting is wrong. -/
  | configuration
  /-- There is no server to launch. -/
  | serverMissing
  /-- The server did not complete the handshake. -/
  | handshake
  /-- The byte stream shared with the server is unusable, for one of the three reasons below or
  another one. -/
  | protocol
  /-- A header block is wrong, or a frame is cut short. -/
  | framing
  /-- A body is no message. -/
  | decode
  /-- A stream is closed, or a pipe broke. -/
  | connectionLost
  /-- Nothing that was waited for came in time. -/
  | timeout
  /-- The server answered with an error. -/
  | domain
  /-- A message cannot be made of the given fields. -/
  | invalidMessage
  | brokenPipe
  | connectionReset
  | inputOutput
  | notFound
  | permissionDenied
  | isDirectory
  | notDirectory
  | alreadyThere
  | sameFile
  /-- A stream does not offer an operation. -/
  | unsupported
  /-- A value is not one that the operation can take. -/
  | badValue
  /-- A byte string is no text. -/
  | notText
  /-- A value is of a kind that the operation cannot take. -/
  | wrongType
  /-- An object lacks a field. -/
  | missingKey
  /-- A number is too large to count with. -/
  | overflow
  /-- An operation failed for a reason of its own. -/
  | other
  deriving DecidableEq, Repr, Inhabited

namespace FaultKind

/-- The session's own faults, which a caller is told about as such. -/
def isOwn : FaultKind → Bool
  | configuration | serverMissing | handshake | protocol | framing | decode | connectionLost
  | timeout | domain => true
  | _ => false

/-- Faults of the byte stream shared with the server. -/
def isProtocol : FaultKind → Bool
  | protocol | framing | decode | connectionLost => true
  | _ => false

/-- Faults that count as reported by the system; running out of time is one of them. -/
def isSystem : FaultKind → Bool
  | brokenPipe | connectionReset | inputOutput | notFound | permissionDenied | isDirectory
  | notDirectory | alreadyThere | sameFile | unsupported | timeout => true
  | _ => false

/-- Faults that count as a bad value; a missing operation and bytes that are no text are two of
them. -/
def isBadValue : FaultKind → Bool
  | badValue | unsupported | notText => true
  | _ => false

end FaultKind

/-- What the operating system reports. -/
inductive SystemFault where
  | brokenPipe
  | connectionReset
  | inputOutput
  | notFound
  | permissionDenied
  | badDescriptor
  | isDirectory
  | notDirectory
  | alreadyThere
  | tooManyLinks
  | nameTooLong
  | sameFile
  deriving DecidableEq, Repr, Inhabited

namespace SystemFault

def kind : SystemFault → FaultKind
  | brokenPipe => .brokenPipe
  | connectionReset => .connectionReset
  | inputOutput | badDescriptor | tooManyLinks | nameTooLong => .inputOutput
  | alreadyThere => .alreadyThere
  | sameFile => .sameFile
  | notFound => .notFound
  | permissionDenied => .permissionDenied
  | isDirectory => .isDirectory
  | notDirectory => .notDirectory

/-- The number and text that the system gives. -/
def message : SystemFault → String
  | brokenPipe => "[Errno 32] Broken pipe"
  | connectionReset => "[Errno 104] Connection reset by peer"
  | inputOutput => "[Errno 5] Input/output error"
  | notFound => "[Errno 2] No such file or directory"
  | permissionDenied => "[Errno 13] Permission denied"
  | badDescriptor => "[Errno 9] Bad file descriptor"
  | isDirectory => "[Errno 21] Is a directory"
  | notDirectory => "[Errno 20] Not a directory"
  | alreadyThere => "[Errno 17] File exists"
  | tooManyLinks => "[Errno 40] Too many levels of symbolic links"
  | nameTooLong => "[Errno 36] File name too long"
  | sameFile => "the two paths are one file"

end SystemFault

/-- A fault by its cause. -/
inductive Fault (τ : Type) where
  /-- A header block is wrong, or a frame is cut short. -/
  | framing (fault : FramingFault)
  /-- A body is no message. -/
  | decode (fault : DecodeFault)
  /-- A whole number in a body has too many digits. -/
  | integerTooLong
  /-- The server's output ended between two frames. -/
  | outputClosed
  /-- Waiting for the server's output failed. -/
  | outputUnavailable (cause : Fault τ)
  /-- Reading the server's output failed. -/
  | readFailed (cause : Fault τ)
  /-- This side closed the server's output. -/
  | readerClosed (cause : Fault τ)
  /-- The server closed its input. -/
  | inputClosed (cause : Fault τ)
  /-- This side closed the server's input. -/
  | writerClosed (cause : Fault τ)
  /-- No frame was complete in time. -/
  | noData (timeout : τ)
  /-- While a request waited for its response, one read waited longer than a read may. -/
  | requestStalled (method : String) (readTimeout timeout : τ)
  /-- A request waited longer for its response than a request may. -/
  | requestExpired (method : String) (timeout : τ)
  /-- The server answered a request with an error. -/
  | refused (method : String) (error : ErrorObject)
  /-- The server answered with a result that holds an error. -/
  | reported (action : String) (error : Json)
  /-- The handshake failed. -/
  | handshakeFailed (cause : Fault τ)
  /-- A number of seconds is not positive. -/
  | notPositive (setting : String) (value : Amount)
  /-- The server's command has no word. -/
  | emptyCommand
  /-- A variable should hold a number. -/
  | notNumber (variableName value : String)
  /-- The project's configuration is gone. -/
  | configGone (path : String)
  /-- No server is installed. -/
  | serverNotFound
  /-- The server could not be launched. -/
  | launchFailed (program : String) (cause : Fault τ)
  /-- A message cannot be made of the given fields. -/
  | invalidMessage (fields : List String)
  /-- The operating system refused. -/
  | system (fault : SystemFault)
  /-- A time is too long to be counted on a clock. -/
  | timeTooLong
  /-- A value is of a kind that the operation cannot take. -/
  | wrongType
  /-- An object lacks a field. -/
  | missingKey
  /-- A byte string is no text. -/
  | notText
  /-- A fault of a given kind with a text of its own. -/
  | raised (kind : FaultKind) (text : String)
  deriving Inhabited

namespace Fault

variable {τ : Type}

/-- The kind of a fault. -/
def kind : Fault τ → FaultKind
  | framing _ => .framing
  | decode _ => .decode
  | integerTooLong => .badValue
  | outputClosed | outputUnavailable _ | readFailed _ | readerClosed _ | inputClosed _
  | writerClosed _ => .connectionLost
  | noData _ | requestStalled .. | requestExpired .. => .timeout
  | refused .. | reported .. => .domain
  | handshakeFailed _ => .handshake
  | notPositive .. | emptyCommand | notNumber .. | configGone _ => .configuration
  | serverNotFound | launchFailed .. => .serverMissing
  | invalidMessage _ => .invalidMessage
  | system fault => fault.kind
  | timeTooLong => .overflow
  | wrongType => .wrongType
  | missingKey => .missingKey
  | notText => .notText
  | raised kind _ => kind

/-- The text of a fault in reports; empty where only the kind is told. -/
def message [Timeline τ] : Fault τ → String
  | framing fault => fault.message
  | decode fault => fault.message
  | integerTooLong => ""
  | outputClosed => "Language server closed its output"
  | outputUnavailable cause => "Language server output is unavailable: " ++ cause.message
  | readFailed cause => "Reading from language server failed: " ++ cause.message
  | readerClosed cause => "Channel reader is closed: " ++ cause.message
  | inputClosed cause => "Language server closed its input: " ++ cause.message
  | writerClosed cause => "Channel writer is closed: " ++ cause.message
  | noData timeout =>
    "No data from language server within " ++ Timeline.general timeout ++ " seconds"
  | requestStalled method readTimeout timeout =>
    "Request " ++ method ++ " timed out: no data from language server within " ++
      Timeline.general readTimeout ++ " seconds (request timeout " ++ Timeline.general timeout ++
      " seconds)"
  | requestExpired method timeout =>
    "Request " ++ method ++ " timed out after " ++ Timeline.general timeout ++ " seconds"
  | refused method error => method ++ " failed: " ++ error.message
  | reported action error => "Error " ++ action ++ ": " ++ error.shown
  | handshakeFailed cause => "Tailwind CSS language server handshake failed: " ++ cause.message
  | notPositive setting value => setting ++ " must be positive, got " ++ value.shown
  | emptyCommand => "server_command must not be empty"
  | notNumber variableName value => variableName ++ " must be a number, got " ++ Text.quote value
  | configGone path => "Tailwind config " ++ path ++ " disappeared"
  | serverNotFound =>
    "Tailwind CSS language server not found. Please install it with: " ++
      "npm install -g @tailwindcss/language-server"
  | launchFailed program cause =>
    "Could not launch Tailwind CSS language server " ++ Text.quote program ++ ": " ++ cause.message
  | invalidMessage _ => ""
  | system fault => fault.message
  | timeTooLong | wrongType | missingKey | notText => ""
  | raised _ text => text

/-- The time that a fault says was allowed, if it says so. -/
def timeout? : Fault τ → Option τ
  | noData timeout | requestStalled _ _ timeout | requestExpired _ timeout => some timeout
  | _ => none

/-- The time that a fault says one read was allowed, if it says so. -/
def readTimeout? : Fault τ → Option τ
  | requestStalled _ readTimeout _ => some readTimeout
  | _ => none

/-- The number of the error that the server answered with, if it gave one. -/
def code? : Fault τ → Option Int
  | refused _ error => some error.code
  | _ => none

/-- The details of the error that the server answered with, null if there are none. -/
def data : Fault τ → Json
  | refused _ error => error.data
  | _ => .null

/-- The names of the fields that are wrong, if that is the fault. -/
def wrongFields? : Fault τ → Option (List String)
  | decode (.wrongFields fields) | invalidMessage fields => some fields
  | _ => none

/-- The links that a path leads through lead round in a circle. -/
def circularLinks : Fault τ := .raised .other "the links lead round in a circle"

/-- A body's fault. -/
def ofBody : BodyFault → Fault τ
  | .decode fault => decode fault
  | .integerTooLong => integerTooLong

end Fault

end ClassOrder
