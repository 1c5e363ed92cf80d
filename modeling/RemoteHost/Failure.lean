/-
RemoteHost/Failure.lean

Failures: what went wrong, in words, and what the remote side had printed.

The kind of a failure is decided where it arises and never changes while it
travels up; layers on the way only put their own words in front of the message.
-/
import RemoteHost.Text.Blank

namespace RemoteHost

/-- What kind of thing went wrong. -/
inductive FailureKind where
  /-- Neither a password nor a private key was given. -/
  | missingCredential
  /-- The private key cannot be read. -/
  | malformedKey
  /-- The certificate cannot be read. -/
  | malformedCertificate
  /-- The pinned host key cannot be read. -/
  | malformedHostKey
  /-- No connection, handshake or login. -/
  | dialFailed
  /-- No session on a live connection. -/
  | sessionFailed
  /-- A command ended with a status other than 0, or broke off. -/
  | commandFailed
  /-- A file did not arrive. -/
  | transferFailed
  /-- The host did not come back in time. -/
  | rebootTimeout
  /-- The host came back and could not be logged in to. -/
  | reconnectFailed
  /-- A payload is not base64. -/
  | invalidEncoding
  /-- A local file cannot be read. -/
  | sourceUnreadable
  /-- Nothing listens on the management port. -/
  | invalidPort
  /-- The management service did not answer in time. -/
  | connectionTimeout
  /-- The management service rejected the login. -/
  | invalidCredentials
  /-- The remote shell could not be opened for another reason. -/
  | connectionFailed
  /-- Nothing matches. -/
  | notFound
  /-- A command's output cannot be read. -/
  | parseFailed
  /-- A pattern is not a regular expression. -/
  | invalidPattern
  /-- A permission mode is not an octal number. -/
  | invalidMode
  /-- There is no live connection or shell. -/
  | notConnected
  /-- The caller cancelled. -/
  | cancelled
  deriving DecidableEq, Repr

namespace FailureKind

/-- The name of a kind as failures print it. -/
def name : FailureKind → String
  | missingCredential => "MissingCredential"
  | malformedKey => "MalformedKey"
  | malformedCertificate => "MalformedCertificate"
  | malformedHostKey => "MalformedHostKey"
  | dialFailed => "DialFailed"
  | sessionFailed => "SessionFailed"
  | commandFailed => "CommandFailed"
  | transferFailed => "TransferFailed"
  | rebootTimeout => "RebootTimeout"
  | reconnectFailed => "ReconnectFailed"
  | invalidEncoding => "InvalidEncoding"
  | sourceUnreadable => "SourceUnreadable"
  | invalidPort => "InvalidPort"
  | connectionTimeout => "ConnectionTimeout"
  | invalidCredentials => "InvalidCredentials"
  | connectionFailed => "ConnectionFailed"
  | notFound => "NotFound"
  | parseFailed => "ParseFailed"
  | invalidPattern => "InvalidPattern"
  | invalidMode => "InvalidMode"
  | notConnected => "NotConnected"
  | cancelled => "Cancelled"

/-- Every kind. -/
def all : List FailureKind :=
  [missingCredential, malformedKey, malformedCertificate, malformedHostKey, dialFailed,
   sessionFailed, commandFailed, transferFailed, rebootTimeout, reconnectFailed,
   invalidEncoding, sourceUnreadable, invalidPort, connectionTimeout, invalidCredentials,
   connectionFailed, notFound, parseFailed, invalidPattern, invalidMode, notConnected,
   cancelled]

/-- The kind with a name. -/
def ofName? (s : String) : Option FailureKind := all.find? (·.name == s)

/-- Kinds that arise while settings are read, before anything is sent. -/
def isConfiguration : FailureKind → Bool
  | missingCredential | malformedKey | malformedCertificate | malformedHostKey => true
  | _ => false

end FailureKind

/-- A failure. -/
structure Failure where
  kind : FailureKind
  message : String
  /-- What the remote side had printed, where a command was running. -/
  output : Option String := none
  deriving DecidableEq, Repr

namespace Failure

/-- The failure with the words of the caller in front. -/
def context (words : String) (e : Failure) : Failure :=
  { e with message := words ++ ": " ++ e.message }

/-- The failure with the output of the remote side. -/
def withOutput (output : String) (e : Failure) : Failure := { e with output := some output }

/-- The output worth showing: trimmed, and only if anything is left. -/
def shownOutput (e : Failure) : Option String := e.output.bind Text.trimmed?

/-- The text of a failure: its kind, its message and the output worth showing. -/
def display (e : Failure) : String :=
  "[" ++ e.kind.name ++ "] " ++ e.message ++
    match e.shownOutput with
    | some t => "\noutput:\n" ++ t
    | none => ""

end Failure

/-- The outcome of an operation. -/
abbrev Outcome (α : Type) := Except Failure α

/-- The same outcome, with the words of the caller in front of a failure's message. -/
def Outcome.context {α : Type} (words : String) : Outcome α → Outcome α
  | .ok a => .ok a
  | .error e => .error (e.context words)

end RemoteHost
