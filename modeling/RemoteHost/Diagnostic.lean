/-
RemoteHost/Diagnostic.lean

Diagnostics: what a caller shows its user.

A failure becomes a diagnostic with a fixed summary for its kind and with its
message and output as the detail.  A diagnostic has a JSON form, which it can be
read back from.
-/
import RemoteHost.Failure
import RemoteHost.Json.Record

namespace RemoteHost

/-- How much a diagnostic weighs. -/
inductive Severity where
  | error
  | warning
  deriving DecidableEq, Repr

/-- The name of a severity. -/
def Severity.name : Severity → String
  | .error => "error"
  | .warning => "warning"

/-- A message for the user. -/
structure Diagnostic where
  severity : Severity
  summary : String
  detail : String
  deriving DecidableEq, Repr

namespace Diagnostic

/-- The summary for failures of a kind. -/
def summaryFor : FailureKind → String
  | .missingCredential => "Missing credentials"
  | .malformedKey => "Invalid private key"
  | .malformedCertificate => "Invalid certificate"
  | .malformedHostKey => "Invalid host key"
  | .dialFailed => "Unable to connect to host"
  | .sessionFailed => "Unable to open remote session"
  | .commandFailed => "Remote command failed"
  | .transferFailed => "File transfer failed"
  | .rebootTimeout => "Host did not come back after reboot"
  | .reconnectFailed => "Unable to reconnect after reboot"
  | .invalidEncoding => "Invalid base64 payload"
  | .sourceUnreadable => "Unable to read source file"
  | .invalidPort => "Invalid WinRM port"
  | .connectionTimeout => "WinRM connection timed out"
  | .invalidCredentials => "Invalid WinRM credentials"
  | .connectionFailed => "WinRM connection failed"
  | .notFound => "Not found"
  | .parseFailed => "Unable to parse command output"
  | .invalidPattern => "Invalid pattern"
  | .invalidMode => "Invalid permission mode"
  | .notConnected => "Not connected"
  | .cancelled => "Operation cancelled"

/-- The diagnostic of a failure. -/
def ofFailure (e : Failure) : Diagnostic where
  severity := .error
  summary := summaryFor e.kind
  detail := e.message ++
    match e.shownOutput with
    | some t => "\n\n" ++ t
    | none => ""

/-- The diagnostic reports an error. -/
def isError (d : Diagnostic) : Bool := d.severity == .error

/-! ### JSON -/

/-- The JSON form. -/
def toJson (d : Diagnostic) : Json :=
  .obj [("severity", .str d.severity.name), ("summary", .str d.summary), ("detail", .str d.detail)]

/-- A diagnostic that is being read. -/
structure Draft where
  severity : Option Severity := none
  summary : Option String := none
  detail : Option String := none

/-- The fields of a diagnostic. -/
def schema : Json.Schema Draft where
  name := "Diagnostic"
  fields :=
    [ { name := "severity", required := true, isSet := fun d => d.severity.isSome
        read := do
          let v ← Json.readChoice [("error", Severity.error), ("warning", Severity.warning)]
          pure fun d => { d with severity := some v } },
      { name := "summary", required := true, isSet := fun d => d.summary.isSome
        read := do
          let v ← Json.readText
          pure fun d => { d with summary := some v } },
      { name := "detail", required := true, isSet := fun d => d.detail.isSome
        read := do
          let v ← Json.readText
          pure fun d => { d with detail := some v } } ]

/-- Read a diagnostic from its JSON form. -/
def decode (text : String) : Except Json.Fault Diagnostic :=
  (schema.decode {} text).map fun d =>
    ⟨d.severity.getD .error, d.summary.getD "", d.detail.getD ""⟩

end Diagnostic

end RemoteHost
