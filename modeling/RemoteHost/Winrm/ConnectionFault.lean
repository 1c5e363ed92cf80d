/-
RemoteHost/Winrm/ConnectionFault.lean

Why a shell could not be opened, read off the words of the failure.

The words come from the network, from the HTTP exchange or from the service.  They are
searched for phrases in lower case; the first cause that has one of its phrases in them
is taken, so a refused connection counts as that even where the words speak of a
timeout as well.
-/
import RemoteHost.Failure
import RemoteHost.Text.Ascii
import RemoteHost.Text.Search

namespace RemoteHost.Winrm

/-- Why a shell could not be opened. -/
inductive ConnectionFault where
  /-- Nothing listens on the port. -/
  | invalidPort
  /-- There was no answer in time. -/
  | timeout
  /-- The login was rejected. -/
  | invalidCredentials
  /-- Another reason. -/
  | other
  deriving DecidableEq, Repr

namespace ConnectionFault

/-- The phrases that tell a cause.  The number 401 alone is none, as it may be part of a
host's name. -/
def phrases : ConnectionFault → List String
  | invalidPort => ["connection refused", "invalid port", "no connection could be made"]
  | timeout => ["i/o timeout", "timed out", "timeout"]
  | invalidCredentials => ["http 401", "unauthorized"]
  | other => []

/-- A phrase of the cause occurs in a text. -/
def isToldBy (text : String) (f : ConnectionFault) : Bool :=
  f.phrases.any fun phrase => Text.contains (Text.toLowerAscii text) phrase

/-- The cause that a text tells. -/
def ofText (text : String) : ConnectionFault :=
  ([invalidPort, timeout, invalidCredentials].find? (isToldBy text)).getD other

/-- The kind of failure that a cause is. -/
def kind : ConnectionFault → FailureKind
  | invalidPort => .invalidPort
  | timeout => .connectionTimeout
  | invalidCredentials => .invalidCredentials
  | other => .connectionFailed

/-- A cause in words, for a service at an address. -/
def words (address : String) : ConnectionFault → String
  | invalidPort =>
    "unable to reach WinRM on " ++ address ++
      ", check that the port is correct and the service is listening"
  | timeout => "connection to " ++ address ++ " timed out"
  | invalidCredentials => "credentials rejected by " ++ address
  | other => "failed to connect to " ++ address

end ConnectionFault

/-- The failure to open a shell at an address, with its cause. -/
def connectionFailure (address : String) (e : Failure) : Failure :=
  let fault := ConnectionFault.ofText e.message
  { kind := fault.kind, message := fault.words address ++ ": " ++ e.message }

end RemoteHost.Winrm
