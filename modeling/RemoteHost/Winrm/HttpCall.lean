/-
RemoteHost/Winrm/HttpCall.lean

The calls that talking to a service over HTTP makes to the outside: requests, and what
has to be random or depends on the time.
-/
import RemoteHost.CommandLog
import RemoteHost.Dialogue
import RemoteHost.Http

namespace RemoteHost.Winrm

/-- A call to the outside. -/
inductive HttpCall where
  /-- Send a request, and follow the server where it sends the client on. -/
  | post (request : Http.Request)
  /-- Draw eight random bytes for a login. -/
  | nonce
  /-- Draw sixteen random bytes for a message. -/
  | messageId
  /-- Read the clock. -/
  | time
  /-- Read a local file. -/
  | localFile (path : String)
  /-- Report to the log of the program. -/
  | report (r : LogRecord)
  deriving DecidableEq, Repr

/-- What the outside answers to a call: the response or the causes why there is none,
random bytes, seconds and nanoseconds after the beginning of 1970, the bytes of a file or
the reason of the system. -/
def HttpCall.Reply : HttpCall → Type
  | post _ => Except (List String) Http.Response
  | nonce => Bytes
  | messageId => Bytes
  | time => Int × Nat
  | localFile _ => Except String Bytes
  | report _ => Unit

/-- An operation over HTTP. -/
abbrev HttpTalk := Dialogue HttpCall HttpCall.Reply

namespace HttpTalk

/-- Send a request. -/
def post (request : Http.Request) : HttpTalk (Except (List String) Http.Response) :=
  .ask (.post request) .done

/-- Draw eight random bytes. -/
def nonce : HttpTalk Bytes := .ask .nonce .done

/-- Draw sixteen random bytes. -/
def messageId : HttpTalk Bytes := .ask .messageId .done

/-- Read the clock. -/
def time : HttpTalk (Int × Nat) := .ask .time .done

/-- Read a local file. -/
def localFile (path : String) : HttpTalk (Except String Bytes) := .ask (.localFile path) .done

/-- Report to the log of the program. -/
def report (r : LogRecord) : HttpTalk Unit := .ask (.report r) .done

end HttpTalk

end RemoteHost.Winrm
