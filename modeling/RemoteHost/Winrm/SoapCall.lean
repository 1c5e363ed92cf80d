/-
RemoteHost/Winrm/SoapCall.lean

The calls that working in a shell makes to the service behind it: one for each envelope,
whatever it takes to send it.
-/
import RemoteHost.CommandLog
import RemoteHost.Dialogue
import RemoteHost.Failure
import RemoteHost.Winrm.Envelope

namespace RemoteHost.Winrm

/-- A call to a service. -/
inductive SoapCall where
  /-- Send the envelope of a request. -/
  | request (r : Request)
  /-- Report to the log of the program. -/
  | report (r : LogRecord)
  deriving DecidableEq, Repr

/-- What comes back from a call: the envelope that answers a request. -/
def SoapCall.Reply : SoapCall → Type
  | request _ => Outcome String
  | report _ => Unit

/-- An operation of envelopes. -/
abbrev SoapTalk := Dialogue SoapCall SoapCall.Reply

namespace SoapTalk

/-- Send the envelope of a request. -/
def request (r : Request) : SoapTalk (Outcome String) := .ask (.request r) .done

/-- Report to the log of the program. -/
def report (r : LogRecord) : SoapTalk Unit := .ask (.report r) .done

end SoapTalk

/-- A failure to talk to a service. -/
def talkFailure (message : String) : Failure where
  kind := .connectionFailed
  message := message

end RemoteHost.Winrm
