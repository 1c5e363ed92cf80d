/-
RemoteHost/Winrm/ShellCall.lean

The calls that working in the shells of a Windows host makes to the outside.

A shell is opened over a service and named by the text that the service gives it.  What
kind of thing a service is, is left open here: it is whatever the shell was opened over,
and later calls for the shell go to the same one.
-/
import RemoteHost.CommandLog
import RemoteHost.Dialogue
import RemoteHost.Failure
import RemoteHost.Winrm.Response

namespace RemoteHost.Winrm

/-- A call to the outside, over services of type `σ`. -/
inductive ShellCall (σ : Type) where
  /-- Open a shell. -/
  | openShell (service : σ)
  /-- Run a command in a shell and wait for it. -/
  | run (service : σ) (shell command : String) (arguments : List String)
  /-- Run a command in a shell and wait for it, or for the caller to cancel it. -/
  | runOrCancel (service : σ) (shell command : String) (arguments : List String)
  /-- Close a shell. -/
  | closeShell (service : σ) (shell : String)
  /-- Read a local file. -/
  | localFile (path : String)
  /-- Report to the log of the program. -/
  | report (r : LogRecord)
  deriving DecidableEq, Repr

/-- What the outside answers to a call: the name of a new shell, what a command leaves,
nothing at all for a command that was cancelled, the bytes of a file or the reason of the
system. -/
def ShellCall.Reply {σ : Type} : ShellCall σ → Type
  | openShell _ => Outcome String
  | run _ _ _ _ => Outcome ShellOutput
  | runOrCancel _ _ _ _ => Option (Outcome ShellOutput)
  | closeShell _ _ => Outcome Unit
  | localFile _ => Except String Bytes
  | report _ => Unit

/-- An operation in shells. -/
abbrev ShellTalk (σ : Type) := Dialogue (ShellCall σ) ShellCall.Reply

namespace ShellTalk

variable {σ : Type}

/-- Open a shell. -/
def openShell (service : σ) : ShellTalk σ (Outcome String) := .ask (.openShell service) .done

/-- Run a command in a shell and wait for it. -/
def run (service : σ) (shell command : String) (arguments : List String) :
    ShellTalk σ (Outcome ShellOutput) :=
  .ask (.run service shell command arguments) .done

/-- Run a command in a shell and wait for it, or for the caller to cancel it. -/
def runOrCancel (service : σ) (shell command : String) (arguments : List String) :
    ShellTalk σ (Option (Outcome ShellOutput)) :=
  .ask (.runOrCancel service shell command arguments) .done

/-- Close a shell. -/
def closeShell (service : σ) (shell : String) : ShellTalk σ (Outcome Unit) :=
  .ask (.closeShell service shell) .done

/-- Read a local file. -/
def localFile (path : String) : ShellTalk σ (Except String Bytes) := .ask (.localFile path) .done

/-- Report to the log of the program. -/
def report (r : LogRecord) : ShellTalk σ Unit := .ask (.report r) .done

end ShellTalk

end RemoteHost.Winrm
