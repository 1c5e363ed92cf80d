/-
RemoteHost/Winrm/RemoteShell.lean

Shells and commands by envelopes.

A shell is opened and closed with one envelope each.  A command takes at least three: one
that starts it, one or more that ask for its output until it has ended, and one that lets
go of it.
-/
import RemoteHost.Winrm.Response
import RemoteHost.Winrm.SoapCall

namespace RemoteHost.Winrm.RemoteShell

/-! ### Shells -/

/-- Open a shell.  The result is its name. -/
def openShell : SoapTalk (Outcome String) := do
  match ← SoapTalk.request .createShell with
  | .error e => pure (.error e)
  | .ok response =>
    match Response.shellId? response with
    | some id => pure (.ok id)
    | none => pure (.error (talkFailure "create shell response carried no ShellId"))

/-- Close a shell. -/
def closeShell (shell : String) : SoapTalk (Outcome Unit) := do
  let r ← SoapTalk.request (.deleteShell shell)
  pure (r.map fun _ => ())

/-! ### Commands -/

/-- What a command has left so far, with a further part.  The exit code that is reported
last counts. -/
def gather (got next : ShellOutput) : ShellOutput where
  stdout := got.stdout ++ next.stdout
  stderr := got.stderr ++ next.stderr
  exitCode := next.exitCode.orElse fun _ => got.exitCode

/-- A failure that only says that there was no output in time. -/
def isIdle (e : Failure) : Bool := Text.contains e.message Protocol.receiveTimedOut

/-- Ask for the output of a command until it has ended, at most a number of times, and add
it to what there is. -/
def receive (shell command : String) :
    (polls : Nat) → ShellOutput → SoapTalk (Outcome ShellOutput)
  | 0, _ => .broken
  | polls + 1, got => do
    match ← SoapTalk.request (.receiveOutput shell command) with
    | .error e =>
      if isIdle e then receive shell command polls got else pure (.error e)
    | .ok response =>
      let part := Response.part response
      let got := gather got part.output
      if part.isDone then pure (.ok got) else receive shell command polls got

/-- The failure of a command, for a reason. -/
def commandFailure (message : String) : Failure where
  kind := .commandFailed
  message := message

/-- Let go of a command that has ended. -/
def letGo (shell command : String) : SoapTalk Unit := do
  match ← SoapTalk.request (.terminateCommand shell command) with
  | .ok _ => pure ()
  | .error e =>
    SoapTalk.report (.warn ("terminating command " ++ command ++ " failed: " ++ e.display))

/-- What is done once a command was started: its output is asked for until it ends, at most a
number of times, and then it is let go of. -/
def follow (polls : Nat) (shell id : String) (got : ShellOutput) :
    SoapTalk (Outcome ShellOutput) := do
  match ← receive shell id polls got with
  | .error e => pure (.error (commandFailure e.message))
  | .ok output =>
    letGo shell id
    pure (.ok output)

/-- Run a command in a shell and wait for it, asking for its output at most a number of
times. -/
def run (polls : Nat) (shell command : String) (arguments : List String) :
    SoapTalk (Outcome ShellOutput) := do
  match ← SoapTalk.request (.runCommand shell command arguments) with
  | .error e => pure (.error (commandFailure e.message))
  | .ok response =>
    match Response.commandId? response with
    | none => pure (.error (commandFailure "command response carried no CommandId"))
    | some id => follow polls shell id {}

end RemoteHost.Winrm.RemoteShell
