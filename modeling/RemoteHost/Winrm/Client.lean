/-
RemoteHost/Winrm/Client.lean

Commands and files on a Windows host, through one shell at a time.

A client holds the name of an open shell and the service over which it was opened, in two
places that are filled and emptied together.  Opening another shell closes it first.  A
command counts as failed when it writes to the error stream, whatever its exit code; the
failures of commands are kept.
-/
import RemoteHost.PowerShell
import RemoteHost.Winrm.Config
import RemoteHost.Winrm.ConnectionFault
import RemoteHost.Winrm.FileCopy

namespace RemoteHost.Winrm

/-- A client, over services of type `σ`. -/
structure Client (σ : Type) where
  config : Config := {}
  /-- The service over which the open shell was opened. -/
  transport : Option σ := none
  /-- The name of the open shell. -/
  shellId : Option String := none
  /-- The failures of commands, oldest first. -/
  errors : List Failure := []
  deriving DecidableEq, Repr

namespace Client

variable {σ : Type}

/-- The address of the host. -/
def address (c : Client σ) : String := c.config.target ++ ":" ++ toString c.config.port

/-- The client with the configuration of a context, with warnings. -/
def configure (c : Client σ) (context : Json) : Client σ × List LogRecord :=
  let (config, log) := Config.ofContext context
  ({ c with config }, log)

/-- The text of a client for debug output. -/
def debug (c : Client σ) : String :=
  "WinRmClient \x7b config: " ++ c.config.debug ++ ", shell_id: " ++
    (match c.shellId with
      | some id => "Some(" ++ Text.quoted id ++ ")"
      | none => "None") ++
    ", errors: " ++ toString c.errors.length ++ " \x7d"

/-! ### Shells -/

/-- The client without a shell. -/
def emptied (c : Client σ) : Client σ := { c with transport := none, shellId := none }

/-- Close the shell if one is open.  No shell is held afterwards, however that went. -/
def destroy (c : Client σ) : ShellTalk σ (Outcome Unit × Client σ) :=
  match c.shellId, c.transport with
  | some id, some service => do
    let r ← ShellTalk.closeShell service id
    pure (r, c.emptied)
  | _, _ => pure (.ok (), c.emptied)

/-- Report how closing an earlier shell went, if it failed. -/
def reportClosing (c : Client σ) : Outcome Unit → ShellTalk σ Unit
  | .ok _ => pure ()
  | .error e =>
    ShellTalk.report
      (.warn ("closing previous WinRM shell on " ++ c.config.target ++ " failed: " ++ e.display))

/-- Open a shell over a service, after closing an earlier one. -/
def openOver (c : Client σ) (service : σ) : ShellTalk σ (Outcome Unit × Client σ) := do
  let (closing, c) ← c.destroy
  c.reportClosing closing
  match ← ShellTalk.openShell service with
  | .ok id => pure (.ok (), { c with transport := some service, shellId := some id })
  | .error e =>
    let e := connectionFailure c.address e
    ShellTalk.report (.error e.display)
    pure (.error e, c)

/-! ### Commands -/

/-- The result of a command without output. -/
def successMarker : String := "SUCCESS"

/-- The output of a failed command. -/
def failMarker : String := "FAIL"

/-- The failure for an operation without a shell. -/
def notConnected (c : Client σ) : Failure where
  kind := .notConnected
  message := "no open WinRM shell on " ++ c.config.target

/-- The words that name a command in a failure. -/
def naming (c : Client σ) (command : String) : String :=
  "'" ++ command ++ "' on " ++ c.config.target

/-- The failure of a command, for a reason. -/
def commandFailure (c : Client σ) (command reason : String) : Failure where
  kind := .commandFailed
  message := c.naming command ++ " failed: " ++ reason
  output := some failMarker

/-- The failure of a command that was cancelled. -/
def cancelled (c : Client σ) (command : String) : Failure where
  kind := .cancelled
  message := c.naming command ++ " was cancelled"

/-- The result of a command that was run. -/
def conclude (c : Client σ) (command : String) : Outcome ShellOutput → Outcome String
  | .error e => .error (c.commandFailure command e.message)
  | .ok out =>
    if Text.allBlank out.stderr then
      .ok (if Text.allBlank out.stdout then successMarker else out.stdout)
    else .error (c.commandFailure command (Text.trim out.stderr))

/-- Report and keep the failure of a command. -/
def keep (c : Client σ) : Outcome String → ShellTalk σ (Outcome String × Client σ)
  | .ok output => pure (.ok output, c)
  | .error e => do
    ShellTalk.report (.error e.message)
    pure (.error e, { c with errors := c.errors ++ [e] })

/-- Run a command through PowerShell. -/
def execute (c : Client σ) (command : String) : ShellTalk σ (Outcome String × Client σ) :=
  match c.transport, c.shellId with
  | some service, some id => do
    let r ← ShellTalk.run service id PowerShell.program (PowerShell.arguments command)
    c.keep (c.conclude command r)
  | _, _ => pure (.error c.notConnected, c)

/-- Run a command through PowerShell, unless the caller cancels it. -/
def executeOrCancel (c : Client σ) (command : String) :
    ShellTalk σ (Outcome String × Client σ) :=
  match c.transport, c.shellId with
  | some service, some id => do
    match ← ShellTalk.runOrCancel service id PowerShell.program
        (PowerShell.arguments command) with
    | none => pure (.error (c.cancelled command), c)
    | some r => c.keep (c.conclude command r)
  | _, _ => pure (.error c.notConnected, c)

/-! ### Files -/

/-- The bytes of a local file. -/
def readSource (path : String) : ShellTalk σ (Outcome Bytes) := do
  match ← ShellTalk.localFile path with
  | .ok data => pure (.ok data)
  | .error reason =>
    pure (.error { kind := .sourceUnreadable
                   message := "unable to read " ++ path ++ ": " ++ reason })

/-- Copy a local file over a service, in shells of its own. -/
def uploadOver (service : σ) (source destination : String) : ShellTalk σ (Outcome Nat) := do
  match ← readSource source with
  | .error e => pure (.error e)
  | .ok data => (Copier.ofService service).copy data destination

/-! ### Sequences of operations -/

/-- An operation of a client. -/
inductive Operation (σ : Type) where
  | configure (context : Json)
  | openOver (service : σ)
  | execute (command : String)
  | executeOrCancel (command : String)
  | destroy

/-- The result of an operation. -/
inductive Result where
  | done
  | output (text : String)
  deriving DecidableEq, Repr

/-- The result of an operation that has none to show. -/
def finished (t : ShellTalk σ (Outcome Unit × Client σ)) :
    ShellTalk σ (Outcome Result × Client σ) := do
  let (r, c) ← t
  pure (r.map fun _ => .done, c)

/-- The result of a command. -/
def printed (t : ShellTalk σ (Outcome String × Client σ)) :
    ShellTalk σ (Outcome Result × Client σ) := do
  let (r, c) ← t
  pure (r.map .output, c)

/-- Report several records in order. -/
def reportAll : List LogRecord → ShellTalk σ Unit
  | [] => pure ()
  | r :: rs => do
    ShellTalk.report r
    reportAll rs

/-- Perform an operation. -/
def perform (c : Client σ) : Operation σ → ShellTalk σ (Outcome Result × Client σ)
  | .configure context => do
    let (c, log) := c.configure context
    reportAll log
    pure (.ok .done, c)
  | .openOver service => finished (c.openOver service)
  | .execute command => printed (c.execute command)
  | .executeOrCancel command => printed (c.executeOrCancel command)
  | .destroy => finished c.destroy

/-- Perform operations one after the other. -/
def performAll (c : Client σ) :
    List (Operation σ) → ShellTalk σ (List (Outcome Result) × Client σ)
  | [] => pure ([], c)
  | o :: os => do
    let (r, c) ← c.perform o
    let (rs, c) ← c.performAll os
    pure (r :: rs, c)

end Client

end RemoteHost.Winrm
