/-
RemoteHost/Winrm/FileCopy.lean

Copying a file to a Windows host through the shells of a service.

A copy is a plan of scripts: one that makes an empty file, one for each chunk that
appends it, and one that reads the size back.  The scripts run one after the other, and
the first one that fails ends the copy.  A shell may serve only so many commands; when
it has, it is closed and another one is opened.  The shell that is open at the end is
closed, whatever came of the copy.
-/
import RemoteHost.Crypto.Words
import RemoteHost.PowerShell
import RemoteHost.Winrm.ShellCall

namespace RemoteHost.Winrm

/-! ### The plan of a copy -/

namespace FileCopy

/-- One script of a copy, and the words that name it in a failure. -/
structure Step where
  script : String
  words : String
  deriving DecidableEq, Repr

/-- Make an empty file, in a directory that is made as well where there is none. -/
def prepare (destination : String) : Step :=
  let path := PowerShell.quote destination
  { script :=
      "$parent = Split-Path -Parent " ++ path ++
        "; if ($parent -and -not (Test-Path $parent)) \x7b New-Item -ItemType Directory " ++
        "-Path $parent -Force | Out-Null \x7d; if (Test-Path " ++ path ++ ") \x7b Remove-Item " ++
        path ++ " -Force \x7d; New-Item -ItemType File -Path " ++ path ++ " -Force | Out-Null"
    words := "preparing " ++ destination }

/-- Append a chunk to the file. -/
def append (destination : String) (chunk : Bytes × Nat) : Step where
  script :=
    "$bytes = [System.Convert]::FromBase64String('" ++ Base64.encode chunk.1 ++
      "'); [System.IO.File]::AppendAllBytes(" ++ PowerShell.quote destination ++ ", $bytes)"
  words := "writing chunk " ++ toString chunk.2 ++ " of " ++ destination

/-- Read the size of the file. -/
def verify (destination : String) : Step where
  script := "(Get-Item " ++ PowerShell.quote destination ++ ").Length"
  words := "verifying " ++ destination

/-- The scripts of a copy, in order. -/
def plan (chunkSize : Nat) (data : Bytes) (destination : String) : List Step :=
  prepare destination :: (chunks chunkSize data).zipIdx.map (append destination) ++
    [verify destination]

/-- The failure of a copy. -/
def failure (message : String) : Failure where
  kind := .transferFailed
  message := message

/-- The output of a script, unless it wrote to the error stream. -/
def Step.conclude (s : Step) (out : ShellOutput) : Outcome String :=
  if Text.allBlank out.stderr then .ok out.stdout
  else .error (failure (s.words ++ ": " ++ Text.trim out.stderr))

/-- The size that a host reports, if it is the size of the data. -/
def checkSize (size : Nat) (destination output : String) : Outcome Nat :=
  match (Text.natValue 10 (Text.trimChars output.toList)).filter (· < UInt64.size) with
  | none =>
    .error (failure ("unable to read size of " ++ destination ++ ": '" ++ Text.trim output ++ "'"))
  | some remote =>
    if remote = size then .ok remote
    else
      .error (failure ("size mismatch for " ++ destination ++ ": local=" ++ toString size ++
        " remote=" ++ toString remote))

end FileCopy

/-! ### Copying -/

/-- Copies files over a service. -/
structure Copier (σ : Type) where
  service : σ
  /-- How many bytes one script appends; so many keep its command line below the limit of
  8191 characters. -/
  chunkSize : Nat := 1536
  /-- How many commands one shell serves. -/
  commandsPerShell : Nat := 15
  chunkSize_pos : 0 < chunkSize := by decide
  commandsPerShell_pos : 0 < commandsPerShell := by decide

namespace Copier

variable {σ : Type}

/-- The copier over a service, with the usual sizes. -/
def ofService (service : σ) : Copier σ := { service }

/-- The copier with another size of chunks, at least 1. -/
def withChunkSize (c : Copier σ) (size : Nat) : Copier σ :=
  { c with chunkSize := max size 1, chunkSize_pos := by omega }

/-- The copier with another number of commands for each shell, at least 1. -/
def withCommandsPerShell (c : Copier σ) (count : Nat) : Copier σ :=
  { c with commandsPerShell := max count 1, commandsPerShell_pos := by omega }

/-- An open shell, and how many commands it has served. -/
structure Lease where
  shell : String
  served : Nat := 0
  deriving DecidableEq, Repr

/-- Open a shell. -/
def newLease (c : Copier σ) : ShellTalk σ (Outcome Lease) := do
  let r ← ShellTalk.openShell c.service
  pure (r.map fun shell => { shell })

/-- A shell that may serve another command: the one that is held, or a new one. -/
def lease (c : Copier σ) : Option Lease → ShellTalk σ (Outcome Lease)
  | none => c.newLease
  | some l =>
    if l.served < c.commandsPerShell then pure (.ok l)
    else do
      match ← ShellTalk.closeShell c.service l.shell with
      | .error e => pure (.error e)
      | .ok _ => c.newLease

/-- Run one script.  The result comes with the shell that is held then; a failure to get
one leaves none. -/
def runStep (c : Copier σ) (held : Option Lease) (s : FileCopy.Step) :
    ShellTalk σ (Outcome String × Option Lease) := do
  match ← c.lease held with
  | .error e => pure (.error e, none)
  | .ok l =>
    let r ← ShellTalk.run c.service l.shell PowerShell.program (PowerShell.arguments s.script)
    pure (r.bind s.conclude, some { l with served := l.served + 1 })

/-- Run scripts until one fails.  The result is the output of the last one, or else the
text given. -/
def runSteps (c : Copier σ) (held : Option Lease) (output : String) :
    List FileCopy.Step → ShellTalk σ (Outcome String × Option Lease)
  | [] => pure (.ok output, held)
  | s :: ss => do
    match ← c.runStep held s with
    | (.error e, held) => pure (.error e, held)
    | (.ok output, held) => c.runSteps held output ss

/-- Close the shell that is held.  None is held afterwards, however that went. -/
def release (c : Copier σ) : Option Lease → ShellTalk σ (Option Lease)
  | none => pure none
  | some l => do
    match ← ShellTalk.closeShell c.service l.shell with
    | .ok _ => pure none
    | .error e => do
      ShellTalk.report (.warn ("closing copy shell failed: " ++ e.display))
      pure none

/-- Write data to a file, beginning with the shell that is held.  The result comes with the
shell that is held afterwards. -/
def copyHolding (c : Copier σ) (held : Option Lease) (data : Bytes) (destination : String) :
    ShellTalk σ (Outcome Nat × Option Lease) := do
  let (r, held) ← c.runSteps held "" (FileCopy.plan c.chunkSize data destination)
  let held ← c.release held
  pure (r.bind (FileCopy.checkSize data.length destination), held)

/-- Write data to a file, which is replaced where there is one.  The result is the size
that the host reports. -/
def copy (c : Copier σ) (data : Bytes) (destination : String) : ShellTalk σ (Outcome Nat) := do
  let (r, _) ← c.copyHolding none data destination
  pure r

end Copier

end RemoteHost.Winrm
