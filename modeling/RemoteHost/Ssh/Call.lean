/-
RemoteHost/Ssh/Call.lean

The calls that working on a host over SSH makes to the outside.

A connection is named by its number: the first login has number 1 and every later
one the next number.
-/
import RemoteHost.CommandLog
import RemoteHost.Dialogue
import RemoteHost.Ssh.Config

namespace RemoteHost.Ssh

/-- What a finished command leaves: its combined output and its exit status. -/
structure CommandResult where
  output : String
  status : Int
  deriving DecidableEq, Repr

/-- A call to the outside. -/
inductive Call where
  /-- Connect to an address and log in. -/
  | dial (address : String) (policy : Policy)
  /-- Run a command and wait for it. -/
  | execute (connection : Nat) (command : String)
  /-- Start a command without waiting for it. -/
  | start (connection : Nat) (command : String)
  /-- Write a file with permission bits. -/
  | sendFile (connection : Nat) (path : String) (mode : Nat) (data : Bytes)
  | close (connection : Nat)
  /-- See whether an address accepts connections. -/
  | probe (address : String) (timeoutSecs : Nat)
  | sleep (secs : Nat)
  /-- Read the clock. -/
  | now
  /-- Add to the log of commands. -/
  | record (r : LogRecord)
  /-- Report to the log of the program. -/
  | report (r : LogRecord)
  deriving DecidableEq, Repr

/-- What the outside answers to a call. -/
def Call.Reply : Call → Type
  | dial _ _ => Outcome Unit
  | execute _ _ => Outcome CommandResult
  | start _ _ => Outcome Unit
  | sendFile _ _ _ _ => Outcome Unit
  | close _ => Outcome Unit
  | probe _ _ => Bool
  | sleep _ => Unit
  | now => Nat
  | record _ => Unit
  | report _ => Unit

/-- An operation on a host. -/
abbrev Talk := Dialogue Call Call.Reply

namespace Talk

/-- Connect to an address and log in. -/
def dial (address : String) (policy : Policy) : Talk (Outcome Unit) :=
  .ask (.dial address policy) .done

/-- Run a command and wait for it. -/
def execute (connection : Nat) (command : String) : Talk (Outcome CommandResult) :=
  .ask (.execute connection command) .done

/-- Start a command without waiting for it. -/
def start (connection : Nat) (command : String) : Talk (Outcome Unit) :=
  .ask (.start connection command) .done

/-- Write a file with permission bits. -/
def sendFile (connection : Nat) (path : String) (mode : Nat) (data : Bytes) :
    Talk (Outcome Unit) :=
  .ask (.sendFile connection path mode data) .done

/-- Close a connection. -/
def close (connection : Nat) : Talk (Outcome Unit) := .ask (.close connection) .done

/-- See whether an address accepts connections. -/
def probe (address : String) (timeoutSecs : Nat) : Talk Bool :=
  .ask (.probe address timeoutSecs) .done

/-- Let time pass. -/
def sleep (secs : Nat) : Talk Unit := .ask (.sleep secs) .done

/-- Read the clock. -/
def now : Talk Nat := .ask .now .done

/-- Add to the log of commands. -/
def record (r : LogRecord) : Talk Unit := .ask (.record r) .done

/-- Report to the log of the program. -/
def report (r : LogRecord) : Talk Unit := .ask (.report r) .done

end Talk

/-- The failure of a dial that an address refuses, with the reason of the system. -/
def refusedDial (address reason : String) : Failure where
  kind := .dialFailed
  message := "unable to connect to " ++ address ++ ": " ++ reason

end RemoteHost.Ssh
