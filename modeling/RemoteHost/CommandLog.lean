/-
RemoteHost/CommandLog.lean

Log records, and the log that keeps them in memory.
-/

namespace RemoteHost

/-- How much a log record weighs. -/
inductive Level where
  | error
  | warn
  | info
  | debug
  | trace
  deriving DecidableEq, Repr

/-- The name of a level. -/
def Level.name : Level → String
  | .error => "ERROR"
  | .warn => "WARN"
  | .info => "INFO"
  | .debug => "DEBUG"
  | .trace => "TRACE"

/-- The level with a name. -/
def Level.ofName? (s : String) : Option Level :=
  [Level.error, .warn, .info, .debug, .trace].find? (·.name == s)

/-- The level is shown unless a reader asks for more: a warning or an error. -/
def Level.isAlert : Level → Bool
  | .error | .warn => true
  | _ => false

/-- A log record. -/
structure LogRecord where
  level : Level
  message : String
  deriving DecidableEq, Repr

namespace LogRecord

/-- An error. -/
def error (message : String) : LogRecord := ⟨.error, message⟩

/-- A warning. -/
def warn (message : String) : LogRecord := ⟨.warn, message⟩

/-- An information. -/
def info (message : String) : LogRecord := ⟨.info, message⟩

/-- A debugging aid. -/
def debug (message : String) : LogRecord := ⟨.debug, message⟩

end LogRecord

/-- The log of the commands that are sent to a host, oldest first. -/
structure CommandLog where
  records : List LogRecord := []
  deriving DecidableEq, Repr

namespace CommandLog

/-- Add a record. -/
def record (log : CommandLog) (r : LogRecord) : CommandLog := ⟨log.records ++ [r]⟩

/-- Forget all records. -/
def clear (_ : CommandLog) : CommandLog := {}

/-- The messages, oldest first. -/
def messages (log : CommandLog) : List String := log.records.map (·.message)

/-- The target under which commands are logged when no log of their own is given. -/
def target : String := "hostexec::command"

end CommandLog

end RemoteHost
