/-
RemoteHost/Esxi/Request.lean

Requests to an ESXi host.

A request is carried out by one command, whose output `conclude` turns into the
answer.  A search with a pattern that is no regular expression fails before any
command is sent.  How the command reaches the host is up to the caller.
-/
import RemoteHost.CommandLog
import RemoteHost.Esxi.Command
import RemoteHost.Esxi.Inventory
import RemoteHost.Regex.Parser

namespace RemoteHost.Esxi

/-- What is asked of a host. -/
inductive Request where
  | list
  /-- The first package whose name a regular expression matches. -/
  | find (pattern : String)
  | install (path : String) (verifySignature : Bool)
  | moduleParameters (module : String) (params : List (String × String))
  | remove (name : String)
  | maintenance (enabled : Bool)
  deriving DecidableEq, Repr

/-- What a host answers. -/
inductive Answer where
  | inventory (l : Inventory)
  | package (p : Package)
  | output (text : String)
  deriving DecidableEq, Repr

namespace Request

/-- The failure for a pattern that is no regular expression. -/
def invalidPattern (pattern : String) : Failure where
  kind := .invalidPattern
  message := "invalid pattern '" ++ pattern ++ "': <detail>"

/-- The command of a request. -/
def command : Request → Outcome String
  | list => .ok Command.list
  | find pattern =>
    match Regex.parse? pattern with
    | some _ => .ok Command.list
    | none => .error (invalidPattern pattern)
  | install path verify => .ok (Command.install path verify)
  | moduleParameters module params => .ok (Command.moduleParameters module params)
  | remove name => .ok (Command.remove name)
  | maintenance enabled => .ok (Command.maintenance enabled)

/-- The warning about lines that could not be read, if there are any. -/
def warnings (l : Inventory) : List LogRecord :=
  if l.isComplete then []
  else
    [.warn (toString l.issues.length ++ " of " ++
      toString (l.issues.length + l.packages.length) ++ " VIB lines could not be parsed")]

/-- The failure for a search that finds nothing. -/
def notFound (pattern : String) (l : Inventory) : Failure where
  kind := .notFound
  message := "no installed software matches '" ++ pattern ++ "'" ++
    if l.isComplete then "" else " (" ++ toString l.issues.length ++ " unparsed lines)"

/-- The answer to a search. -/
def findIn (pattern : String) (accepts : String → Bool) (l : Inventory) : Outcome Answer :=
  match l.find? accepts with
  | some p => .ok (.package p)
  | none => .error (notFound pattern l)

/-- The answer to a request whose command gave this outcome, with the warnings. -/
def conclude (request : Request) : Outcome String → Outcome Answer × List LogRecord
  | .error e => (.error e, [])
  | .ok output =>
    match request with
    | list =>
      let l := Inventory.ofOutput output
      (.ok (.inventory l), warnings l)
    | find pattern =>
      let l := Inventory.ofOutput output
      match Regex.parse? pattern with
      | some r => (findIn pattern r.isMatch l, warnings l)
      | none => (.error (invalidPattern pattern), [])
    | _ => (.ok (.output output), [])

end Request

end RemoteHost.Esxi
