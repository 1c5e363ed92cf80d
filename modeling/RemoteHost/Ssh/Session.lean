/-
RemoteHost/Ssh/Session.lean

Working on a host: commands, files and reboots over one login at a time.

A session keeps the address and the policy of its first login.  Every command is
logged, in its exact words, right before it is sent.  A reboot closes the connection,
waits for the host to come back and logs in again; from a reboot that fails after its
command was started the session has no connection any more, and every operation that
needs one fails.
-/
import RemoteHost.Esxi.Request
import RemoteHost.Shell.Quote
import RemoteHost.Ssh.FileMode
import RemoteHost.Ssh.Reachability
import RemoteHost.Text.Base64
import RemoteHost.Text.Quoted

namespace RemoteHost.Ssh

/-- The answers to the prompts of a login by dialogue: the password, every time. -/
def promptAnswers (password : String) (prompts : List String) : List String :=
  prompts.map fun _ => password

/-- A session with a host. -/
structure Session where
  address : String
  policy : Policy
  polling : PollPolicy := {}
  rebootCommand : String := "reboot"
  /-- The number of the live connection, if there is one. -/
  connection : Option Nat
  deriving DecidableEq, Repr

namespace Session

/-! ### Logging in and out -/

/-- Log in to the host of a configuration. -/
def connect (c : Config) : Talk (Outcome Session) :=
  match c.resolve with
  | .error e => pure (.error e)
  | .ok policy => do
    let reply ← Talk.dial c.address policy
    pure (reply.map fun _ => { address := c.address, policy, connection := some 1 })

/-- There is a live connection. -/
def isConnected (s : Session) : Bool := s.connection.isSome

/-- End the session. -/
def close (s : Session) : Talk (Outcome Unit) :=
  match s.connection with
  | some n => Talk.close n
  | none => pure (.ok ())

/-- The text of a session for debug output. -/
def debug (s : Session) : String :=
  "SshProvisioner \x7b address: " ++ Text.quoted s.address ++ ", connected: " ++
    (if s.isConnected then "true" else "false") ++ ", poll: " ++ s.polling.debug ++ " \x7d"

/-- The failure for an operation without a connection. -/
def notConnected (s : Session) : Failure where
  kind := .notConnected
  message := "no live transport to " ++ s.address

/-! ### Commands -/

/-- The words that name a command in a failure. -/
def naming (s : Session) (command : String) : String := "'" ++ command ++ "' on " ++ s.address

/-- Log a command. -/
def announce (command : String) : Talk Unit :=
  Talk.record (.info ("running command: " ++ command))

/-- The output of a finished command, if it ended with status 0. -/
def conclude (s : Session) (command : String) (r : CommandResult) : Outcome String :=
  if r.status = 0 then .ok r.output
  else
    .error { kind := .commandFailed
             message := s.naming command ++ " exited with status " ++ toString r.status
             output := some r.output }

/-- Run a command; the result is its output. -/
def run (s : Session) (command : String) : Talk (Outcome String) := do
  announce command
  match s.connection with
  | none => pure (.error s.notConnected)
  | some n =>
    match ← Talk.execute n command with
    | .error e => pure (.error (e.context (s.naming command)))
    | .ok r => pure (s.conclude command r)

/-- The command that runs another one in a directory.  The directory stands there as
it is given, for the shell to expand. -/
def inDirectory (directory command : String) : String := "cd " ++ directory ++ " && " ++ command

/-- Run a command in a directory. -/
def runIn (s : Session) (directory command : String) : Talk (Outcome String) :=
  s.run (inDirectory directory command)

/-! ### Files -/

/-- The command that lists a directory. -/
def listCommand (path : String) : String := "ls -1 " ++ Shell.quote path

/-- The command that unpacks an archive. -/
def untarCommand (archive : String) : String := "tar -xvf " ++ Shell.quote archive

/-- The entries of a directory; on request their raw text is logged. -/
def list (s : Session) (path : String) (logOutput : Bool) : Talk (Outcome (List String)) := do
  match ← s.run (listCommand path) with
  | .error e => pure (.error e)
  | .ok output =>
    if logOutput then
      Talk.record (.info output)
    pure (.ok (Text.nonEmptyLines output))

/-- Unpack an archive in a directory; the result is the files that were unpacked. -/
def untar (s : Session) (archive directory : String) : Talk (Outcome (List String)) := do
  let r ← s.runIn directory (untarCommand archive)
  pure (Outcome.context ("extracting " ++ archive ++ " into " ++ directory)
    (r.map Text.nonEmptyLines))

/-- The bytes of a payload: base64, with blanks anywhere. -/
def payloadBytes (payload destination : String) : Outcome Bytes :=
  let compact := String.ofList (payload.toList.filter fun c => !Text.isBlank c)
  match Base64.decode (Utf8.encode compact) with
  | .ok data => .ok data
  | .error e =>
    .error { kind := .invalidEncoding
             message := "payload for " ++ destination ++ " is not valid base64: " ++ e.message }

/-- The text of the mode of an upload; that none was given is logged. -/
def modeText (mode destination : String) : Talk String :=
  if Text.allBlank mode then do
    Talk.record (.info ("no permission mode given for " ++ destination ++
      ", using " ++ FileMode.defaultText))
    pure FileMode.defaultText
  else pure mode

/-- Write a payload to a file with permission bits. -/
def upload (s : Session) (payload destination mode : String) : Talk (Outcome Unit) :=
  match payloadBytes payload destination with
  | .error e => pure (.error e)
  | .ok data => do
    match FileMode.parse (← modeText mode destination) with
    | .error e => pure (.error e)
    | .ok bits =>
      match s.connection with
      | none => pure (.error s.notConnected)
      | some n =>
        match ← Talk.sendFile n destination bits.val data with
        | .ok _ => pure (.ok ())
        | .error e =>
          pure (.error { kind := .transferFailed
                         message := "upload to " ++ destination ++ " failed: " ++ e.message })

/-! ### Reboots -/

/-- Wait until the host accepts connections; the result is the number of probes. -/
def waitReachable (s : Session) : Talk (Outcome Nat) := Ssh.waitReachable s.address s.polling

/-- Log in again, after the connection with a number. -/
def redial (s : Session) (last : Nat) : Talk (Outcome Unit × Session) := do
  match ← Talk.dial s.address s.policy with
  | .ok _ => pure (.ok (), { s with connection := some (last + 1) })
  | .error e =>
    Talk.report (.warn ("reconnect to " ++ s.address ++ " failed: " ++ e.display))
    pure (.error { kind := .reconnectFailed
                   message := s.address ++ " is reachable but reconnecting failed: " ++ e.message },
      { s with connection := none })

/-- Wait out a reboot that has begun and log in again. -/
def comeBack (s : Session) (last : Nat) : Talk (Outcome Unit × Session) := do
  Talk.sleep s.polling.graceSecs
  match ← s.waitReachable with
  | .error e => pure (.error e, { s with connection := none })
  | .ok _ =>
    Talk.sleep s.polling.settleSecs
    s.redial last

/-- Reboot the host and log in again.  The reboot command is not waited for, and how
the connection closes does not matter. -/
def reboot (s : Session) : Talk (Outcome Unit × Session) :=
  match s.connection with
  | none => pure (.error s.notConnected, s)
  | some n => do
    announce s.rebootCommand
    match ← Talk.start n s.rebootCommand with
    | .error e => pure (.error (e.context (s.naming s.rebootCommand)), s)
    | .ok _ =>
      let _ ← Talk.close n
      s.comeBack n

/-! ### ESXi -/

/-- Report several records in order. -/
def reportAll : List LogRecord → Talk Unit
  | [] => pure ()
  | r :: rs => do
    Talk.report r
    reportAll rs

/-- Carry out a request to an ESXi host. -/
def esxi (s : Session) (request : Esxi.Request) : Talk (Outcome Esxi.Answer) :=
  match request.command with
  | .error e => pure (.error e)
  | .ok command => do
    let (answer, warnings) := request.conclude (← s.run command)
    reportAll warnings
    pure answer

/-! ### Sequences of operations -/

/-- An operation of a session. -/
inductive Operation where
  | run (command : String)
  | runIn (directory command : String)
  | list (path : String) (logOutput : Bool)
  | untar (archive directory : String)
  | upload (payload destination mode : String)
  | waitReachable
  | reboot
  | esxi (request : Esxi.Request)
  deriving DecidableEq, Repr

/-- The result of an operation. -/
inductive Result where
  | done
  | output (text : String)
  | entries (names : List String)
  | probes (count : Nat)
  | esxi (answer : Esxi.Answer)
  deriving DecidableEq, Repr

/-- Perform an operation that leaves the session as it is. -/
def keeping {α : Type} (s : Session) (result : α → Result) (t : Talk (Outcome α)) :
    Talk (Outcome Result × Session) := do
  let r ← t
  pure (r.map result, s)

/-- Perform an operation. -/
def perform (s : Session) : Operation → Talk (Outcome Result × Session)
  | .run command => s.keeping .output (s.run command)
  | .runIn directory command => s.keeping .output (s.runIn directory command)
  | .list path logOutput => s.keeping .entries (s.list path logOutput)
  | .untar archive directory => s.keeping .entries (s.untar archive directory)
  | .upload payload destination mode =>
    s.keeping (fun _ => .done) (s.upload payload destination mode)
  | .waitReachable => s.keeping .probes s.waitReachable
  | .reboot => do
    let (r, s) ← s.reboot
    pure (r.map fun _ => .done, s)
  | .esxi request => s.keeping .esxi (s.esxi request)

/-- Perform operations one after the other. -/
def performAll (s : Session) : List Operation → Talk (List (Outcome Result) × Session)
  | [] => pure ([], s)
  | o :: os => do
    let (r, s) ← s.perform o
    let (rs, s) ← s.performAll os
    pure (r :: rs, s)

end Session

end RemoteHost.Ssh
