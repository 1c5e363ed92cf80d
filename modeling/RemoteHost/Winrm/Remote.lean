/-
RemoteHost/Winrm/Remote.lean

Clients of the service that their configuration names.

A client opens its shell with the way to log in that fits its user name; a file is copied
over a login of its own, always with NTLM.
-/
import RemoteHost.Winrm.Client
import RemoteHost.Winrm.Service

namespace RemoteHost.Winrm.Client

/-- The configuration names a host and a user. -/
def checkLogin (c : Config) : Outcome Unit :=
  if Text.allBlank c.target then
    .error { kind := .missingCredential, message := "WinRM target is not set" }
  else if c.username.isEmpty then
    .error { kind := .missingCredential, message := "no WinRM username for " ++ c.target }
  else .ok ()

/-- The service that a client opens its shell over. -/
def service (env : Environment) (c : Config) : Outcome Service := do
  checkLogin c
  Service.ofConfig c (Authentication.ofName env c.username c.password)

/-- The failure when no HTTP client can be made, for a reason. -/
def noHttpClient (reason : String) : Failure :=
  talkFailure ("unable to build HTTP client: " ++ reason)

/-- Open a shell on the host of the configuration, over an HTTP client unless there is a reason
why none can be made. -/
def initWith (http : Except String Unit) (env : Environment) (c : Client Service) :
    ShellTalk Service (Outcome Unit × Client Service) :=
  match service env c.config with
  | .error e => pure (.error e, c)
  | .ok s =>
    match http with
    | .error reason => pure (.error (noHttpClient reason), c)
    | .ok _ => c.openOver s

/-- Open a shell on the host of the configuration. -/
def init (env : Environment) (c : Client Service) :
    ShellTalk Service (Outcome Unit × Client Service) := c.initWith (.ok ()) env

/-- Copy a local file to the host of the configuration. -/
def upload (env : Environment) (c : Client Service) (source destination : String) :
    ShellTalk Service (Outcome Nat) := do
  match ← readSource source with
  | .error e => pure (.error e)
  | .ok data =>
    match Service.ofConfig c.config
        (.ntlm (Ntlm.Login.ofName env c.config.username c.config.password)) with
    | .error e => pure (.error e)
    | .ok s => (Copier.ofService s).copy data destination

end RemoteHost.Winrm.Client
