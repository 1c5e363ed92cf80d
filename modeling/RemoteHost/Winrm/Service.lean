/-
RemoteHost/Winrm/Service.lean

The management service of a Windows host over HTTP.

An envelope is sent in one request, or, with NTLM, in the second of two: the first one is
empty and asks for a challenge, and the envelope goes out together with the answer to it.
Whatever is done with envelopes is so done over HTTP.
-/
import RemoteHost.Uuid
import RemoteHost.Winrm.Authentication
import RemoteHost.Winrm.Config
import RemoteHost.Winrm.HttpCall
import RemoteHost.Winrm.RemoteShell
import RemoteHost.Winrm.ShellCall

namespace RemoteHost.Winrm

/-- A service, and how to log in to it. -/
structure Service where
  endpoint : Url
  authentication : Authentication
  operationTimeout : String
  deriving DecidableEq, Repr

namespace Service

/-- The service of a configuration, with a way to log in. -/
def ofConfig (c : Config) (authentication : Authentication) : Outcome Service :=
  c.endpoint.map fun endpoint =>
    { endpoint, authentication, operationTimeout := c.operationTimeout }

/-- The address of a service as text. -/
def address (s : Service) : String := s.endpoint.render

/-- The text of a service for debug output. -/
def debug (s : Service) : String :=
  "WinRmTransport \x7b endpoint: " ++ Text.quoted s.address ++ ", auth: " ++
    s.authentication.debug ++ " \x7d"

/-! ### Sending an envelope -/

/-- The failure of a request that got no response. -/
def unsent (s : Service) (words : String) : Failure :=
  talkFailure ("WinRM request to " ++ s.address ++ " failed: " ++ words)

/-- Send one request. -/
def post (s : Service) (authorization body : String) : HttpTalk (Outcome Http.Response) :=
  if Http.isSendable s.endpoint then do
    match ← HttpTalk.post
        { url := s.endpoint, contentType := Protocol.contentType, authorization, body } with
    | .ok response => pure (.ok response)
    | .error causes => pure (.error (s.unsent (Http.unanswered s.endpoint causes)))
  else pure (.error (s.unsent (Http.unsendable s.endpoint)))

/-- The challenge in the response to a request that asks for one. -/
def challengeIn (response : Http.Response) : Outcome Ntlm.Challenge :=
  if response.status ≠ 401 then
    .error (talkFailure ("expected NTLM challenge, got HTTP " ++ Http.statusText response.status))
  else
    match response.header? "WWW-Authenticate" with
    | none => .error (talkFailure "HTTP 401 Unauthorized without an NTLM challenge")
    | some header => Ntlm.challengeOf header

/-- The authorization for a request that carries an envelope. -/
def authorize (s : Service) : HttpTalk (Outcome String) :=
  match s.authentication with
  | .basic username password => pure (.ok (Authentication.basicHeader username password))
  | .ntlm login => do
    match ← s.post (Ntlm.headerOf Ntlm.negotiate) "" with
    | .error e => pure (.error e)
    | .ok response =>
      match challengeIn response with
      | .error e => pure (.error e)
      | .ok challenge =>
        let nonce ← HttpTalk.nonce
        let (secs, nanos) ← HttpTalk.time
        pure (.ok (Ntlm.headerOf (login.answer challenge nonce (Ntlm.fileTime secs nanos))))

/-- The text of a response to an envelope, unless the service refused it. -/
def conclude (s : Service) (response : Http.Response) : Outcome String :=
  match response.body with
  | .error reason => .error (talkFailure ("unable to read WinRM response: " ++ reason))
  | .ok bytes =>
    let body := Utf8.decodeLossy bytes
    if response.status = 401 then
      .error (talkFailure ("HTTP 401 Unauthorized from " ++ s.address))
    else if Http.isSuccess response.status then .ok body
    else
      .error (talkFailure ("WinRM error (HTTP " ++ Http.statusText response.status ++ "): " ++
        (Response.fault? body).getD body))

/-- Send an envelope.  The result is the envelope that comes back. -/
def send (s : Service) (envelope : String) : HttpTalk (Outcome String) := do
  match ← s.authorize with
  | .error e => pure (.error e)
  | .ok authorization =>
    match ← s.post authorization envelope with
    | .error e => pure (.error e)
    | .ok response => pure (s.conclude response)

/-- Make a request. -/
def request (s : Service) (r : Request) : HttpTalk (Outcome String) := do
  let random ← HttpTalk.messageId
  s.send (r.envelope s.address s.operationTimeout (Uuid.ofRandom random))

/-- Carry out a call to the service. -/
def exchange (s : Service) : (c : SoapCall) → HttpTalk c.Reply
  | .request r => s.request r
  | .report r => HttpTalk.report r

/-! ### Shells over HTTP -/

/-- Open a shell.  The result is its name. -/
def openShell (s : Service) : HttpTalk (Outcome String) :=
  RemoteShell.openShell.through s.exchange

/-- Close a shell. -/
def closeShell (s : Service) (shell : String) : HttpTalk (Outcome Unit) :=
  (RemoteShell.closeShell shell).through s.exchange

/-- Run a command in a shell and wait for it, asking for its output at most a number of
times. -/
def run (s : Service) (polls : Nat) (shell command : String) (arguments : List String) :
    HttpTalk (Outcome ShellOutput) :=
  (RemoteShell.run polls shell command arguments).through s.exchange

/-- Carry out a call for a shell over HTTP.  Nobody cancels a command there. -/
def carry (polls : Nat) : (c : ShellCall Service) → HttpTalk c.Reply
  | .openShell s => s.openShell
  | .run s shell command arguments => s.run polls shell command arguments
  | .runOrCancel s shell command arguments => do
    let r ← s.run polls shell command arguments
    pure (some r)
  | .closeShell s shell => s.closeShell shell
  | .localFile path => HttpTalk.localFile path
  | .report r => HttpTalk.report r

end Service

end RemoteHost.Winrm
