/-
RemoteHost/Winrm/Envelope.lean

Requests to the service as SOAP envelopes.

There are five requests: create a shell, run a command in it, receive the output of a
command, end a command, delete the shell.  Whatever value stands in an envelope is
escaped, in content and in attributes alike.
-/
import RemoteHost.Xml

namespace RemoteHost.Winrm

/-! ### Names of the protocol -/

namespace Protocol

/-- The namespace of envelopes. -/
def soap : String := "http://www.w3.org/2003/05/soap-envelope"

/-- The namespace of addresses. -/
def addressing : String := "http://schemas.xmlsoap.org/ws/2004/08/addressing"

/-- The namespace of management. -/
def management : String := "http://schemas.dmtf.org/wbem/wsman/1/wsman.xsd"

/-- The namespace of shells. -/
def shell : String := "http://schemas.microsoft.com/wbem/wsman/1/windows/shell"

/-- The resource that is a shell. -/
def commandShell : String := shell ++ "/cmd"

/-- The signal that ends a command. -/
def terminate : String := shell ++ "/signal/terminate"

/-- The state of a command that has ended. -/
def commandDone : String := shell ++ "/CommandState/Done"

/-- The number of the fault of a request for output that found none in time. -/
def receiveTimedOut : String := "2150858793"

/-- The type of an envelope as the body of a request. -/
def contentType : String := "application/soap+xml;charset=UTF-8"

end Protocol

/-! ### Requests -/

/-- A request to the service. -/
inductive Request where
  | createShell
  | deleteShell (shell : String)
  | runCommand (shell command : String) (arguments : List String)
  | receiveOutput (shell command : String)
  | terminateCommand (shell command : String)
  deriving DecidableEq, Repr

namespace Request

/-- The action that a request asks for. -/
def action : Request → String
  | createShell => "http://schemas.xmlsoap.org/ws/2004/09/transfer/Create"
  | deleteShell _ => "http://schemas.xmlsoap.org/ws/2004/09/transfer/Delete"
  | runCommand _ _ _ => Protocol.shell ++ "/Command"
  | receiveOutput _ _ => Protocol.shell ++ "/Receive"
  | terminateCommand _ _ => Protocol.shell ++ "/Signal"

/-- The shell that a request is about, unless it makes one. -/
def shell? : Request → Option String
  | createShell => none
  | deleteShell shell => some shell
  | runCommand shell _ _ => some shell
  | receiveOutput shell _ => some shell
  | terminateCommand shell _ => some shell

/-- The header of a request up to what the request is about. -/
def headerTop (r : Request) (endpoint timeout messageId : String) : String :=
  "<s:Header>
      <a:To>" ++ Xml.escape endpoint ++ "</a:To>
      <a:Action s:mustUnderstand=\"true\">" ++ r.action ++ "</a:Action>
      <w:ResourceURI s:mustUnderstand=\"true\">" ++ Protocol.commandShell ++ "</w:ResourceURI>
      <a:MessageID>uuid:" ++ messageId ++ "</a:MessageID>
      <a:ReplyTo>
        <a:Address s:mustUnderstand=\"true\">" ++ Protocol.addressing ++ "/role/anonymous</a:Address>
      </a:ReplyTo>
      <w:MaxEnvelopeSize s:mustUnderstand=\"true\">153600</w:MaxEnvelopeSize>
      <w:Locale xml:lang=\"en-US\" s:mustUnderstand=\"false\"/>
      <w:OperationTimeout>" ++ timeout ++ "</w:OperationTimeout>"

/-- The part of the header that names a shell. -/
def selector (shell : String) : String :=
  "
      <w:SelectorSet>
        <w:Selector Name=\"ShellId\">" ++ Xml.escape shell ++ "</w:Selector>
      </w:SelectorSet>"

/-- The end of a header. -/
def headerEnd : String :=
  "
    </s:Header>"

/-- The header of a request about a shell, or about none. -/
def header (r : Request) (endpoint timeout messageId : String) : String :=
  r.headerTop endpoint timeout messageId ++ (r.shell?.map selector).getD "" ++ headerEnd

/-- The part of the header that says what a new shell is like: the profile of the user
is loaded, and output is UTF-8. -/
def options : String :=
  "
      <w:OptionSet>
        <w:Option Name=\"WINRS_NOPROFILE\">FALSE</w:Option>
        <w:Option Name=\"WINRS_CODEPAGE\">65001</w:Option>
      </w:OptionSet>"

/-- The header as it is sent.  When a shell is to be made, what it is like is put in front
of the end of the header. -/
def sentHeader (r : Request) (endpoint timeout messageId : String) : String :=
  let header := r.header endpoint timeout messageId
  match r with
  | createShell => Text.replace header headerEnd (options ++ headerEnd)
  | _ => header

/-- The arguments of a command. -/
def argumentElements (arguments : List String) : String :=
  "\n        ".intercalate
    (arguments.map fun a => "<rsp:Arguments>" ++ Xml.escape a ++ "</rsp:Arguments>")

/-- The body of a request. -/
def body : Request → String
  | createShell =>
    "<rsp:Shell>
        <rsp:InputStreams>stdin</rsp:InputStreams>
        <rsp:OutputStreams>stdout stderr</rsp:OutputStreams>
      </rsp:Shell>"
  | deleteShell _ => ""
  | runCommand _ command arguments =>
    "<rsp:CommandLine>
        <rsp:Command>" ++ Xml.escape command ++ "</rsp:Command>
        " ++ argumentElements arguments ++ "
      </rsp:CommandLine>"
  | receiveOutput _ command =>
    "<rsp:Receive>
        <rsp:DesiredStream CommandId=\"" ++ Xml.escape command ++ "\">stdout stderr</rsp:DesiredStream>
      </rsp:Receive>"
  | terminateCommand _ command =>
    "<rsp:Signal CommandId=\"" ++ Xml.escape command ++ "\">
        <rsp:Code>" ++ Protocol.terminate ++ "</rsp:Code>
      </rsp:Signal>"

/-- The envelope of a request. -/
def envelope (r : Request) (endpoint timeout messageId : String) : String :=
  "<?xml version=\"1.0\" encoding=\"UTF-8\"?>
<s:Envelope xmlns:s=\"" ++ Protocol.soap ++ "\" xmlns:a=\"" ++ Protocol.addressing ++
    "\" xmlns:w=\"" ++ Protocol.management ++ "\" xmlns:rsp=\"" ++ Protocol.shell ++ "\">
    " ++ r.sentHeader endpoint timeout messageId ++ "
    <s:Body>
      " ++ r.body ++ "
    </s:Body>
</s:Envelope>"

end Request

end RemoteHost.Winrm
