/-
RemoteHost/Winrm/Authentication.lean

How the client logs in to the service: with Basic or with NTLM.
-/
import RemoteHost.Ntlm.Login

namespace RemoteHost.Winrm

/-- A way to log in. -/
inductive Authentication where
  | basic (username password : String)
  | ntlm (login : Ntlm.Login)
  deriving DecidableEq, Repr

namespace Authentication

/-- A user name with a domain logs in with NTLM, any other with Basic. -/
def ofName (env : Environment) (username password : String) : Authentication :=
  if username.toList.contains '\\' then ntlm (Ntlm.Login.ofName env username password)
  else basic username password

/-- The name of the way. -/
def name : Authentication → String
  | basic _ _ => "Basic"
  | ntlm _ => "NTLM"

/-- The text of a way for debug output, which shows no password. -/
def debug : Authentication → String
  | basic username _ => "Basic(" ++ username ++ ")"
  | ntlm l => "Ntlm(" ++ l.domain ++ "\\" ++ l.user ++ ")"

/-- The header of a Basic login. -/
def basicHeader (username password : String) : String :=
  "Basic " ++ Base64.encode (Utf8.encode (username ++ ":" ++ password))

end Authentication

end RemoteHost.Winrm
