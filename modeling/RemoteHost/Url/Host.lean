/-
RemoteHost/Url/Host.lean

The host of a URL: a domain name in its ASCII form, or an address.
-/
import RemoteHost.Idna.Domain
import RemoteHost.Url.Address
import RemoteHost.Url.Percent

namespace RemoteHost

/-- Why a text is not a URL. -/
inductive Url.Fault where
  | emptyHost
  | invalidDomain
  | invalidIpv4
  | invalidIpv6
  | invalidPort
  deriving DecidableEq, Repr

/-- The text of a fault. -/
def Url.Fault.message : Url.Fault → String
  | .emptyHost => "empty host"
  | .invalidDomain => "invalid international domain name"
  | .invalidIpv4 => "invalid IPv4 address"
  | .invalidIpv6 => "invalid IPv6 address"
  | .invalidPort => "invalid port number"

namespace Url

/-- A host. -/
inductive Host where
  | domain (name : String)
  | ipv4 (address : Ipv4)
  | ipv6 (address : Ipv6)
  deriving DecidableEq, Repr

/-- The text of a host. -/
def Host.render : Host → String
  | .domain name => name
  | .ipv4 a => a.render
  | .ipv6 a => "[" ++ a.render ++ "]"

/-- The host that a name stands for. -/
def Host.ofName (s : List Char) : Except Fault Host := do
  let some text := Utf8.decode? (percentDecode (Utf8.encodeChars s)) | throw .invalidDomain
  let some name := Idna.toAscii? text.toList | throw .invalidDomain
  if name.isEmpty then throw .emptyHost
  else if Ipv4.isMeant name then
    match Ipv4.ofName? name with
    | some a => pure (.ipv4 a)
    | none => throw .invalidIpv4
  else pure (.domain (String.ofList name))

/-- The host that a text stands for: an IPv6 address in brackets, or a name. -/
def Host.ofText (s : List Char) : Except Fault Host :=
  match s with
  | [] => throw .emptyHost
  | '[' :: r =>
    if r.getLast? = some ']' then
      match Ipv6.ofText? r.dropLast with
      | some a => pure (.ipv6 a)
      | none => throw .invalidIpv6
    else throw .invalidIpv6
  | s => Host.ofName s

end Url

end RemoteHost
