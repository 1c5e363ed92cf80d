/-
RemoteHost/Ntlm/Login.lean

The third message of the NTLM login, in which the client proves that it knows the
password.

The proof is made with the second version of the hash of a login.  It binds the nonce of
the server to a blob of the client, which holds the time, a nonce of its own and the
target info of the server.  The message describes its five fields in descriptors with
lengths of 16 bits, which stand in front of the fields.
-/
import RemoteHost.Crypto.MessageDigest
import RemoteHost.Ntlm.Challenge
import RemoteHost.Settings
import RemoteHost.Text.Base64
import RemoteHost.Text.Search
import RemoteHost.Text.UpperCase
import RemoteHost.Text.Utf16
import RemoteHost.Text.Utf8

namespace RemoteHost.Ntlm

/-- Who logs in, and from where. -/
structure Login where
  domain : String
  user : String
  password : String
  workstation : String
  deriving DecidableEq, Repr

/-- The name of this machine: what it calls itself, in upper case. -/
def workstationName (env : Environment) : String :=
  Text.toUpper (((env "COMPUTERNAME").orElse fun _ => env "HOSTNAME").getD "WORKSTATION")

/-- The domain and the user of a login name, which a backslash parts. -/
def splitName (name : String) : String × String :=
  match Text.splitOnce '\\' name.toList with
  | some (domain, user) => (String.ofList domain, String.ofList user)
  | none => ("", name)

namespace Login

/-- The login with a name and a password from this machine. -/
def ofName (env : Environment) (name password : String) : Login :=
  let (domain, user) := splitName name
  { domain, user, password, workstation := workstationName env }

/-! ### The proof -/

/-- The hash of the password. -/
def passwordHash (l : Login) : Bytes := MessageDigest.md4 (Utf16.encode l.password)

/-- The hash of the login, which keys every proof. -/
def hash (l : Login) : Bytes :=
  MessageDigest.hmacMd5 l.passwordHash (Utf16.encode (Text.toUpper l.user ++ l.domain))

/-- What the client adds to the nonce of the server. -/
def blob (c : Challenge) (nonce : Bytes) (time : Nat) : Bytes :=
  [1, 1, 0, 0] ++ List.replicate 4 0 ++ littleEndianBytes 8 time ++ nonce ++
    List.replicate 4 0 ++ c.targetInfo ++ List.replicate 4 0

/-- The proof over some bytes, followed by the bytes. -/
def proof (l : Login) (c : Challenge) (bytes : Bytes) : Bytes :=
  MessageDigest.hmacMd5 l.hash (c.nonce ++ bytes) ++ bytes

/-- The fields of the third message: the two proofs and the three names. -/
def fields (l : Login) (c : Challenge) (nonce : Bytes) (time : Nat) : List Bytes :=
  [l.proof c nonce, l.proof c (blob c nonce time), Utf16.encode l.domain, Utf16.encode l.user,
    Utf16.encode l.workstation]

/-! ### The message -/

/-- Where a field stands: its length, the same again as the room for it, and its place. -/
def descriptor (length place : Nat) : Bytes :=
  littleEndianBytes 2 length ++ littleEndianBytes 2 length ++ littleEndianBytes 4 place

/-- The descriptors of fields that stand one after the other from a place on, and at the
end that of an empty session key. -/
def descriptors (place : Nat) : List Bytes → Bytes
  | [] => descriptor 0 place
  | f :: fs =>
    let length := f.length % 65536
    descriptor length place ++ descriptors (place + length) fs

/-- The length of the part of the message that stands in front of the fields. -/
def headLength : Nat := 88

/-- The flags of the third message: those of the server that the client offered, and
what the message is made with. -/
def answerFlags (c : Challenge) : UInt32 :=
  (c.flags &&& Flag.client) ||| Flag.unicode ||| Flag.ntlm |||
    (if c.targetInfo.isEmpty then 0 else Flag.targetInfo)

/-- The part of the third message in front of its fields.  The room for a version and
for a checksum of all messages is left empty. -/
def head (c : Challenge) (fields : List Bytes) : Bytes :=
  front .authenticate ++ descriptors headLength fields ++ flagBytes (answerFlags c) ++
    List.replicate 24 0

/-- The third message: the answer to a challenge, with a nonce of the client and the
time. -/
def answer (l : Login) (c : Challenge) (nonce : Bytes) (time : Nat) : Bytes :=
  head c (l.fields c nonce time) ++ (l.fields c nonce time).flatten

end Login

/-! ### Headers -/

/-- The value of the header that carries a message to the server. -/
def headerOf (message : Bytes) : String := "Negotiate " ++ Base64.encode message

/-- The token of one challenge in a header. -/
def tokenOf? (part : List Char) : Option String :=
  let part := String.ofList (Text.trimChars part)
  (Text.dropPrefix? part "Negotiate ").orElse fun _ => Text.dropPrefix? part "NTLM "

/-- The challenge that a server makes in a header. -/
def challengeOf (header : String) : Outcome Challenge :=
  match (header.toList.splitOn ',').findSome? tokenOf? with
  | none =>
    .error { kind := .connectionFailed
             message := "server did not send an NTLM challenge (WWW-Authenticate: " ++ header ++
               ")" }
  | some token =>
    match Base64.decode (Utf8.encode (Text.trim token)) with
    | .error e =>
      .error { kind := .connectionFailed
               message := "undecodable NTLM challenge: " ++ e.message }
    | .ok message =>
      match Challenge.read message with
      | .error f => .error f.failure
      | .ok c => .ok c

/-- A time, in seconds and nanoseconds after the beginning of 1970, in steps of 100
nanoseconds after the beginning of 1601. -/
def fileTime (secs : Int) (nanos : Nat) : Nat :=
  ((secs + 11644473600) * 10000000 + (nanos / 100 : Nat)).toNat

end RemoteHost.Ntlm
