/-
RemoteHost/Ntlm/Message.lean

What the three messages of the NTLM login have in common: the signature at their
front, the numbers of their types and the flags that they negotiate.
-/
import RemoteHost.Crypto.Words

namespace RemoteHost.Ntlm

/-- What every message begins with. -/
def signature : Bytes := Text.asciiBytes "NTLMSSP" ++ [0]

@[simp] theorem length_signature : signature.length = 8 := by decide

/-- The types of messages. -/
inductive MessageType where
  /-- The client offers its flags. -/
  | negotiate
  /-- The server challenges. -/
  | challenge
  /-- The client proves that it knows the password. -/
  | authenticate
  deriving DecidableEq, Repr

/-- The number of a type. -/
def MessageType.number : MessageType → Nat
  | negotiate => 1
  | challenge => 2
  | authenticate => 3

/-- The front of a message: the signature and the type. -/
def front (t : MessageType) : Bytes := signature ++ littleEndianBytes 4 t.number

@[simp] theorem length_front (t : MessageType) : (front t).length = 12 := by
  simp [front]

namespace Flag

/-- Texts are UTF-16. -/
def unicode : UInt32 := 0x00000001

/-- Texts may be in the code page of the machine. -/
def oem : UInt32 := 0x00000002

/-- The server shall name itself. -/
def requestTarget : UInt32 := 0x00000004

/-- The login is an NTLM login. -/
def ntlm : UInt32 := 0x00000200

/-- Messages are signed. -/
def alwaysSign : UInt32 := 0x00008000

/-- The responses are of the second version. -/
def extendedSecurity : UInt32 := 0x00080000

/-- The message carries target info. -/
def targetInfo : UInt32 := 0x00800000

/-- Keys have 128 bits. -/
def key128 : UInt32 := 0x20000000

/-- Keys have 56 bits. -/
def key56 : UInt32 := 0x80000000

/-- The flags that the client offers. -/
def client : UInt32 :=
  unicode ||| oem ||| requestTarget ||| ntlm ||| alwaysSign ||| extendedSecurity ||| key128 |||
    key56

end Flag

/-- A word of flags as bytes. -/
def flagBytes (flags : UInt32) : Bytes := littleEndianBytes 4 flags.toNat

/-- The first message of a login.  It names neither a domain nor a workstation. -/
def negotiate : Bytes :=
  front .negotiate ++ flagBytes Flag.client ++ List.replicate 16 0

end RemoteHost.Ntlm
