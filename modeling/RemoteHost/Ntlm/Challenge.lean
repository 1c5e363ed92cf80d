/-
RemoteHost/Ntlm/Challenge.lean

The second message of the NTLM login, in which the server challenges the client.

A challenge has at least 32 bytes.  One with at least 48 also says where in the message
its target info stands, and that place has to lie inside the message.
-/
import RemoteHost.Failure
import RemoteHost.Ntlm.Message

namespace RemoteHost.Ntlm

/-- The `length` bytes of a message from a place on, if it has them all. -/
def slice? (m : Bytes) (start length : Nat) : Option Bytes :=
  if start + length ≤ m.length then some ((m.drop start).take length) else none

/-- The number that `width` bytes of a message from a place on stand for. -/
def numberAt? (m : Bytes) (start width : Nat) : Option Nat :=
  (slice? m start width).map ofLittleEndian

/-- What a server sends to be answered. -/
structure Challenge where
  flags : UInt32
  /-- The eight bytes that the answer depends on. -/
  nonce : Bytes
  /-- What the server says about itself, to be sent back as it is. -/
  targetInfo : Bytes
  deriving DecidableEq, Repr

namespace Challenge

/-- What is wrong with a challenge. -/
inductive Fault where
  /-- It is too short, or another message. -/
  | malformed
  /-- Its target info lies outside of it. -/
  | targetInfoOutOfBounds
  deriving DecidableEq, Repr

/-- The wording of a fault. -/
def Fault.message : Fault → String
  | malformed => "malformed NTLM challenge message"
  | targetInfoOutOfBounds => "NTLM target info out of bounds"

/-- The fault as a failure to connect. -/
def Fault.failure (f : Fault) : Failure where
  kind := .connectionFailed
  message := f.message

/-- The parts that every challenge has: its flags and its nonce. -/
def fixedParts? (m : Bytes) : Option (Nat × Bytes) := do
  let opening ← slice? m 0 12
  guard (opening = front .challenge)
  let flags ← numberAt? m 20 4
  let nonce ← slice? m 24 8
  pure (flags, nonce)

/-- Where a message has its target info, with the length first; none for a message that
is too short to say so. -/
def targetInfoPlace? (m : Bytes) : Option (Nat × Nat) := do
  guard (48 ≤ m.length)
  let length ← numberAt? m 40 2
  let start ← numberAt? m 44 4
  pure (length, start)

/-- Read a challenge. -/
def read (m : Bytes) : Except Fault Challenge :=
  match fixedParts? m with
  | none => .error .malformed
  | some (flags, nonce) =>
    match targetInfoPlace? m with
    | none => .ok ⟨UInt32.ofNat flags, nonce, []⟩
    | some (length, start) =>
      match slice? m start length with
      | none => .error .targetInfoOutOfBounds
      | some info => .ok ⟨UInt32.ofNat flags, nonce, info⟩

end Challenge

end RemoteHost.Ntlm
