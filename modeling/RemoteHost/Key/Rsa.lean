/-
RemoteHost/Key/Rsa.lean

Private keys in DER, the binary form under most text encapsulations.

An RSA key is a sequence of whole numbers, by itself or inside of an envelope
that names the algorithm.  The numbers are checked: the modulus is the product of
the two primes and has at most 4096 bits, and the two exponents undo each other
modulo each prime less one.
-/
import RemoteHost.Key.PublicKey

namespace RemoteHost

/-! ### DER -/

namespace Der

/-- A value: its tag and its content. -/
structure Item where
  tag : UInt8
  content : Bytes

/-- The tag of a whole number. -/
def integerTag : UInt8 := 0x02

/-- The tag of bytes. -/
def bytesTag : UInt8 := 0x04

/-- The tag of nothing. -/
def nullTag : UInt8 := 0x05

/-- The tag of a registered name. -/
def identifierTag : UInt8 := 0x06

/-- The tag of a sequence. -/
def sequenceTag : UInt8 := 0x30

/-- Tags of one byte that are in use. -/
def isKnownTag (tag : UInt8) : Bool :=
  if 0x40 ≤ tag then tag &&& 0x1f != 0x1f
  else tag ∈ [0x01, 0x02, 0x03, 0x04, 0x05, 0x06, 0x09, 0x0a, 0x0c, 0x12, 0x13, 0x14, 0x15, 0x16,
    0x17, 0x18, 0x1a, 0x1d, 0x1e, 0x30, 0x31]

/-- A length, in the fewest bytes that hold it. -/
def length : Wire.Reader Nat := do
  let first ← Wire.number 1
  if first < 0x80 then pure first
  else
    let count := first - 0x80
    if count = 0 ∨ 4 < count then failure
    let n ← Wire.number count
    if n < 0x80 ∨ n < 1 <<< (8 * (count - 1)) then failure
    pure n

/-- Read a value. -/
def item : Wire.Reader Item := do
  let tag := UInt8.ofNat (← Wire.number 1)
  if ¬ isKnownTag tag then failure
  pure ⟨tag, ← Wire.bytes (← length)⟩

/-- Read the content of a value with a given tag. -/
def tagged (tag : UInt8) : Wire.Reader Bytes := do
  let i ← item
  if i.tag = tag then pure i.content else failure

/-- Read a sequence with a reader that uses all of it. -/
def sequence {α : Type} (r : Wire.Reader α) : Wire.Reader α := do
  match Wire.readAll r (← tagged sequenceTag) with
  | some a => pure a
  | none => failure

/-- Read a whole number that is not negative, in its shortest form. -/
def natural : Wire.Reader Nat := do
  match ← tagged integerTag with
  | [] => failure
  | [b] => if b < 0x80 then pure b.toNat else failure
  | 0 :: b :: r => if b < 0x80 then failure else pure (ofBigEndian (b :: r))
  | b :: r => if b < 0x80 then pure (ofBigEndian (b :: r)) else failure

end Der

/-! ### RSA keys -/

/-- The numbers of an RSA private key. -/
structure RsaKey where
  modulus : Nat
  publicExponent : Nat
  privateExponent : Nat
  prime1 : Nat
  prime2 : Nat
  deriving DecidableEq, Repr

namespace RsaKey

/-- Read the numbers of a key with two primes. -/
def read : Wire.Reader RsaKey := Der.sequence do
  let version ← Der.natural
  if version ≠ 0 then failure
  let modulus ← Der.natural
  let publicExponent ← Der.natural
  let privateExponent ← Der.natural
  let prime1 ← Der.natural
  let prime2 ← Der.natural
  let _ ← Der.natural
  let _ ← Der.natural
  let _ ← Der.natural
  pure ⟨modulus, publicExponent, privateExponent, prime1, prime2⟩

/-- The exponents undo each other modulo a prime less one. -/
def exponentsFit (k : RsaKey) (prime : Nat) : Bool :=
  1 < prime && k.publicExponent * k.privateExponent % (prime - 1) == 1

/-- The numbers belong together. -/
def isSound (k : RsaKey) : Bool :=
  decide (k.modulus < 1 <<< 4096) &&
    2 ≤ k.publicExponent && k.publicExponent < 1 <<< 33 &&
    k.prime1 * k.prime2 == k.modulus && k.exponentsFit k.prime1 && k.exponentsFit k.prime2

/-- The public half. -/
def publicKey (k : RsaKey) : PublicKey :=
  .rsa (Wire.integerOf k.publicExponent) (Wire.integerOf k.modulus)

/-- The key that some bytes describe. -/
def ofDer? (der : Bytes) : Option RsaKey := do
  let k ← Wire.readAll read der
  if k.isSound then some k else none

end RsaKey

/-! ### Envelopes -/

/-- A private key of a named algorithm. -/
structure KeyEnvelope where
  algorithm : Bytes
  parameters : Option Der.Item
  content : Bytes

namespace KeyEnvelope

/-- The registered name of RSA. -/
def rsaIdentifier : Bytes := [0x2a, 0x86, 0x48, 0x86, 0xf7, 0x0d, 0x01, 0x01, 0x01]

/-- Read a registered name; each of its numbers ends in a byte below 128, and has no
needless byte in front. -/
def identifier : Wire.Reader Bytes := do
  let b ← Der.tagged Der.identifierTag
  let starts := (true :: b.map (· < 0x80)).zip b
  if b.isEmpty ∨ 0x80 ≤ b.getLast?.getD 0x80 then failure
  if starts.any fun (isStart, x) => isStart && x == 0x80 then failure
  pure b

/-- Read the name of an algorithm with its parameters, if there are any. -/
def readAlgorithm : Wire.Reader (Bytes × Option Der.Item) := Der.sequence do
  let name ← identifier
  if (← get).isEmpty then pure (name, none) else pure (name, some (← Der.item))

/-- Values after the key: each is specific to its context, and a public key among
them is there exactly in the second version. -/
def readTail (version : Nat) : Wire.Reader Unit := do
  let items ← Wire.all Der.item
  if items.any fun i => i.tag < 0x80 ∨ 0xc0 ≤ i.tag then failure
  let hasPublic := items.any fun i => i.tag &&& 0x1f == 1
  if hasPublic ≠ (version == 1) then failure

/-- Read an envelope. -/
def read : Wire.Reader KeyEnvelope := Der.sequence do
  let version ← Der.natural
  if 1 < version then failure
  let (algorithm, parameters) ← readAlgorithm
  let content ← Der.tagged Der.bytesTag
  readTail version
  pure ⟨algorithm, parameters, content⟩

/-- The parameters are those of RSA: an explicit nothing. -/
def hasRsaParameters (e : KeyEnvelope) : Bool :=
  match e.parameters with
  | some i => i.tag == Der.nullTag && i.content.isEmpty
  | none => false

/-- The public half of the key in an envelope: none for an algorithm other than
RSA, whose content is not looked at. -/
def publicKey? (e : KeyEnvelope) : Option (Option PublicKey) :=
  if e.algorithm ≠ rsaIdentifier then some none
  else if e.hasRsaParameters then (RsaKey.ofDer? e.content).map fun k => some k.publicKey
  else none

end KeyEnvelope

end RemoteHost
