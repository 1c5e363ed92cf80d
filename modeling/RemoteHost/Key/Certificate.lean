/-
RemoteHost/Key/Certificate.lean

Certificates: a public key with what a signer vouches for.

The period of validity ends within the range of signed 64-bit seconds; a
certificate without an end is refused.  The signature is read and not verified.
-/
import RemoteHost.Key.PublicKey

namespace RemoteHost

/-- A certificate. -/
structure Certificate where
  nonce : Bytes
  key : PublicKey
  serial : Nat
  /-- It is for a host rather than for a user. -/
  forHost : Bool
  id : String
  principals : List String
  validAfter : Nat
  validBefore : Nat
  criticalOptions : List (String × String)
  extensions : List (String × String)
  reserved : Bytes
  signer : PublicKey
  signature : KeyAlgorithm × Bytes
  deriving DecidableEq

namespace Certificate

/-- A point in time. -/
def time : Wire.Reader Nat := do
  let t ← Wire.number 8
  if t < 1 <<< 63 then pure t else failure

/-- The value of an option: a text in a string of its own, or nothing. -/
def optionValue : Wire.Reader String := do
  if (← get).isEmpty then pure "" else Wire.text

/-- An option. -/
def option : Wire.Reader (String × String) := do
  let name ← Wire.text
  pure (name, ← Wire.nested optionValue)

/-- The names stand in ascending order and none twice. -/
def ascending : List (String × String) → Bool
  | a :: b :: r => decide (a.1 < b.1) && ascending (b :: r)
  | _ => true

/-- Options in order. -/
def options : Wire.Reader (List (String × String)) := do
  let os ← Wire.nested (Wire.all option)
  if ascending os then pure os else failure

/-- The two numbers of an elliptic signature, each as long as a coordinate. -/
def ellipticNumbers (c : Curve) : Wire.Reader Unit := do
  for _ in [0, 1] do
    match Wire.magnitude (← Wire.integer) with
    | some m => if m.length ≠ c.fieldSize then failure
    | none => failure

/-- The bytes of a signature fit its algorithm. -/
def signatureFits (a : KeyAlgorithm) (data : Bytes) : Bool :=
  match a with
  | .rsa => true
  | .dsa => data.length == 40
  | .ed25519 => data.length == 64
  | .tokenEd25519 => data.length == 69
  | .ecdsa c => (Wire.readAll (ellipticNumbers c) data).isSome
  | .tokenEcdsa => (Wire.readAll (do ellipticNumbers .p256; discard (Wire.bytes 5)) data).isSome
  | .other _ => !data.isEmpty

/-- A signature; one made with a token has flags and a counter at the end. -/
def signatureData : Wire.Reader (KeyAlgorithm × Bytes) := do
  let a ← KeyAlgorithm.read
  let data ← Wire.string
  let data ← match a with
    | .tokenEcdsa | .tokenEd25519 => do pure (data ++ (← Wire.bytes 5))
    | _ => pure data
  if signatureFits a data then pure (a, data) else failure

/-- Read a certificate. -/
def read : Wire.Reader Certificate := do
  let a ← match KeyAlgorithm.ofCertificateName? (← Wire.label) with
    | some a => pure a
    | none => failure
  let nonce ← Wire.string
  let key ← PublicKey.readAs a
  let serial ← Wire.number 8
  let forHost ← match ← Wire.number 4 with
    | 1 => pure false
    | 2 => pure true
    | _ => failure
  let id ← Wire.text
  let principals ← Wire.nested (Wire.all Wire.text)
  let validAfter ← time
  let validBefore ← time
  let criticalOptions ← options
  let extensions ← options
  let reserved ← Wire.string
  let signer ← Wire.nested PublicKey.read
  let signature ← Wire.nested signatureData
  pure { nonce, key, serial, forHost, id, principals, validAfter, validBefore, criticalOptions,
         extensions, reserved, signer, signature }

/-- The certificate that a line of text describes. -/
def ofLine? (line : String) : Option Certificate := do
  let (name, blob, _) ← KeyLine.split line
  let c ← Wire.readAll read blob
  if c.key.algorithm.certificateName = name then some c else none

end Certificate

end RemoteHost
