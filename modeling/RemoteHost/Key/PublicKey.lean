/-
RemoteHost/Key/PublicKey.lean

Public keys, their binary form and their one-line text form.

The text form is the name of the algorithm, the base64 of the binary form and a
comment, with single spaces between them.  Reading checks the structure of a key
and not its mathematics: a point need not lie on its curve.
-/
import RemoteHost.Key.Wire
import RemoteHost.Crypto.Sha2
import RemoteHost.Text.Base64
import RemoteHost.Text.Search
import RemoteHost.Text.Blank

namespace RemoteHost

/-! ### Algorithms -/

/-- A curve for elliptic keys. -/
inductive Curve where
  | p256
  | p384
  | p521
  deriving DecidableEq, Repr

/-- The name of a curve. -/
def Curve.name : Curve → String
  | .p256 => "nistp256"
  | .p384 => "nistp384"
  | .p521 => "nistp521"

/-- The number of bytes in a coordinate. -/
def Curve.fieldSize : Curve → Nat
  | .p256 => 32
  | .p384 => 48
  | .p521 => 66

/-- The curve with a name. -/
def Curve.ofName? (s : String) : Option Curve :=
  [Curve.p256, .p384, .p521].find? (·.name == s)

/-- A key algorithm.  The RSA names that differ only in the hash of signatures are
one algorithm. -/
inductive KeyAlgorithm where
  | rsa
  | dsa
  | ecdsa (curve : Curve)
  | ed25519
  /-- Keys that are kept on a security token. -/
  | tokenEcdsa
  | tokenEd25519
  /-- Anything else, by its name and domain. -/
  | other (name : String)
  deriving DecidableEq, Repr

namespace KeyAlgorithm

/-- The name of an algorithm. -/
def name : KeyAlgorithm → String
  | rsa => "ssh-rsa"
  | dsa => "ssh-dss"
  | ecdsa c => "ecdsa-sha2-" ++ c.name
  | ed25519 => "ssh-ed25519"
  | tokenEcdsa => "sk-ecdsa-sha2-nistp256@openssh.com"
  | tokenEd25519 => "sk-ssh-ed25519@openssh.com"
  | other n => n

/-- A name that is not built in has one `@` with text on both sides and at most 64
characters, all of them ASCII. -/
def isExtensionName (s : String) : Bool :=
  match Text.splitOnce '@' s.toList with
  | some (user, domain) =>
    !user.isEmpty && !domain.isEmpty && !domain.contains '@' && s.toList.length ≤ 64 &&
      s.toList.all (·.toNat < 128)
  | none => false

/-- The algorithms that are built in, RSA under its three names. -/
def builtIn : List (String × KeyAlgorithm) :=
  [("rsa-sha2-256", rsa), ("rsa-sha2-512", rsa)] ++
    [rsa, dsa, ecdsa .p256, ecdsa .p384, ecdsa .p521, ed25519, tokenEcdsa, tokenEd25519].map
      fun a => (a.name, a)

/-- The algorithm with a name. -/
def ofName? (s : String) : Option KeyAlgorithm :=
  match builtIn.find? (·.1 == s) with
  | some (_, a) => some a
  | none => if isExtensionName s then some (other s) else none

/-- What a certificate's algorithm name has at the end of its first part. -/
def certificateMark : String := "-cert-v01"

/-- The name of an algorithm for certificates of its keys. -/
def certificateName (a : KeyAlgorithm) : String :=
  match Text.splitOnce '@' a.name.toList with
  | some (user, domain) => String.ofList user ++ certificateMark ++ "@" ++ String.ofList domain
  | none => a.name ++ certificateMark ++ "@openssh.com"

/-- The algorithm with a name for certificates. -/
def ofCertificateName? (s : String) : Option KeyAlgorithm :=
  match ((builtIn.drop 2).map (·.2)).find? (·.certificateName == s) with
  | some a => some a
  | none =>
    match Text.splitOnce '@' s.toList with
    | some (user, domain) =>
      let mark := certificateMark.toList
      let base := String.ofList (user.take (user.length - mark.length) ++ '@' :: domain)
      if mark.isSuffixOf user ∧ isExtensionName base then some (other base) else none
    | none => none

/-- Read the name of an algorithm. -/
def read : Wire.Reader KeyAlgorithm := do
  match ofName? (← Wire.label) with
  | some a => pure a
  | none => failure

end KeyAlgorithm

/-! ### Keys -/

/-- A public key. -/
inductive PublicKey where
  | rsa (e n : Bytes)
  | dsa (p q g y : Bytes)
  | ecdsa (curve : Curve) (point : Bytes)
  | ed25519 (bytes : Bytes)
  | tokenEcdsa (point : Bytes) (application : String)
  | tokenEd25519 (bytes : Bytes) (application : String)
  | other (name : String) (bytes : Bytes)
  deriving DecidableEq, Repr

namespace PublicKey

/-- The algorithm of a key. -/
def algorithm : PublicKey → KeyAlgorithm
  | rsa _ _ => .rsa
  | dsa _ _ _ _ => .dsa
  | ecdsa c _ => .ecdsa c
  | ed25519 _ => .ed25519
  | tokenEcdsa _ _ => .tokenEcdsa
  | tokenEd25519 _ _ => .tokenEd25519
  | other n _ => .other n

/-- The curve that a point belongs to by its length.  A point has a tag and one
coordinate or two. -/
def curveOfPoint (point : Bytes) : Option Curve :=
  match point with
  | [] => none
  | tag :: rest =>
    let size? : Option Nat :=
      if tag = 2 ∨ tag = 3 then some rest.length
      else if tag = 4 ∧ rest.length % 2 = 0 then some (rest.length / 2)
      else none
    size?.bind fun size => [Curve.p256, .p384, .p521].find? (·.fieldSize == size)

/-- Read a curve and a point on it. -/
def readPoint : Wire.Reader (Curve × Bytes) := do
  match Curve.ofName? (← Wire.label) with
  | none => failure
  | some c =>
    let point ← Wire.string
    if curveOfPoint point = some c then pure (c, point) else failure

/-- Read 32 bytes in a string. -/
def readBytes32 : Wire.Reader Bytes := Wire.nested (Wire.bytes 32)

/-- Read the key of an algorithm whose name is read already. -/
def readAs : KeyAlgorithm → Wire.Reader PublicKey
  | .rsa => do
    let e ← Wire.integer
    let n ← Wire.integer
    pure (.rsa e n)
  | .dsa => do
    let p ← Wire.integer
    let q ← Wire.integer
    let g ← Wire.integer
    let y ← Wire.integer
    pure (.dsa p q g y)
  | .ecdsa c => do
    let (curve, point) ← readPoint
    if curve = c then pure (.ecdsa curve point) else failure
  | .ed25519 => do pure (.ed25519 (← readBytes32))
  | .tokenEcdsa => do
    let (curve, point) ← readPoint
    if curve = .p256 then pure (.tokenEcdsa point (← Wire.text)) else failure
  | .tokenEd25519 => do
    let b ← readBytes32
    pure (.tokenEd25519 b (← Wire.text))
  | .other n => do pure (.other n (← Wire.string))

/-- Read a key with the name of its algorithm in front. -/
def read : Wire.Reader PublicKey := do readAs (← KeyAlgorithm.read)

/-- The binary form of a key. -/
def encode (k : PublicKey) : Bytes :=
  Wire.writeText k.algorithm.name ++
    match k with
    | rsa e n => Wire.writeString e ++ Wire.writeString n
    | dsa p q g y =>
      Wire.writeString p ++ Wire.writeString q ++ Wire.writeString g ++ Wire.writeString y
    | ecdsa c point => Wire.writeText c.name ++ Wire.writeString point
    | ed25519 b => Wire.writeString b
    | tokenEcdsa point app =>
      Wire.writeText Curve.p256.name ++ Wire.writeString point ++ Wire.writeText app
    | tokenEd25519 b app => Wire.writeString b ++ Wire.writeText app
    | other _ b => Wire.writeString b

/-- The fingerprint of a key: its digest, in base64 without padding. -/
def fingerprint (k : PublicKey) : String :=
  "SHA256:" ++ String.ofList (Base64.encodeUnpadded (Sha2.sha256 k.encode))

end PublicKey

/-! ### The text form -/

namespace KeyLine

/-- A character of the name or of the base64. -/
def isFieldChar (c : Char) : Bool :=
  Text.isLetter c || Text.isDigit c || c ∈ ['+', '-', '/', '=', '@', '.']

/-- The first field of a line, and what is left after the space that ends it. -/
def field (s : List Char) : Option (List Char × List Char) :=
  let f := s.takeWhile isFieldChar
  match s.drop f.length with
  | [] => some (f, [])
  | ' ' :: r => some (f, r)
  | _ => none

/-- The text without the blanks at its end. -/
def trimEnd (s : List Char) : List Char := Text.dropTrailing Text.isBlank s

/-- The name, the binary form and the comment of a line. -/
def split (line : String) : Option (String × Bytes × String) := do
  let (name, rest) ← field (trimEnd line.toList)
  let (data, comment) ← field rest
  guard (name ≠ [] ∧ data ≠ [])
  let blob ← Base64.decode? (Utf8.encodeChars data)
  some (String.ofList name, blob, String.ofList (trimEnd comment))

end KeyLine

/-- A public key with its comment. -/
structure NamedKey where
  key : PublicKey
  comment : String
  deriving DecidableEq, Repr

/-- The key that a line of text describes. -/
def NamedKey.ofLine? (line : String) : Option NamedKey := do
  let (name, blob, comment) ← KeyLine.split line
  let key ← Wire.readAll PublicKey.read blob
  if key.algorithm.name = name then some ⟨key, comment⟩ else none

end RemoteHost
