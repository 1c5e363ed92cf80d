/-
RemoteHost/Key/PrivateKey.lean

Key files: a public key in the clear and the private one behind it, encrypted or
not.

The private part begins with a number written twice, by which a wrong passphrase
is noticed, and is filled up to whole blocks with the bytes 1, 2, 3 and so on.
The public key inside has to be the one outside.
-/
import RemoteHost.Key.PublicKey
import RemoteHost.Key.Pem
import RemoteHost.Crypto.Blowfish
import RemoteHost.Crypto.Aes
import RemoteHost.Crypto.ChaCha
import RemoteHost.Crypto.Ed25519

namespace RemoteHost

/-! ### Ciphers -/

/-- How the blocks of a cipher are chained. -/
inductive CipherMode where
  | chained
  | counter
  | authenticated
  deriving DecidableEq, Repr

/-- The cipher of a key file. -/
inductive KeyCipher where
  | none
  | aes (mode : CipherMode) (keySize : Nat)
  | chacha
  /-- Known by name, and not supported. -/
  | tripleDes
  deriving DecidableEq, Repr

namespace KeyCipher

/-- The ciphers by their names. -/
def all : List (String × KeyCipher) :=
  [("none", none), ("3des-cbc", tripleDes),
   ("aes128-cbc", aes .chained 16), ("aes192-cbc", aes .chained 24), ("aes256-cbc", aes .chained 32),
   ("aes128-ctr", aes .counter 16), ("aes192-ctr", aes .counter 24), ("aes256-ctr", aes .counter 32),
   ("aes128-gcm@openssh.com", aes .authenticated 16),
   ("aes256-gcm@openssh.com", aes .authenticated 32),
   ("chacha20-poly1305@openssh.com", chacha)]

/-- Read the name of a cipher. -/
def read : Wire.Reader KeyCipher := do
  let name ← Wire.label
  match all.find? (·.1 == name) with
  | some (_, c) => pure c
  | Option.none => failure

/-- The length that encrypted data is a multiple of. -/
def blockSize : KeyCipher → Nat
  | aes _ _ => 16
  | _ => 8

/-- The cipher checks its data by a tag. -/
def hasTag : KeyCipher → Bool
  | aes .authenticated _ | chacha => true
  | _ => false

/-- The bytes of key and of initial value that a passphrase has to give. -/
def keySizes : KeyCipher → Option (Nat × Nat)
  | none => Option.none
  | aes .authenticated n => some (n, 12)
  | aes _ n => some (n, 16)
  | chacha => some (64, 0)
  | tripleDes => Option.none

/-- Decrypt data. -/
def decrypt (c : KeyCipher) (key iv data tag : Bytes) : Option Bytes :=
  match c with
  | aes .chained _ => some (Aes.decryptCbc key iv data)
  | aes .counter _ => some (Aes.counterMode 16 key iv data)
  | aes .authenticated _ => Aes.decryptGcm key iv data tag
  | chacha => ChaCha.decryptSealed (key.take 32) data tag
  | none | tripleDes => Option.none

end KeyCipher

/-- How a passphrase becomes a key: by a salt and a number of rounds, or not at all. -/
structure KeyDerivation where
  salt : Bytes
  rounds : Nat
  deriving DecidableEq, Repr

/-- Read how a passphrase becomes a key. -/
def KeyDerivation.read : Wire.Reader (Option KeyDerivation) := do
  match ← Wire.label with
  | "none" =>
    if (← Wire.string).isEmpty then pure none else failure
  | "bcrypt" =>
    Wire.nested do
      let salt ← Wire.string
      pure (some ⟨salt, ← Wire.number 4⟩)
  | _ => failure

/-! ### Private parts -/

namespace PrivatePart

/-- Read the secret number of an elliptic key, with or without a zero in front. -/
def secretNumber (size : Nat) : Wire.Reader Unit := do
  match ← Wire.string with
  | 0 :: r => if r.length ≠ size ∧ r.length + 1 ≠ size then failure
  | b => if b.length ≠ size then failure

/-- Read an Ed25519 key: the public half, and the secret with the public half again. -/
def ed25519 : Wire.Reader PublicKey := do
  let first ← PublicKey.readBytes32
  let (secret, again) ← Wire.nested do
    let secret ← Wire.bytes 32
    pure (secret, ← Wire.bytes 32)
  if first = again ∧ Ed25519.publicKey secret = first then pure (.ed25519 first) else failure

/-- Read what a file for a token key holds after the public half. -/
def tokenHandle : Wire.Reader Unit := do
  discard (Wire.bytes 1)
  discard Wire.string
  discard Wire.string

/-- Read a private key and give its public half. -/
def read : Wire.Reader PublicKey := do
  match ← KeyAlgorithm.read with
  | .rsa =>
    let n ← Wire.integer
    let e ← Wire.integer
    for _ in [0, 1, 2, 3] do discard Wire.integer
    pure (.rsa e n)
  | .dsa =>
    let k ← PublicKey.readAs .dsa
    discard Wire.integer
    pure k
  | .ecdsa c =>
    let k ← PublicKey.readAs (.ecdsa c)
    secretNumber c.fieldSize
    pure k
  | .ed25519 => ed25519
  | .tokenEcdsa =>
    let k ← PublicKey.readAs .tokenEcdsa
    tokenHandle
    pure k
  | .tokenEd25519 =>
    let k ← PublicKey.readAs .tokenEd25519
    tokenHandle
    pure k
  | .other _ => failure

/-- The bytes 1, 2, 3 and so on. -/
def isFilling (b : Bytes) : Bool := b == (List.range b.length).map fun i => UInt8.ofNat (i + 1)

/-- Read the private part of a file, which holds the key `outside`. -/
def check (outside : PublicKey) (blockSize : Nat) : Wire.Reader Unit := do
  if (← get).length % blockSize ≠ 0 then failure
  let check1 ← Wire.number 4
  let check2 ← Wire.number 4
  if check1 ≠ check2 then failure
  let inside ← read
  if inside ≠ outside then failure
  discard Wire.text
  let filling ← get
  if blockSize ≤ filling.length ∨ ¬ isFilling filling then failure
  discard (Wire.bytes filling.length)

end PrivatePart

/-! ### Key files -/

/-- A key file.  An unencrypted private part is checked when the file is read and then
left out. -/
structure KeyFile where
  publicKey : PublicKey
  cipher : KeyCipher
  derivation : Option KeyDerivation
  /-- The encrypted private part. -/
  encrypted : Bytes
  tag : Bytes
  deriving DecidableEq

namespace KeyFile

/-- What a key file begins with. -/
def magic : Bytes := Text.asciiBytes "openssh-key-v1\x00"

/-- The label of the text encapsulation. -/
def pemLabel : String := "OPENSSH PRIVATE KEY"

/-- The width of the lines in the text encapsulation. -/
def lineWidth : Nat := 70

/-- The private part has to be decrypted. -/
def isEncrypted (f : KeyFile) : Bool := f.cipher != .none

/-- Read a key file. -/
def read : Wire.Reader KeyFile := do
  if (← Wire.bytes magic.length) ≠ magic then failure
  let cipher ← KeyCipher.read
  let derivation ← KeyDerivation.read
  if (← Wire.number 4) ≠ 1 then failure
  let publicKey ← Wire.nested PublicKey.read
  if cipher ≠ .none then
    let encrypted ← Wire.string
    if encrypted.length % cipher.blockSize ≠ 0 then failure
    let tag ← if cipher.hasTag then Wire.bytes 16 else pure []
    pure ⟨publicKey, cipher, derivation, encrypted, tag⟩
  else
    if derivation.isSome then failure
    Wire.nested (PrivatePart.check publicKey cipher.blockSize)
    pure ⟨publicKey, cipher, none, [], []⟩

/-- The key file in a text encapsulation. -/
def ofPem? (text : String) : Option KeyFile := do
  let (label, data) ← Pem.decode? lineWidth text
  if label = pemLabel then Wire.readAll read data else none

/-- The passphrase opens the private part. -/
def opensWith (f : KeyFile) (passphrase : String) : Bool :=
  (do
    let (keySize, ivSize) ← f.cipher.keySizes
    let d ← f.derivation
    let derived ← Blowfish.deriveKey (Utf8.encode passphrase) d.salt d.rounds (keySize + ivSize)
    let plain ← f.cipher.decrypt (derived.take keySize) (derived.drop keySize) f.encrypted f.tag
    Wire.readAll (PrivatePart.check f.publicKey f.cipher.blockSize) plain).isSome

end KeyFile

end RemoteHost
