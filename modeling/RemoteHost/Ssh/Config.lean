/-
RemoteHost/Ssh/Config.lean

How to reach a host and log in to it, and the policy that follows from it.

`resolve` turns a configuration into a policy without touching the network.  A
private key, if one is given, has to be readable, and a certificate has to certify
that very key; the password counts only where there is no key.  A host key, if one
is given, has to be readable, and then the host has to present it.  Where several
things are wrong the key comes first, then the certificate, then the host key.
-/
import RemoteHost.Failure
import RemoteHost.Json.Record
import RemoteHost.Key.Certificate
import RemoteHost.Key.PrivateKey
import RemoteHost.Key.Rsa
import RemoteHost.Ssh.Material

namespace RemoteHost.Ssh

/-- How to reach a host and log in to it. -/
structure Config where
  host : String
  port : Nat := 22
  username : String
  password : Option String := none
  /-- A private key, as text or as base64 of it. -/
  privateKey : Option String := none
  passphrase : Option String := none
  /-- A certificate for the private key. -/
  certificate : Option String := none
  /-- The key that the host has to present. -/
  hostKey : Option String := none
  connectTimeoutSecs : Nat := 30
  deriving DecidableEq, Repr

/-- A private key, with the certificate that goes with it if there is one. -/
structure Signer where
  privateKey : String
  passphrase : Option String
  certificate : Option String
  deriving DecidableEq, Repr

/-- How to log in. -/
inductive Authentication where
  | publicKey (signer : Signer)
  | password (password : String)
  deriving DecidableEq, Repr

/-- What is asked of the host's own key. -/
inductive HostIdentity where
  | pinned (key : NamedKey)
  | any
  deriving DecidableEq, Repr

/-- How to log in to which host. -/
structure Policy where
  username : String
  authentication : Authentication
  hostIdentity : HostIdentity
  connectTimeoutSecs : Nat
  deriving DecidableEq, Repr

/-! ### Addresses -/

/-- Host and port, with brackets around a host that has colons and no bracket. -/
def hostPort (host : String) (port : Nat) : String :=
  (if host.toList.contains ':' ∧ ¬ Text.startsWith host "[" then "[" ++ host ++ "]" else host) ++
    ":" ++ toString port

/-- The address to dial. -/
def Config.address (c : Config) : String := hostPort c.host c.port

/-! ### Signers -/

/-- A failure to read a private key. -/
def malformedKey (message : String) : Failure := { kind := .malformedKey, message }

/-- A failure to read a certificate. -/
def malformedCertificate (message : String) : Failure := { kind := .malformedCertificate, message }

/-- The failure for an encrypted key without a passphrase. -/
def noPassphrase : Failure :=
  malformedKey "private key is encrypted and no passphrase was given"

/-- The failure for a key in no known form. -/
def unknownKeyForm : Failure := malformedKey "private key is neither OpenSSH nor PEM encoded"

/-- The failure for a text encapsulation that cannot be read. -/
def malformedPem : Failure := malformedKey "unable to parse PEM private key: <detail>"

/-- The width of the lines in other text encapsulations than that of key files. -/
def pemWidth : Nat := 64

/-- The public half of the key in a key file. -/
def keyFilePublicKey (text : String) (passphrase : Option String) : Outcome PublicKey :=
  match KeyFile.ofPem? text with
  | none => .error (malformedKey "unable to parse private key: <detail>")
  | some file =>
    if ¬ file.isEncrypted then .ok file.publicKey
    else
      match passphrase with
      | none => .error noPassphrase
      | some p =>
        if file.opensWith p then .ok file.publicKey
        else .error (malformedKey "unable to decrypt private key: <detail>")

/-- The public half of the key in another text encapsulation; none where it cannot be
told: the key is encrypted, or not an RSA key. -/
def pemPublicKey (text : String) (passphrase : Option String) : Outcome (Option PublicKey) :=
  if Text.contains text "Proc-Type: 4,ENCRYPTED" ∨
      Text.contains text "BEGIN ENCRYPTED PRIVATE KEY" then
    if passphrase.isNone then .error noPassphrase else .ok none
  else
    let found : Option (Option PublicKey) := do
      let (label, der) ← Pem.decode? pemWidth text
      if Text.contains text "BEGIN RSA PRIVATE KEY" then
        if label = "RSA PRIVATE KEY" then (RsaKey.ofDer? der).map fun k => some k.publicKey
        else none
      else (← Wire.readAll KeyEnvelope.read der).publicKey?
    match found with
    | some k => .ok k
    | none => .error malformedPem

/-- The public half of a private key, where it can be told. -/
def publicHalf (text : String) (passphrase : Option String) : Outcome (Option PublicKey) :=
  if Text.contains text "BEGIN OPENSSH PRIVATE KEY" then
    (keyFilePublicKey text passphrase).map some
  else if Text.startsWith text "-----BEGIN" ∧ Text.contains text "PRIVATE KEY-----" then
    pemPublicKey text passphrase
  else .error unknownKeyForm

/-- The text of a certificate that certifies a key, where the key is known. -/
def checkedCertificate (raw : String) (key : Option PublicKey) : Outcome String :=
  let text := Text.trim (Material.decode raw)
  match Certificate.ofLine? text with
  | none => .error (malformedCertificate "unable to parse certificate: <detail>")
  | some c =>
    match key with
    | some k =>
      if c.key = k then .ok text
      else .error (malformedCertificate "certificate does not sign the supplied private key")
    | none => .ok text

/-- A signer from what the configuration gives. -/
def Signer.resolve (raw : String) (passphrase certificate : Option String) : Outcome Signer :=
  let text := Text.trim (Material.decode raw)
  match publicHalf text passphrase with
  | .error e => .error e
  | .ok key =>
    match certificate with
    | none => .ok ⟨text, passphrase, none⟩
    | some c =>
      match checkedCertificate c key with
      | .error e => .error e
      | .ok t => .ok ⟨text, passphrase, some t⟩

/-- A certificate goes with the key. -/
def Signer.isCertificateBacked (s : Signer) : Bool := s.certificate.isSome

/-! ### Host identity -/

/-- What the configuration asks of the host's key. -/
def HostIdentity.resolve : Option String → Outcome HostIdentity
  | none => .ok .any
  | some raw =>
    match NamedKey.ofLine? (Text.trim (Material.decode raw)) with
    | some k => .ok (.pinned k)
    | none =>
      .error { kind := .malformedHostKey, message := "unable to parse host key: <detail>" }

/-- Compare the key that a host presents, in its binary form. -/
def HostIdentity.verify (presented : Bytes) : HostIdentity → Outcome Unit
  | .any => .ok ()
  | .pinned k =>
    if k.key.encode = presented then .ok ()
    else
      .error { kind := .dialFailed
               message := "host key mismatch: expected " ++ k.key.fingerprint }

/-! ### Resolution -/

/-- A text that is there and not blank, trimmed. -/
def given (s : Option String) : Option String := s.bind Text.trimmed?

/-- How to log in. -/
def Config.authentication (c : Config) : Outcome Authentication :=
  match given c.privateKey with
  | some raw =>
    (Signer.resolve raw (given c.passphrase) (given c.certificate)).map .publicKey
  | none =>
    match c.password.filter (!·.isEmpty) with
    | some p => .ok (.password p)
    | none =>
      .error { kind := .missingCredential
               message := "no password or private key supplied for " ++ c.username ++ "@" ++ c.host }

/-- The policy of a configuration. -/
def Config.resolve (c : Config) : Outcome Policy := do
  let authentication ← c.authentication
  let hostIdentity ← HostIdentity.resolve (given c.hostKey)
  pure ⟨c.username, authentication, hostIdentity, max c.connectTimeoutSecs 1⟩

/-- The text of a way to log in for debug output, which hides its secrets. -/
def Authentication.debug : Authentication → String
  | .password _ => "Password(..)"
  | .publicKey s =>
    "PublicKey(Signer \x7b certificate_backed: " ++
      (if s.isCertificateBacked then "true" else "false") ++ " \x7d)"

/-! ### JSON -/

/-- The JSON form. -/
def Config.toJson (c : Config) : Json :=
  .obj [("host", .str c.host), ("port", .ofNat c.port), ("username", .str c.username),
    ("password", .ofText? c.password), ("privateKey", .ofText? c.privateKey),
    ("privateKeyPassphrase", .ofText? c.passphrase), ("certificate", .ofText? c.certificate),
    ("hostKey", .ofText? c.hostKey), ("connectTimeoutSecs", .ofNat c.connectTimeoutSecs)]

/-- A configuration that is being read. -/
structure Draft where
  host : Option String := none
  port : Option Nat := none
  username : Option String := none
  password : Option (Option String) := none
  privateKey : Option (Option String) := none
  passphrase : Option (Option String) := none
  certificate : Option (Option String) := none
  hostKey : Option (Option String) := none
  connectTimeoutSecs : Option Nat := none

/-- A field of a configuration. -/
def field {α : Type} (name : String) (required : Bool) (get : Draft → Option α)
    (read : Json.Reader α) (set : α → Draft → Draft) : Json.Field Draft where
  name := name
  required := required
  isSet := fun d => (get d).isSome
  read := do
    let v ← read
    pure (set v)

/-- The fields of a configuration. -/
def schema : Json.Schema Draft where
  name := "TransportConfig"
  fields :=
    let optional := Json.readOptional Json.readText
    [ field "host" true (·.host) Json.readText fun v d => { d with host := some v },
      field "port" false (·.port) (Json.readWord 16) fun v d => { d with port := some v },
      field "username" true (·.username) Json.readText fun v d => { d with username := some v },
      field "password" false (·.password) optional fun v d => { d with password := some v },
      field "privateKey" false (·.privateKey) optional fun v d => { d with privateKey := some v },
      field "privateKeyPassphrase" false (·.passphrase) optional
        fun v d => { d with passphrase := some v },
      field "certificate" false (·.certificate) optional
        fun v d => { d with certificate := some v },
      field "hostKey" false (·.hostKey) optional fun v d => { d with hostKey := some v },
      field "connectTimeoutSecs" false (·.connectTimeoutSecs) (Json.readWord 64)
        fun v d => { d with connectTimeoutSecs := some v } ]

/-- Read a configuration from its JSON form. -/
def Config.decode (text : String) : Except Json.Fault Config :=
  (schema.decode {} text).map fun d =>
    { host := d.host.getD "", port := d.port.getD 22, username := d.username.getD ""
      password := d.password.join, privateKey := d.privateKey.join
      passphrase := d.passphrase.join, certificate := d.certificate.join
      hostKey := d.hostKey.join, connectTimeoutSecs := d.connectTimeoutSecs.getD 30 }

end RemoteHost.Ssh
