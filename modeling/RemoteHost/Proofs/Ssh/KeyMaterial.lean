/-
RemoteHost/Proofs/Ssh/KeyMaterial.lean

Private keys, and the certificates that go with them.

`Extracts` lists the private keys that can be read, each with the public half that is told of it.
It is what `publicHalf` gives (`publicHalf_eq_ok_iff`).

A certificate that can be read counts where it certifies the public half, or where there is none to
compare it with (`Certifies`).  A signer is made of a key that can be read, and of a certificate
that counts if one is given (`Signer.resolve_eq_ok_iff`).
-/
import RemoteHost.Ssh.Config

namespace RemoteHost.Ssh

open Text

/-- The text that key material stands for. -/
def keyText (raw : String) : String := trim (Material.decode raw)

/-! ### Private keys -/

/-- The text of a key file. -/
def IsKeyFile (text : String) : Prop := contains text "BEGIN OPENSSH PRIVATE KEY"

/-- The text of a private key in another text encapsulation. -/
def IsPem (text : String) : Prop :=
  ¬ IsKeyFile text ∧ startsWith text "-----BEGIN" ∧ contains text "PRIVATE KEY-----"

/-- The text says that it is encrypted. -/
def IsLocked (text : String) : Prop :=
  contains text "Proc-Type: 4,ENCRYPTED" ∨ contains text "BEGIN ENCRYPTED PRIVATE KEY"

/-- The text says that it is an RSA key, without an envelope that names the algorithm. -/
def IsBareRsa (text : String) : Prop := contains text "BEGIN RSA PRIVATE KEY"

/-- The private key in a text can be read with a passphrase, and this is its public half, if it can
be told. -/
inductive Extracts (text : String) (passphrase : Option String) : Option PublicKey → Prop
  /-- A key file that is not encrypted, or that the passphrase opens. -/
  | file {f : KeyFile} (hform : IsKeyFile text) (hread : KeyFile.ofPem? text = some f)
      (hopens : f.isEncrypted → ∃ p, passphrase = some p ∧ f.opensWith p) :
      Extracts text passphrase (some f.publicKey)
  /-- Whether the passphrase is the right one is not tried here. -/
  | locked {p : String} (hform : IsPem text) (hlocked : IsLocked text)
      (hpassphrase : passphrase = some p) : Extracts text passphrase none
  | bareRsa {der : Bytes} {k : RsaKey} (hform : IsPem text) (hlocked : ¬ IsLocked text)
      (hbare : IsBareRsa text) (hpem : Pem.decode? pemWidth text = some ("RSA PRIVATE KEY", der))
      (hkey : RsaKey.ofDer? der = some k) : Extracts text passphrase (some k.publicKey)
  | envelope {label : String} {der : Bytes} {e : KeyEnvelope} {key : Option PublicKey}
      (hform : IsPem text) (hlocked : ¬ IsLocked text) (hbare : ¬ IsBareRsa text)
      (hpem : Pem.decode? pemWidth text = some (label, der))
      (hread : Wire.readAll KeyEnvelope.read der = some e) (hkey : e.publicKey? = some key) :
      Extracts text passphrase key

variable {text : String} {passphrase : Option String} {key : Option PublicKey} {e : Failure}

theorem keyFilePublicKey_eq_ok_iff {k : PublicKey} : keyFilePublicKey text passphrase = .ok k ↔
    ∃ f, KeyFile.ofPem? text = some f ∧ f.publicKey = k ∧
      (f.isEncrypted → ∃ p, passphrase = some p ∧ f.opensWith p) := by
  unfold keyFilePublicKey
  cases KeyFile.ofPem? text with
  | none => simp
  | some f =>
    cases hencrypted : f.isEncrypted with
    | false => simp [hencrypted]
    | true =>
      cases passphrase with
      | none => simp [hencrypted]
      | some p =>
        cases hopens : f.opensWith p <;> simp [hencrypted, hopens]

theorem kind_of_keyFilePublicKey (h : keyFilePublicKey text passphrase = .error e) :
    e.kind = .malformedKey := by
  unfold keyFilePublicKey at h
  split at h
  · cases h
    rfl
  · split at h
    · cases h
    · split at h
      · cases h
        rfl
      · split at h
        · cases h
        · cases h
          rfl

theorem extracts_of_pemPublicKey (hform : IsPem text)
    (h : pemPublicKey text passphrase = .ok key) : Extracts text passphrase key := by
  unfold pemPublicKey at h
  split at h
  · next hlocked =>
    cases passphrase with
    | none => cases h
    | some p =>
      cases h
      exact .locked hform hlocked rfl
  · next hlocked =>
    dsimp only at h
    split at h
    · next key' hfound =>
      cases h
      obtain ⟨⟨label, der⟩, hpem, hfound⟩ := Option.bind_eq_some_iff.1 hfound
      dsimp only at hfound
      split at hfound
      · next hbare =>
        split at hfound
        · next hlabel =>
          subst hlabel
          obtain ⟨k, hk, rfl⟩ := Option.map_eq_some_iff.1 hfound
          exact .bareRsa hform hlocked hbare hpem hk
        · cases hfound
      · next hbare =>
        obtain ⟨e, hread, hkey⟩ := Option.bind_eq_some_iff.1 hfound
        exact .envelope hform hlocked hbare hpem hread hkey
    · cases h

theorem kind_of_pemPublicKey (h : pemPublicKey text passphrase = .error e) :
    e.kind = .malformedKey := by
  unfold pemPublicKey at h
  split at h
  · split at h
    · cases h
      rfl
    · cases h
  · dsimp only at h
    split at h
    · cases h
    · cases h
      rfl

theorem publicHalf_of_isKeyFile (h : IsKeyFile text) :
    publicHalf text passphrase = (keyFilePublicKey text passphrase).map some := if_pos h

theorem publicHalf_of_isPem (h : IsPem text) :
    publicHalf text passphrase = pemPublicKey text passphrase :=
  (if_neg h.1).trans (if_pos h.2)

theorem publicHalf_of_unknown (hfile : ¬ IsKeyFile text) (hpem : ¬ IsPem text) :
    publicHalf text passphrase = .error unknownKeyForm :=
  (if_neg hfile).trans (if_neg fun h => hpem ⟨hfile, h⟩)

/-- What is told of a private key is its public half, as far as that is found in the text. -/
theorem publicHalf_eq_ok_iff :
    publicHalf text passphrase = .ok key ↔ Extracts text passphrase key := by
  constructor
  · intro h
    -- The form of the text decides who reads it.
    by_cases hfile : IsKeyFile text
    · rw [publicHalf_of_isKeyFile hfile] at h
      cases hk : keyFilePublicKey text passphrase with
      | error e =>
        rw [hk] at h
        cases h
      | ok k =>
        obtain ⟨f, hread, rfl, hopens⟩ := keyFilePublicKey_eq_ok_iff.1 hk
        rw [hk] at h
        cases h
        exact .file hfile hread hopens
    by_cases hpem : IsPem text
    · rw [publicHalf_of_isPem hpem] at h
      exact extracts_of_pemPublicKey hpem h
    · rw [publicHalf_of_unknown hfile hpem] at h
      cases h
  · intro h
    cases h with
    | @file f hform hread hopens =>
      rw [publicHalf_of_isKeyFile hform, keyFilePublicKey_eq_ok_iff.2 ⟨f, hread, rfl, hopens⟩]
      rfl
    | locked hform hlocked hpassphrase =>
      rw [publicHalf_of_isPem hform, hpassphrase]
      exact if_pos hlocked
    | bareRsa hform hlocked hbare hpem hkey =>
      rw [publicHalf_of_isPem hform]
      refine (if_neg hlocked).trans ?_
      simp [hpem, hkey, show contains text "BEGIN RSA PRIVATE KEY" from hbare]
    | envelope hform hlocked hbare hpem hread hkey =>
      rw [publicHalf_of_isPem hform]
      refine (if_neg hlocked).trans ?_
      simp [hpem, hread, hkey, show ¬ contains text "BEGIN RSA PRIVATE KEY" from hbare]

theorem kind_of_publicHalf (h : publicHalf text passphrase = .error e) : e.kind = .malformedKey := by
  by_cases hfile : IsKeyFile text
  · rw [publicHalf_of_isKeyFile hfile] at h
    cases hk : keyFilePublicKey text passphrase with
    | ok k =>
      rw [hk] at h
      cases h
    | error e' =>
      rw [hk] at h
      cases h
      exact kind_of_keyFilePublicKey hk
  by_cases hpem : IsPem text
  · rw [publicHalf_of_isPem hpem] at h
    exact kind_of_pemPublicKey h
  · rw [publicHalf_of_unknown hfile hpem] at h
    cases h
    rfl

/-! ### Certificates -/

/-- The certificate is for the key, where the key is known. -/
def Certifies (cert : Certificate) (key : Option PublicKey) : Prop :=
  ∀ k, key = some k → cert.key = k

/-- The failure for a certificate that cannot be read. -/
def unreadableCertificate : Failure := malformedCertificate "unable to parse certificate: <detail>"

/-- The failure for a certificate for another key. -/
def foreignCertificate : Failure :=
  malformedCertificate "certificate does not sign the supplied private key"

/-- A certificate is for another key, or cannot be read, or it is taken. -/
theorem checkedCertificate_cases (raw : String) (key : Option PublicKey) :
    (Certificate.ofLine? (keyText raw) = none ∧
        checkedCertificate raw key = .error unreadableCertificate) ∨
      ∃ cert, Certificate.ofLine? (keyText raw) = some cert ∧
        ((∃ k, key = some k ∧ cert.key ≠ k ∧
            checkedCertificate raw key = .error foreignCertificate) ∨
          (Certifies cert key ∧ checkedCertificate raw key = .ok (keyText raw))) := by
  unfold checkedCertificate keyText
  generalize trim (Material.decode raw) = text
  dsimp only
  cases Certificate.ofLine? text with
  | none => exact .inl ⟨rfl, rfl⟩
  | some cert =>
    refine .inr ⟨cert, rfl, ?_⟩
    cases key with
    | none => exact .inr ⟨nofun, rfl⟩
    | some k =>
      by_cases hk : cert.key = k
      · refine .inr ⟨?_, if_pos hk⟩
        rintro _ ⟨⟩
        exact hk
      · exact .inl ⟨k, rfl, hk, if_neg hk⟩

/-! ### Signers -/

section Signer

variable {raw : String} {certificate : Option String}

theorem Signer.resolve_of_unreadable (h : publicHalf (keyText raw) passphrase = .error e) :
    Signer.resolve raw passphrase certificate = .error e := by
  unfold Signer.resolve
  unfold keyText at h
  simp only [h]

theorem Signer.resolve_of_readable (h : Extracts (keyText raw) passphrase key) :
    Signer.resolve raw passphrase none = .ok ⟨keyText raw, passphrase, none⟩ ∧
      ∀ c, Signer.resolve raw passphrase (some c) =
        (checkedCertificate c key).map fun t => ⟨keyText raw, passphrase, some t⟩ := by
  replace h := publicHalf_eq_ok_iff.2 h
  unfold Signer.resolve
  unfold keyText at h ⊢
  simp only [h, true_and]
  intro c
  cases checkedCertificate c key with
  | error e => rfl
  | ok t => rfl

/-- A signer is made of a key that can be read, and of a certificate for it if one is given. -/
theorem Signer.resolve_eq_ok_iff {s : Signer} : Signer.resolve raw passphrase certificate = .ok s ↔
    ∃ half, Extracts (keyText raw) passphrase half ∧
      s = ⟨keyText raw, passphrase, certificate.map keyText⟩ ∧
      ∀ line, certificate = some line →
        ∃ cert, Certificate.ofLine? (keyText line) = some cert ∧ Certifies cert half := by
  cases hhalf : publicHalf (keyText raw) passphrase with
  | error e =>
    rw [Signer.resolve_of_unreadable hhalf]
    constructor
    · intro h
      cases h
    · rintro ⟨half, hextracts, -⟩
      rw [publicHalf_eq_ok_iff.2 hextracts] at hhalf
      cases hhalf
  | ok half =>
    -- The text has one public half at most, so the one that was told is meant.
    have hextracts := publicHalf_eq_ok_iff.1 hhalf
    have hhalf_iff : ∀ half', Extracts (keyText raw) passphrase half' ↔ half' = half := by
      intro half'
      rw [← publicHalf_eq_ok_iff, hhalf, Except.ok.injEq, eq_comm]
    obtain ⟨hplain, hcertified⟩ := Signer.resolve_of_readable hextracts
    simp only [hhalf_iff, exists_eq_left]
    cases certificate with
    | none =>
      rw [hplain, Except.ok.injEq]
      exact ⟨fun h => ⟨h.symm, nofun⟩, fun h => h.1.symm⟩
    | some line =>
      rw [hcertified]
      simp only [Option.some.injEq, forall_eq']
      rcases checkedCertificate_cases line half with ⟨hnone, hcheck⟩ |
        ⟨cert, hcert, ⟨k, rfl, hne, hcheck⟩ | ⟨hcertifies, hcheck⟩⟩
      · simp [hcheck, hnone, Except.map]
      · simp [hcheck, hcert, Certifies, hne, Except.map]
      · simp [hcheck, hcert, hcertifies, Except.map, eq_comm]

end Signer

end RemoteHost.Ssh
