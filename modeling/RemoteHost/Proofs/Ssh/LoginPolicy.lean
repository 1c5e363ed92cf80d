/-
RemoteHost/Proofs/Ssh/LoginPolicy.lean

Which login follows from a configuration, and what is wrong with one that gives none.

`Config.Wrong` lists what is wrong with the private key or the password, with the certificate and
with the host key, each as if it stood alone.  The way to log in follows from the first two
(`authentication_cases`), and what is asked of the host from the third.  Where a configuration gives
no policy, the failure is about the first of the three that something is wrong with
(`resolve_eq_error_iff`).

`loginRules` puts this together: a private key is never passed over for the password, a host key
never for none, a certificate goes with its own key only, and a host is dialled under the policy
that the configuration gives, or not at all.
-/
import RemoteHost.Proofs.Ssh.KeyMaterial
import RemoteHost.Proofs.Text.Blank
import RemoteHost.Ssh.Session

namespace RemoteHost.Ssh

open Text

/-! ### Fields -/

/-- Nothing is given, or nothing but blanks. -/
def Blank (field : Option String) : Prop := ∀ raw, field = some raw → ∀ x ∈ raw.toList, isBlank x

theorem given_eq_none_iff {field : Option String} : given field = none ↔ Blank field := by
  cases field with
  | none => exact ⟨nofun, fun _ => rfl⟩
  | some raw =>
    rw [given, Option.bind_some, trimmed?_eq_none_iff]
    constructor
    · rintro h _ ⟨⟩
      exact h
    · intro h
      exact h raw rfl

theorem given_of_ne {raw : String} (h : trim raw ≠ "") : given (some raw) = some (trim raw) := by
  rw [given, Option.bind_some, trimmed?_of_ne h]

theorem given_of_eq {raw : String} (h : trim raw = "") : given (some raw) = none := by
  rw [given, Option.bind_some, trimmed?_of_eq h]

theorem Blank.given_ne {field : Option String} (h : Blank field) (text : String) :
    given field ≠ some text := by
  rw [given_eq_none_iff.2 h]
  nofun

theorem exists_given {field : Option String} (h : ¬ Blank field) : ∃ text, given field = some text :=
  Option.ne_none_iff_exists'.1 (given_eq_none_iff.not.2 h)

/-! ### Configurations -/

/-- A thing that a configuration may get wrong. -/
inductive Concern where
  /-- The private key, or the password where there is none. -/
  | key
  | certificate
  | hostKey
  deriving DecidableEq

/-- The order in which they are told. -/
def Concern.rank : Concern → Nat
  | .key => 0
  | .certificate => 1
  | .hostKey => 2

namespace Config

variable {c : Config} {raw : String}

/-- The failure for a configuration with nothing to log in with. -/
def noCredential (c : Config) : Failure where
  kind := .missingCredential
  message := "no password or private key supplied for " ++ c.username ++ "@" ++ c.host

/-- The failure for a host key that cannot be read. -/
def unreadableHostKey : Failure where
  kind := .malformedHostKey
  message := "unable to parse host key: <detail>"

/-- What is wrong with a configuration, whatever else is wrong with it. -/
inductive Wrong (c : Config) : Concern → Failure → Prop
  | credential (hkey : Blank c.privateKey) (hpassword : ∀ p, c.password = some p → p = "") :
      Wrong c .key c.noCredential
  | key {raw : String} {e : Failure} (hkey : given c.privateKey = some raw)
      (h : publicHalf (keyText raw) (given c.passphrase) = .error e) : Wrong c .key e
  | certificate {raw line : String} (hkey : given c.privateKey = some raw)
      (hline : given c.certificate = some line)
      (h : Certificate.ofLine? (keyText line) = none) : Wrong c .certificate unreadableCertificate
  | foreign {raw line : String} {cert : Certificate} {k : PublicKey}
      (hkey : given c.privateKey = some raw)
      (hhalf : Extracts (keyText raw) (given c.passphrase) (some k))
      (hline : given c.certificate = some line)
      (hread : Certificate.ofLine? (keyText line) = some cert) (hne : cert.key ≠ k) :
      Wrong c .certificate foreignCertificate
  | hostKey {line : String} (hline : given c.hostKey = some line)
      (h : NamedKey.ofLine? (keyText line) = none) : Wrong c .hostKey unreadableHostKey

/-- One thing is wrong in one way. -/
theorem Wrong.unique {concern : Concern} {e e' : Failure} (h : c.Wrong concern e)
    (h' : c.Wrong concern e') : e = e' := by
  cases h with
  | credential hkey hpassword =>
    cases h' with
    | credential => rfl
    | key hkey' h' => exact absurd hkey' (hkey.given_ne _)
  | key hkey h =>
    cases h' with
    | credential hkey' => exact absurd hkey (hkey'.given_ne _)
    | key hkey' h' =>
      obtain rfl := Option.some.inj (hkey.symm.trans hkey')
      exact Except.error.inj (h.symm.trans h')
  | certificate hkey hline h =>
    cases h' with
    | certificate => rfl
    | foreign _ _ hline' hread _ =>
      obtain rfl := Option.some.inj (hline.symm.trans hline')
      rw [h] at hread
      cases hread
  | foreign hkey hhalf hline hread hne =>
    cases h' with
    | certificate _ hline' h' =>
      obtain rfl := Option.some.inj (hline.symm.trans hline')
      rw [h'] at hread
      cases hread
    | foreign => rfl
  | hostKey => cases h' with | hostKey => rfl

/-! ### Ways to log in -/

theorem authentication_of_given (h : given c.privateKey = some raw) : c.authentication =
    (Signer.resolve raw (given c.passphrase) (given c.certificate)).map .publicKey := by
  unfold Config.authentication
  simp only [h]

/-- Without a private key the password is taken as it is, unless there is none or it is empty. -/
theorem authentication_of_blank (hkey : Blank c.privateKey) :
    (∃ p, c.password = some p ∧ p ≠ "" ∧ c.authentication = .ok (.password p)) ∨
      ((∀ p, c.password = some p → p = "") ∧ c.authentication = .error c.noCredential) := by
  unfold Config.authentication
  simp only [given_eq_none_iff.2 hkey]
  cases hp : c.password with
  | none => exact .inr ⟨nofun, rfl⟩
  | some p =>
    by_cases hempty : p = ""
    · subst hempty
      refine .inr ⟨?_, rfl⟩
      rintro _ ⟨⟩
      rfl
    · have hsome : (some p).filter (!·.isEmpty) = some p := by simp [Option.filter, hempty]
      simp only [hsome]
      exact .inl ⟨p, rfl, hempty, rfl⟩

theorem wrong_key_iff (h : given c.privateKey = some raw) {e : Failure} :
    c.Wrong .key e ↔ publicHalf (keyText raw) (given c.passphrase) = .error e := by
  constructor
  · intro hwrong
    cases hwrong with
    | credential hkey => exact absurd h (hkey.given_ne _)
    | key hkey hhalf =>
      obtain rfl := Option.some.inj (h.symm.trans hkey)
      exact hhalf
  · exact .key h

theorem wrong_certificate_iff {line : String} {half : Option PublicKey}
    (h : given c.privateKey = some raw) (hline : given c.certificate = some line)
    (hhalf : Extracts (keyText raw) (given c.passphrase) half) {e : Failure} :
    c.Wrong .certificate e ↔ checkedCertificate line half = .error e := by
  constructor
  · intro hwrong
    rcases checkedCertificate_cases line half with ⟨hnone, herror⟩ |
      ⟨cert, hcert, ⟨k, rfl, hne, herror⟩ | ⟨hcertifies, -⟩⟩
    · rw [herror, hwrong.unique (.certificate h hline hnone)]
    · rw [herror, hwrong.unique (.foreign h hhalf hline hcert hne)]
    · -- Nothing is wrong with a certificate that is taken.
      cases hwrong with
      | certificate _ hline' hnone =>
        obtain rfl := Option.some.inj (hline.symm.trans hline')
        rw [hcert] at hnone
        cases hnone
      | foreign hkey' hhalf' hline' hcert' hne =>
        obtain rfl := Option.some.inj (h.symm.trans hkey')
        obtain rfl := Option.some.inj (hline.symm.trans hline')
        obtain rfl := Option.some.inj (hcert.symm.trans hcert')
        have hsame := (publicHalf_eq_ok_iff.2 hhalf).symm.trans (publicHalf_eq_ok_iff.2 hhalf')
        exact absurd (hcertifies _ (Except.ok.inj hsame)) hne
  · intro herror
    rcases checkedCertificate_cases line half with ⟨hnone, herror'⟩ |
      ⟨cert, hcert, ⟨k, rfl, hne, herror'⟩ | ⟨-, hok⟩⟩
    · obtain rfl := Except.error.inj (herror'.symm.trans herror)
      exact .certificate h hline hnone
    · obtain rfl := Except.error.inj (herror'.symm.trans herror)
      exact .foreign h hhalf hline hcert hne
    · rw [hok] at herror
      cases herror

theorem Wrong.given_certificate {e : Failure} (h : c.Wrong .certificate e) :
    ∃ raw line, given c.privateKey = some raw ∧ given c.certificate = some line := by
  cases h with
  | certificate hkey hline _ => exact ⟨_, _, hkey, hline⟩
  | foreign hkey _ hline _ _ => exact ⟨_, _, hkey, hline⟩

theorem wrong_key_iff_of_blank (h : Blank c.privateKey) {e : Failure} :
    c.Wrong .key e ↔ (∀ p, c.password = some p → p = "") ∧ e = c.noCredential := by
  constructor
  · intro hwrong
    cases hwrong with
    | credential _ hpassword => exact ⟨hpassword, rfl⟩
    | key hkey _ => exact absurd hkey (h.given_ne _)
  · rintro ⟨hpassword, rfl⟩
    exact .credential h hpassword

/-- Either something is wrong with the key, or something is wrong with the certificate, or there is
a way to log in. -/
theorem authentication_cases (c : Config) :
    (∃ e, c.Wrong .key e ∧ c.authentication = .error e) ∨
      ((∀ e, ¬ c.Wrong .key e) ∧
        ((∃ e, c.Wrong .certificate e ∧ c.authentication = .error e) ∨
          ((∀ e, ¬ c.Wrong .certificate e) ∧ ∃ a, c.authentication = .ok a))) := by
  by_cases hkey : Blank c.privateKey
  · -- Without a private key nothing is wrong with a certificate, as it is not looked at.
    rcases authentication_of_blank hkey with ⟨p, hp, hne, hauth⟩ | ⟨hpassword, hauth⟩
    · refine .inr ⟨fun e he => hne (((wrong_key_iff_of_blank hkey).1 he).1 p hp),
        .inr ⟨fun e he => ?_, _, hauth⟩⟩
      obtain ⟨raw, -, hraw, -⟩ := he.given_certificate
      exact hkey.given_ne raw hraw
    · exact .inl ⟨_, .credential hkey hpassword, hauth⟩
  · obtain ⟨raw, hraw⟩ := exists_given hkey
    have hauth := authentication_of_given hraw
    cases hhalf : publicHalf (keyText raw) (given c.passphrase) with
    | error e =>
      refine .inl ⟨e, .key hraw hhalf, ?_⟩
      rw [hauth, Signer.resolve_of_unreadable hhalf]
      rfl
    | ok half =>
      -- The key is fine, and its public half is what a certificate is compared with.
      have hextracts := publicHalf_eq_ok_iff.1 hhalf
      obtain ⟨hplain, hcertified⟩ := Signer.resolve_of_readable hextracts
      refine .inr ⟨fun e he => ?_, ?_⟩
      · rw [wrong_key_iff hraw, hhalf] at he
        cases he
      cases hline : given c.certificate with
      | none =>
        refine .inr ⟨fun e he => ?_, ?_⟩
        · obtain ⟨-, line, -, hline'⟩ := he.given_certificate
          rw [hline] at hline'
          cases hline'
        · rw [hauth, hline, hplain]
          exact ⟨_, rfl⟩
      | some line =>
        rw [hauth, hline, hcertified]
        simp only [wrong_certificate_iff hraw hline hextracts]
        cases checkedCertificate line half with
        | error e => exact .inl ⟨e, rfl, rfl⟩
        | ok t => exact .inr ⟨fun e he => (nomatch he), _, rfl⟩

theorem authentication_eq_publicKey_iff {s : Signer} : c.authentication = .ok (.publicKey s) ↔
    ∃ raw, given c.privateKey = some raw ∧
      Signer.resolve raw (given c.passphrase) (given c.certificate) = .ok s := by
  by_cases hkey : Blank c.privateKey
  · rw [given_eq_none_iff.2 hkey]
    rcases authentication_of_blank hkey with ⟨p, -, -, hauth⟩ | ⟨-, hauth⟩
    · simp [hauth]
    · simp [hauth]
  · obtain ⟨raw, hraw⟩ := exists_given hkey
    rw [authentication_of_given hraw]
    cases hs : Signer.resolve raw (given c.passphrase) (given c.certificate) with
    | error e => simp [hraw, hs, Except.map]
    | ok s' => simp [hraw, hs, Except.map]

/-- The ways to log in with a certificate are those where the key can be read and the certificate
is for it. -/
theorem certificateBacked_iff {s : Signer} :
    (c.authentication = .ok (.publicKey s) ∧ s.isCertificateBacked) ↔
      ∃ raw line half cert, given c.privateKey = some raw ∧ given c.certificate = some line ∧
        Extracts (keyText raw) (given c.passphrase) half ∧
        Certificate.ofLine? (keyText line) = some cert ∧ Certifies cert half ∧
        s = ⟨keyText raw, given c.passphrase, some (keyText line)⟩ := by
  rw [authentication_eq_publicKey_iff]
  constructor
  · rintro ⟨⟨raw, hraw, hs⟩, hbacked⟩
    obtain ⟨half, hextracts, rfl, hcertificate⟩ := Signer.resolve_eq_ok_iff.1 hs
    cases hline : given c.certificate with
    | none =>
      rw [hline] at hbacked
      cases hbacked
    | some line =>
      obtain ⟨cert, hcert, hcertifies⟩ := hcertificate line hline
      exact ⟨raw, line, half, cert, hraw, rfl, hextracts, hcert, hcertifies, rfl⟩
  · rintro ⟨raw, line, half, cert, hraw, hline, hextracts, hcert, hcertifies, rfl⟩
    refine ⟨⟨raw, hraw, Signer.resolve_eq_ok_iff.2 ⟨half, hextracts, by rw [hline]; rfl, ?_⟩⟩, rfl⟩
    rintro line' hline'
    obtain rfl := Option.some.inj (hline.symm.trans hline')
    exact ⟨cert, hcert, hcertifies⟩

/-! ### Host keys -/

theorem hostIdentity_of_blank (h : Blank c.hostKey) :
    HostIdentity.resolve (given c.hostKey) = .ok .any := by
  rw [given_eq_none_iff.2 h]
  rfl

/-- A host key that is given is pinned, or cannot be read. -/
theorem hostIdentity_of_given {line : String} (h : given c.hostKey = some line) :
    (∃ k, NamedKey.ofLine? (keyText line) = some k ∧
        HostIdentity.resolve (given c.hostKey) = .ok (.pinned k)) ∨
      (c.Wrong .hostKey unreadableHostKey ∧
        HostIdentity.resolve (given c.hostKey) = .error unreadableHostKey) := by
  have hwrong : NamedKey.ofLine? (keyText line) = none → c.Wrong .hostKey unreadableHostKey :=
    .hostKey h
  rw [h]
  unfold HostIdentity.resolve
  unfold keyText at hwrong ⊢
  dsimp only
  cases hline : NamedKey.ofLine? (trim (Material.decode line)) with
  | none => exact .inr ⟨hwrong hline, rfl⟩
  | some k => exact .inl ⟨k, rfl, rfl⟩

end Config

/-- A key that is pinned is compared with what the host presents as a whole. -/
theorem verify_pinned_iff {k : NamedKey} {presented : Bytes} :
    (HostIdentity.pinned k).verify presented = .ok () ↔ presented = k.key.encode := by
  show (if k.key.encode = presented then _ else _) = _ ↔ _
  rw [eq_comm (a := presented)]
  split <;> simp_all

namespace Config

variable {c : Config}

theorem wrong_hostKey_iff {e : Failure} :
    c.Wrong .hostKey e ↔ HostIdentity.resolve (given c.hostKey) = .error e := by
  constructor
  · intro h
    cases h with
    | hostKey hline hnone =>
      rcases hostIdentity_of_given hline with ⟨k, hk, -⟩ | ⟨-, herror⟩
      · rw [hnone] at hk
        cases hk
      · exact herror
  · intro h
    by_cases hblank : Blank c.hostKey
    · rw [hostIdentity_of_blank hblank] at h
      cases h
    · obtain ⟨line, hline⟩ := exists_given hblank
      rcases hostIdentity_of_given hline with ⟨k, -, hok⟩ | ⟨hwrong, herror⟩
      · rw [hok] at h
        cases h
      · rwa [Except.error.inj (h.symm.trans herror)]

/-! ### Policies -/

theorem resolve_of_no_login {e : Failure} (h : c.authentication = .error e) :
    c.resolve = .error e := by
  unfold Config.resolve
  rw [h]
  rfl

theorem resolve_of_login {a : Authentication} (h : c.authentication = .ok a) :
    c.resolve = (HostIdentity.resolve (given c.hostKey)).map
      fun h => ⟨c.username, a, h, max c.connectTimeoutSecs 1⟩ := by
  unfold Config.resolve
  rw [h]
  cases HostIdentity.resolve (given c.hostKey) with
  | error e => rfl
  | ok h => rfl

theorem resolve_eq_ok_iff {policy : Policy} : c.resolve = .ok policy ↔
    ∃ a h, c.authentication = .ok a ∧ HostIdentity.resolve (given c.hostKey) = .ok h ∧
      policy = ⟨c.username, a, h, max c.connectTimeoutSecs 1⟩ := by
  cases hauth : c.authentication with
  | error e => simp [resolve_of_no_login hauth]
  | ok a =>
    rw [resolve_of_login hauth]
    cases HostIdentity.resolve (given c.hostKey) with
    | error e => simp [Except.map]
    | ok h => simp [Except.map, eq_comm]

theorem Wrong.iff_eq {concern : Concern} {e e' : Failure} (h : c.Wrong concern e) :
    c.Wrong concern e' ↔ e = e' := ⟨h.unique, fun heq => heq ▸ h⟩

theorem resolve_eq_error_cases {e : Failure} : c.resolve = .error e ↔
    c.Wrong .key e ∨ ((∀ e', ¬ c.Wrong .key e') ∧ (c.Wrong .certificate e ∨
      ((∀ e', ¬ c.Wrong .certificate e') ∧ c.Wrong .hostKey e))) := by
  rcases authentication_cases c with ⟨e', hwrong, hauth⟩ |
    ⟨hkey, ⟨e', hwrong, hauth⟩ | ⟨hcertificate, a, hauth⟩⟩
  · simp [resolve_of_no_login hauth, hwrong.iff_eq]
  · simp [resolve_of_no_login hauth, hkey, hwrong.iff_eq]
  · -- With a way to log in only the host key is left to be wrong.
    rw [resolve_of_login hauth, wrong_hostKey_iff]
    cases HostIdentity.resolve (given c.hostKey) <;> simp [Except.map, hkey, hcertificate]

/-- Where there is no policy, the failure is about the first thing that is wrong. -/
theorem resolve_eq_error_iff {e : Failure} : c.resolve = .error e ↔
    ∃ concern, c.Wrong concern e ∧
      ∀ earlier : Concern, earlier.rank < concern.rank → ∀ e', ¬ c.Wrong earlier e' := by
  rw [resolve_eq_error_cases]
  constructor
  · rintro (h | ⟨hkey, h | ⟨hcertificate, h⟩⟩)
    · exact ⟨.key, h, fun earlier hlt => absurd hlt (Nat.not_lt_zero _)⟩
    · refine ⟨.certificate, h, fun earlier hlt => ?_⟩
      cases earlier with
      | key => exact hkey
      | certificate => exact absurd hlt (by decide)
      | hostKey => exact absurd hlt (by decide)
    · refine ⟨.hostKey, h, fun earlier hlt => ?_⟩
      cases earlier with
      | key => exact hkey
      | certificate => exact hcertificate
      | hostKey => exact absurd hlt (by decide)
  · rintro ⟨concern, h, hfirst⟩
    cases concern with
    | key => exact .inl h
    | certificate => exact .inr ⟨hfirst .key (by decide), .inl h⟩
    | hostKey =>
      exact .inr ⟨hfirst .key (by decide), .inr ⟨hfirst .certificate (by decide), h⟩⟩

/-- There is a policy where nothing is wrong. -/
theorem exists_policy_iff : (∃ policy, c.resolve = .ok policy) ↔
    ∀ concern e, ¬ c.Wrong concern e := by
  constructor
  · rintro ⟨policy, hpolicy⟩
    have hno : ∀ e, c.resolve ≠ .error e := fun e he => by
      rw [hpolicy] at he
      cases he
    have hkey : ∀ e, ¬ c.Wrong .key e := fun e he => hno e (resolve_eq_error_cases.2 (.inl he))
    have hcertificate : ∀ e, ¬ c.Wrong .certificate e := fun e he =>
      hno e (resolve_eq_error_cases.2 (.inr ⟨hkey, .inl he⟩))
    intro concern
    cases concern with
    | key => exact hkey
    | certificate => exact hcertificate
    | hostKey =>
      exact fun e he => hno e (resolve_eq_error_cases.2 (.inr ⟨hkey, .inr ⟨hcertificate, he⟩⟩))
  · intro h
    cases hresolve : c.resolve with
    | ok policy => exact ⟨policy, rfl⟩
    | error e =>
      obtain ⟨concern, hwrong, -⟩ := resolve_eq_error_iff.1 hresolve
      exact absurd hwrong (h concern e)

theorem kind_of_wrong_certificate {e : Failure} (h : c.Wrong .certificate e) :
    e.kind = .malformedCertificate := by
  cases h <;> rfl

/-! ### Logging in -/

/-- What a configuration decides about the login. -/
structure LoginRules (c : Config) : Prop where
  /-- A private key is what the host is logged in to with, or cannot be used. -/
  private_key : ¬ Blank c.privateKey →
    (∃ s, c.authentication = .ok (.publicKey s)) ∨
      ∃ e, c.authentication = .error e ∧
        (e.kind = .malformedKey ∨ e.kind = .malformedCertificate)
  /-- Without one, the password is, as it is given. -/
  password : Blank c.privateKey → ∀ p, c.password = some p → p ≠ "" →
    c.authentication = .ok (.password p)
  /-- Without either, there is no policy, whatever else is given. -/
  no_credential : Blank c.privateKey → (∀ p, c.password = some p → p = "") →
    c.resolve = .error c.noCredential
  /-- A certificate goes with the key exactly where both can be read and it is for the key, if that
  can be told. -/
  certificate : ∀ s, (c.authentication = .ok (.publicKey s) ∧ s.isCertificateBacked) ↔
    ∃ raw line half cert, given c.privateKey = some raw ∧ given c.certificate = some line ∧
      Extracts (keyText raw) (given c.passphrase) half ∧
      Certificate.ofLine? (keyText line) = some cert ∧ Certifies cert half ∧
      s = ⟨keyText raw, given c.passphrase, some (keyText line)⟩
  /-- A host key is pinned, and only the host with this key is accepted, or it cannot be read. -/
  host_key : ¬ Blank c.hostKey →
    (∃ line k, given c.hostKey = some line ∧ NamedKey.ofLine? (keyText line) = some k ∧
        HostIdentity.resolve (given c.hostKey) = .ok (.pinned k) ∧
        ∀ presented, (HostIdentity.pinned k).verify presented = .ok () ↔
          presented = k.key.encode) ∨
      ∃ e, HostIdentity.resolve (given c.hostKey) = .error e ∧ e.kind = .malformedHostKey
  /-- The policy has the way to log in and the host key of the configuration. -/
  policy : ∀ policy, c.resolve = .ok policy ↔
    ∃ a h, c.authentication = .ok a ∧ HostIdentity.resolve (given c.hostKey) = .ok h ∧
      policy = ⟨c.username, a, h, max c.connectTimeoutSecs 1⟩
  /-- Where there is none, the failure is about the first thing that is wrong. -/
  precedence : ∀ e, c.resolve = .error e ↔ ∃ concern, c.Wrong concern e ∧
    ∀ earlier : Concern, earlier.rank < concern.rank → ∀ e', ¬ c.Wrong earlier e'
  /-- Without a policy nothing is called, and with one the host is dialled once. -/
  connect : ∀ (ω : Type) (answer : (x : Call) → ω → x.Reply × ω) (w : ω),
    let played := (Session.connect c).play answer w
    (∀ e, c.resolve = .error e →
        played.exchanges = [] ∧ played.result? = some (.error e)) ∧
      ∀ policy, c.resolve = .ok policy → ∃ reply : Outcome Unit,
        played.exchanges = [⟨.dial c.address policy, reply⟩] ∧
        played.result? =
          some (reply.map fun _ => { address := c.address, policy, connection := some 1 })

theorem authentication_of_private_key (h : ¬ Blank c.privateKey) :
    (∃ s, c.authentication = .ok (.publicKey s)) ∨
      ∃ e, c.authentication = .error e ∧
        (e.kind = .malformedKey ∨ e.kind = .malformedCertificate) := by
  obtain ⟨raw, hraw⟩ := exists_given h
  rcases authentication_cases c with ⟨e, hwrong, hauth⟩ |
    ⟨-, ⟨e, hwrong, hauth⟩ | ⟨-, a, hauth⟩⟩
  · exact .inr ⟨e, hauth, .inl (kind_of_publicHalf ((wrong_key_iff hraw).1 hwrong))⟩
  · exact .inr ⟨e, hauth, .inr (kind_of_wrong_certificate hwrong)⟩
  · rw [authentication_of_given hraw] at hauth ⊢
    cases hs : Signer.resolve raw (given c.passphrase) (given c.certificate) with
    | error e =>
      rw [hs] at hauth
      cases hauth
    | ok s => exact .inl ⟨s, rfl⟩

theorem connect_of_no_policy {e : Failure} (h : c.resolve = .error e) :
    Session.connect c = .done (.error e) := by
  unfold Session.connect
  simp only [h]
  rfl

theorem connect_of_policy {policy : Policy} (h : c.resolve = .ok policy) :
    Session.connect c = .ask (.dial c.address policy) fun reply : Outcome Unit =>
      .done (reply.map fun _ => { address := c.address, policy, connection := some 1 }) := by
  unfold Session.connect
  simp only [h]
  rfl

/-- **The login that follows from a configuration**, whichever of its optional fields are given,
blank or malformed: how to log in, which certificate goes with the key, which host is accepted,
which failure comes first where something is wrong, and what is dialled. -/
theorem loginRules (c : Config) : c.LoginRules where
  private_key := authentication_of_private_key
  password hkey p hp hne := by
    rcases authentication_of_blank hkey with ⟨p', hp', -, hauth⟩ | ⟨hpassword, -⟩
    · obtain rfl := Option.some.inj (hp.symm.trans hp')
      exact hauth
    · exact absurd (hpassword p hp) hne
  no_credential hkey hpassword :=
    resolve_eq_error_iff.2 ⟨.key, .credential hkey hpassword,
      fun _ hlt => absurd hlt (Nat.not_lt_zero _)⟩
  certificate s := certificateBacked_iff
  host_key h := by
    obtain ⟨line, hline⟩ := exists_given h
    rcases hostIdentity_of_given hline with ⟨k, hk, hok⟩ | ⟨-, herror⟩
    · exact .inl ⟨line, k, hline, hk, hok, fun presented => verify_pinned_iff⟩
    · exact .inr ⟨_, herror, rfl⟩
  policy _ := resolve_eq_ok_iff
  precedence _ := resolve_eq_error_iff
  connect _ answer w := by
    intro played
    refine ⟨fun e he => ?_, fun policy hpolicy => ?_⟩
    · simp only [played, connect_of_no_policy he]
      exact ⟨rfl, rfl⟩
    · simp only [played, connect_of_policy hpolicy]
      exact ⟨(answer (.dial c.address policy) w).1, rfl, rfl⟩

/-- A certificate and a host key do not stand in for a private key, and the password is taken with
its blanks. -/
example :
    ({ host := "h", username := "u", password := some " pw ", privateKey := some " \n"
       certificate := some "c" } : Config).authentication = .ok (.password " pw ") := by
  decide +kernel

end Config

end RemoteHost.Ssh
