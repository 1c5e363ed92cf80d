/-
RemoteHost/Proofs/Ssh/WrappedMaterial.lean

Key material in base64.

Private key, certificate and host key are given as text or as the base64 of that text, which may be
broken into lines.  A text that has something in it by which it is seen to be text (`IsText`) stands
for itself (`keyText_of_isText`), and what wraps it (`Wraps`) is never taken for text and stands for
what it wraps (`keyText_of_wraps`).  The policy of a configuration depends on no more of these three
fields than the texts that they stand for (`Config.resolve_congr`), so it makes no difference in which
form they are given.
-/
import RemoteHost.Proofs.Ssh.LoginPolicy
import RemoteHost.Proofs.Text.Base64
import RemoteHost.Proofs.Text.Utf8

namespace RemoteHost.Ssh

open Text

variable {t w raw raw' : String}

/-! ### Texts and what wraps them -/

/-- Something is left of the text when it is trimmed, and this begins with a dash line or has a
space in it. -/
structure IsText (t : String) : Prop where
  ne_blank : trim t ≠ ""
  seen : startsWith (trim t) "-----" ∨ ' ' ∈ (trim t).toList

/-- The base64 of a text, with blanks other than spaces put in anywhere. -/
structure Wraps (w t : String) : Prop where
  spaced : Spaced (Base64.encodeChars (Utf8.encode t)) w.toList
  no_space : ' ' ∉ w.toList

theorem IsText.ne_empty (h : IsText t) : t ≠ "" := by
  rintro rfl
  exact h.ne_blank rfl

theorem isPlain_iff {s : List Char} :
    Material.isPlain s ↔ "-----".toList <+: s ∨ ' ' ∈ s := by
  rw [Material.isPlain, Bool.or_eq_true, List.isPrefixOf_iff_prefix, List.contains_iff_mem]

theorem IsText.isPlain (h : IsText t) : Material.isPlain (trimChars t.toList) := by
  rw [isPlain_iff, ← toList_trim]
  exact h.seen.imp_left List.isPrefixOf_iff_prefix.1

/-- There is no dash in base64 and none in blanks, so what wraps a text does not look like one. -/
theorem Wraps.not_isPlain (h : Wraps w t) : ¬ Material.isPlain (trimChars w.toList) := by
  have hdash : '-' ∉ w.toList := by
    intro hmem
    rcases h.spaced.mem hmem with hmem | hblank
    · exact Base64.not_mem_encodeChars (by decide) (by decide) _ hmem
    · exact absurd hblank (by decide)
  rw [isPlain_iff]
  rintro (⟨s, hs⟩ | hspace)
  · refine hdash (mem_of_mem_trimChars ?_)
    rw [← hs]
    exact List.mem_cons_self
  · exact h.no_space (mem_of_mem_trimChars hspace)

theorem Wraps.ne_blank (h : Wraps w t) (ht : t ≠ "") : trim w ≠ "" := by
  intro hw
  have hnil : w.toList.filter (!isBlank ·) = [] := by
    rw [← filter_trimChars, ← toList_trim, hw]
    rfl
  rw [Base64.filter_of_spaced h.spaced] at hnil
  -- Nothing is the base64 of no bytes only, and these are the bytes of no text.
  have hbytes := Base64.decode?_encodeChars (Utf8.encode t)
  rw [hnil] at hbytes
  have hempty : Utf8.encodeChars t.toList = Utf8.encodeChars [] := (Option.some.inj hbytes).symm
  exact ht (String.toList_eq_nil_iff.1 (Utf8.encodeChars_injective hempty))

theorem toList_decode_of_plain (h : Material.isPlain (trimChars raw.toList)) :
    (Material.decode raw).toList = trimChars raw.toList := by
  unfold Material.decode
  rw [if_pos h, String.toList_ofList]

/-- A text stands for itself. -/
theorem keyText_trim (h : IsText t) : keyText (trim t) = trim t := by
  have htrim : trimChars (trim t).toList = trimChars t.toList := by
    rw [toList_trim, trimChars_trimChars]
  have hplain : Material.isPlain (trimChars (trim t).toList) := by
    rw [htrim]
    exact h.isPlain
  rw [← String.toList_inj, keyText, toList_trim, toList_decode_of_plain hplain, htrim,
    trimChars_trimChars, toList_trim]

theorem keyText_of_isText (h : IsText t) : (given (some t)).map keyText = some (trim t) := by
  rw [given_of_ne h.ne_blank, Option.map_some, keyText_trim h]

/-- What wraps a text stands for it, trimmed. -/
theorem keyText_of_wraps (h : Wraps w t) (ht : t ≠ "") :
    (given (some w)).map keyText = some (trim t) := by
  have hcompact : Material.withoutBlanks (trimChars w.toList) =
      Base64.encodeChars (Utf8.encode t) :=
    (filter_trimChars _).trans (Base64.filter_of_spaced h.spaced)
  rw [given_of_ne (h.ne_blank ht), Option.map_some, keyText, Material.decode, toList_trim,
    trimChars_trimChars, if_neg h.not_isPlain, hcompact, Base64.decode?_encodeChars,
    Option.bind_some, Utf8.decode?_encode]

/-! ### What a policy depends on -/

theorem checkedCertificate_congr (h : keyText raw = keyText raw') (key : Option PublicKey) :
    checkedCertificate raw key = checkedCertificate raw' key := by
  unfold checkedCertificate
  unfold keyText at h
  rw [h]

theorem Signer.resolve_congr {certificate certificate' : Option String}
    (hraw : keyText raw = keyText raw')
    (hcertificate : certificate.map keyText = certificate'.map keyText)
    (passphrase : Option String) :
    Signer.resolve raw passphrase certificate = Signer.resolve raw' passphrase certificate' := by
  cases hhalf : publicHalf (keyText raw) passphrase with
  | error e =>
    rw [Signer.resolve_of_unreadable hhalf, Signer.resolve_of_unreadable (hraw ▸ hhalf)]
  | ok half =>
    have hextracts := publicHalf_eq_ok_iff.1 hhalf
    obtain ⟨hplain, hcertified⟩ := Signer.resolve_of_readable hextracts
    have hextracts' : Extracts (keyText raw') passphrase half := hraw ▸ hextracts
    obtain ⟨hplain', hcertified'⟩ := Signer.resolve_of_readable hextracts'
    cases certificate with
    | none =>
      obtain rfl : certificate' = none := Option.map_eq_none_iff.1 hcertificate.symm
      rw [hplain, hplain', hraw]
    | some line =>
      obtain ⟨line', rfl, hline⟩ := Option.map_eq_some_iff.1 hcertificate.symm
      rw [hcertified, hcertified', hraw, checkedCertificate_congr hline.symm]

theorem HostIdentity.resolve_congr {field field' : Option String}
    (h : field.map keyText = field'.map keyText) :
    HostIdentity.resolve field = HostIdentity.resolve field' := by
  cases field with
  | none =>
    obtain rfl : field' = none := Option.map_eq_none_iff.1 h.symm
    rfl
  | some raw =>
    obtain ⟨raw', rfl, hraw⟩ := Option.map_eq_some_iff.1 h.symm
    unfold keyText at hraw
    unfold HostIdentity.resolve
    dsimp only
    rw [hraw]

namespace Config

variable {c c' : Config}

/-- Two configurations give the same in other fields than these three. -/
structure SameElsewhere (c c' : Config) : Prop where
  host : c.host = c'.host
  username : c.username = c'.username
  password : c.password = c'.password
  passphrase : c.passphrase = c'.passphrase
  connectTimeoutSecs : c.connectTimeoutSecs = c'.connectTimeoutSecs

theorem authentication_congr (h : SameElsewhere c c')
    (hkey : (given c.privateKey).map keyText = (given c'.privateKey).map keyText)
    (hcertificate : (given c.certificate).map keyText = (given c'.certificate).map keyText) :
    c.authentication = c'.authentication := by
  cases hraw : given c.privateKey with
  | none =>
    have hraw' : given c'.privateKey = none := by
      rw [hraw] at hkey
      exact Option.map_eq_none_iff.1 hkey.symm
    unfold Config.authentication
    simp only [hraw, hraw', h.password, h.username, h.host]
  | some raw =>
    rw [hraw] at hkey
    obtain ⟨raw', hraw', htext⟩ := Option.map_eq_some_iff.1 hkey.symm
    rw [authentication_of_given hraw, authentication_of_given hraw', h.passphrase,
      Signer.resolve_congr htext.symm hcertificate]

/-- A policy depends on what key, certificate and host key stand for, not on the form that they are
given in. -/
theorem resolve_congr (h : SameElsewhere c c')
    (hkey : (given c.privateKey).map keyText = (given c'.privateKey).map keyText)
    (hcertificate : (given c.certificate).map keyText = (given c'.certificate).map keyText)
    (hhostKey : (given c.hostKey).map keyText = (given c'.hostKey).map keyText) :
    c.resolve = c'.resolve := by
  unfold Config.resolve
  rw [authentication_congr h hkey hcertificate, HostIdentity.resolve_congr hhostKey, h.username,
    h.connectTimeoutSecs]

/-- **Text or base64.**  Whichever of the private key, the certificate and the host key is given as a
text, giving the base64 of the text, broken in any way by blanks other than spaces, leads to the same
policy or to the same failure, whatever the other fields are.  In both forms it is the text, trimmed,
that counts. -/
theorem resolve_of_wrapped (c : Config) {t w : String} (ht : IsText t) (hw : Wraps w t) :
    ({ c with privateKey := some w }.resolve = { c with privateKey := some t }.resolve ∧
      { c with certificate := some w }.resolve = { c with certificate := some t }.resolve ∧
      { c with hostKey := some w }.resolve = { c with hostKey := some t }.resolve) ∧
    (given (some w)).map keyText = some (trim t) ∧
    (given (some t)).map keyText = some (trim t) := by
  have hwrapped := keyText_of_wraps hw ht.ne_empty
  have hplain := keyText_of_isText ht
  have htext := hwrapped.trans hplain.symm
  exact ⟨⟨resolve_congr ⟨rfl, rfl, rfl, rfl, rfl⟩ htext rfl rfl,
    resolve_congr ⟨rfl, rfl, rfl, rfl, rfl⟩ rfl htext rfl,
    resolve_congr ⟨rfl, rfl, rfl, rfl, rfl⟩ rfl rfl htext⟩, hwrapped, hplain⟩

/-- The base64 of a host key, broken into two lines. -/
theorem resolve_of_wrapped_host_key :
    let line :=
      "ssh-ed25519 AAAAC3NzaC1lZDI1NTE5AAAAIAal85W20Qg06uSAxmBpTApU62OwA8tV/YsL1v36gofx host\n"
    let wrapped :=
      "c3NoLWVkMjU1MTkgQUFBQUMzTnphQzFsWkRJMU5URTVBQUFBSUFhbDg1VzIwUWcw\n" ++
      "\tNnVTQXhtQnBUQXBVNjJPd0E4dFYvWXNMMXYzNmdvZnggaG9zdAo="
    let c : Config := { host := "esx", username := "root", password := some "pw" }
    (IsText line ∧ Wraps wrapped line) ∧
      (({ c with privateKey := some wrapped }.resolve =
          { c with privateKey := some line }.resolve ∧
        { c with certificate := some wrapped }.resolve =
          { c with certificate := some line }.resolve ∧
        { c with hostKey := some wrapped }.resolve = { c with hostKey := some line }.resolve) ∧
        (given (some wrapped)).map keyText = some (trim line) ∧
        (given (some line)).map keyText = some (trim line)) ∧
      ∃ policy, { c with hostKey := some line }.resolve = .ok policy := by
  intro line wrapped c
  have hspace : ' ' ∈ (trim line).toList := by decide +kernel
  have ht : IsText line := by
    refine ⟨fun hnil => ?_, .inr hspace⟩
    rw [hnil] at hspace
    exact absurd hspace (by decide)
  have hcompact : wrapped.toList.filter (!isBlank ·) =
      Base64.encodeChars (Utf8.encode line) := by
    decide +kernel
  have hw : Wraps wrapped line := ⟨hcompact ▸ spaced_filter _, by decide +kernel⟩
  have hok : ({ c with hostKey := some line }.resolve).isOk := by decide +kernel
  refine ⟨⟨ht, hw⟩, resolve_of_wrapped c ht hw, ?_⟩
  cases hpolicy : { c with hostKey := some line }.resolve with
  | error e =>
    rw [hpolicy] at hok
    cases hok
  | ok policy => exact ⟨policy, rfl⟩

end Config

end RemoteHost.Ssh
