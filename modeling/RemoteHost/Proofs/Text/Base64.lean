/-
RemoteHost/Proofs/Text/Base64.lean

What base64 writes, it reads back (`decode?_encodeChars`), and it reads nothing else: a text
that can be read is the one that is written for what was read (`decode_encodeChars_iff`,
`decode_eq_ok_iff`).

Writing bytes is writing their values below 64 one by one, and padding (`encodeChars_eq`).
The values fill whole groups of four together with the padding (`length_values`), leave no
loose bits (`looseBits_values`) and spell the bytes (`bytesOf_values`), which is all that
reading asks for.  The other way round, values without loose bits are those of the bytes that
they spell (`values_bytesOf`), and how many of them there are settles the padding.
-/
import RemoteHost.Proofs.Text.Blank
import RemoteHost.Proofs.Text.Utf8
import RemoteHost.Text.Base64

namespace RemoteHost.Base64

/-! ### Values -/

/-- Bytes as values below 64. -/
def values : Bytes → List Nat
  | [] => []
  | [a] => [a.toNat / 4, a.toNat % 4 * 16]
  | [a, b] => [a.toNat / 4, a.toNat % 4 * 16 + b.toNat / 16, b.toNat % 16 * 4]
  | a :: b :: c :: r =>
    a.toNat / 4 :: (a.toNat % 4 * 16 + b.toNat / 16) :: (b.toNat % 16 * 4 + c.toNat / 64) ::
      c.toNat % 64 :: values r

theorem encodeUnpadded_eq (bytes : Bytes) : encodeUnpadded bytes = (values bytes).map symbol := by
  induction bytes using values.induct with
  | case1 => rfl
  | case2 a => rfl
  | case3 a b => rfl
  | case4 a b c r ih => rw [encodeUnpadded, values, ih]; rfl

theorem lt_of_mem_values {bytes : Bytes} {v : Nat} (h : v ∈ values bytes) : v < 64 := by
  induction bytes using values.induct with
  | case1 => simp [values] at h
  | case2 a =>
    have ha := a.toNat_lt
    simp only [values, List.mem_cons, List.not_mem_nil, or_false] at h
    omega
  | case3 a b =>
    have ha := a.toNat_lt
    have hb := b.toNat_lt
    simp only [values, List.mem_cons, List.not_mem_nil, or_false] at h
    omega
  | case4 a b c r ih =>
    have ha := a.toNat_lt
    have hb := b.toNat_lt
    have hc := c.toNat_lt
    simp only [values, List.mem_cons] at h
    rcases h with h | h | h | h | h
    · omega
    · omega
    · omega
    · omega
    · exact ih h

theorem bytesOf_values (bytes : Bytes) : bytesOf (values bytes) = bytes := by
  induction bytes using values.induct with
  | case1 => rfl
  | case2 a =>
    have ha := a.toNat_lt
    have h : a.toNat / 4 * 4 + a.toNat % 4 * 16 / 16 = a.toNat := by omega
    simp only [values, bytesOf, h, UInt8.ofNat_toNat]
  | case3 a b =>
    have hb := b.toNat_lt
    have h₁ : a.toNat / 4 * 4 + (a.toNat % 4 * 16 + b.toNat / 16) / 16 = a.toNat := by omega
    have h₂ : (a.toNat % 4 * 16 + b.toNat / 16) % 16 * 16 + b.toNat % 16 * 4 / 4 = b.toNat := by
      omega
    simp only [values, bytesOf, h₁, h₂, UInt8.ofNat_toNat]
  | case4 a b c r ih =>
    have hb := b.toNat_lt
    have hc := c.toNat_lt
    have h₁ : a.toNat / 4 * 4 + (a.toNat % 4 * 16 + b.toNat / 16) / 16 = a.toNat := by omega
    have h₂ : (a.toNat % 4 * 16 + b.toNat / 16) % 16 * 16 +
        (b.toNat % 16 * 4 + c.toNat / 64) / 4 = b.toNat := by omega
    have h₃ : (b.toNat % 16 * 4 + c.toNat / 64) % 4 * 64 + c.toNat % 64 = c.toNat := by omega
    simp only [values, bytesOf, h₁, h₂, h₃, UInt8.ofNat_toNat, ih]

/-- How many characters of padding follow the values. -/
def paddingLength (bytes : Bytes) : Nat := (3 - bytes.length % 3) % 3

/-- The values and the padding fill groups of four. -/
theorem length_values (bytes : Bytes) :
    (values bytes).length % 4 = (4 - paddingLength bytes) % 4 := by
  unfold paddingLength
  induction bytes using values.induct with
  | case1 => rfl
  | case2 a => rfl
  | case3 a b => rfl
  | case4 a b c r ih =>
    simp only [values, List.length_cons] at ih ⊢
    omega

/-- Further values decide about the loose bits. -/
theorem looseBits_cons {s t u v w : Nat} {vs : List Nat} :
    looseBits (s :: t :: u :: v :: w :: vs) = looseBits (w :: vs) := by
  simp only [looseBits, List.length_cons, List.getLast?_cons_cons,
    show ∀ n, (n + 1 + 1 + 1 + 1 + 1) % 4 = (n + 1) % 4 by omega]

theorem looseBits_values (bytes : Bytes) : looseBits (values bytes) = 0 := by
  induction bytes using values.induct with
  | case1 => rfl
  | case2 a =>
    show a.toNat % 4 * 16 % 16 = 0
    omega
  | case3 a b =>
    show b.toNat % 16 * 4 % 4 = 0
    omega
  | case4 a b c r ih =>
    rcases hr : values r with _ | ⟨v, vs⟩
    · simp [values, hr, looseBits]
    · rw [hr] at ih
      rw [values, hr, looseBits_cons, ih]

/-! ### Characters -/

theorem symbol_lt {n : Nat} (h : n < 64) : (symbol n).toNat < 128 := by
  revert n
  decide

/-- The character of a value reads back as the value. -/
theorem sextet?_symbol {n : Nat} (h : n < 64) :
    sextet? (UInt8.ofNat (symbol n).toNat) = some n := by
  revert n
  decide

theorem symbol_ne_pad {n : Nat} (h : n < 64) : UInt8.ofNat (symbol n).toNat ≠ pad := by
  revert n
  decide

/-- The bytes of a text in base64. -/
def textBytes (bytes : Bytes) : Bytes :=
  (values bytes).map (fun n => UInt8.ofNat (symbol n).toNat) ++
    List.replicate (paddingLength bytes) pad

theorem encodeChars_eq (bytes : Bytes) :
    encodeChars bytes =
      (values bytes).map symbol ++ List.replicate (paddingLength bytes) '=' := by
  rw [encodeChars, encodeUnpadded_eq]
  rfl

theorem toList_encode (bytes : Bytes) : (encode bytes).toList = encodeChars bytes := by
  rw [encode, String.toList_ofList]

/-- What holds of every symbol and of the padding character holds of every character. -/
theorem of_mem_encodeChars {p : Char → Bool} (hp : ∀ n < 64, p (symbol n)) (hpad : p '=')
    {bytes : Bytes} {c : Char} (h : c ∈ encodeChars bytes) : p c := by
  rw [encodeChars_eq, List.mem_append] at h
  rcases h with h | h
  · obtain ⟨n, hn, rfl⟩ := List.mem_map.1 h
    exact hp n (lt_of_mem_values hn)
  · rw [List.eq_of_mem_replicate h]
    exact hpad

theorem not_mem_encodeChars {c : Char} (hc : ∀ n < 64, symbol n ≠ c) (hpad : c ≠ '=')
    (bytes : Bytes) : c ∉ encodeChars bytes := by
  intro h
  have hne := of_mem_encodeChars (p := (· != c)) (fun n hn => bne_iff_ne.2 (hc n hn))
    (bne_iff_ne.2 hpad.symm) h
  exact bne_iff_ne.1 hne rfl

theorem ascii_of_mem_encodeChars {bytes : Bytes} {c : Char} (h : c ∈ encodeChars bytes) :
    c.toNat < 128 :=
  of_decide_eq_true (of_mem_encodeChars (p := fun c => decide (c.toNat < 128))
    (fun _ hn => decide_eq_true (symbol_lt hn)) (by decide) h)

theorem isBlank_of_mem_encodeChars {bytes : Bytes} {c : Char} (h : c ∈ encodeChars bytes) :
    Text.isBlank c = false := by
  have hplain := of_mem_encodeChars (p := (!Text.isBlank ·)) (by decide) (by decide) h
  rwa [Bool.not_eq_true'] at hplain

/-- Blanks that were put in anywhere are told from base64 and left out. -/
theorem filter_of_spaced {bytes : Bytes} {s : List Char}
    (h : Text.Spaced (encodeChars bytes) s) : s.filter (!Text.isBlank ·) = encodeChars bytes :=
  h.filter_eq fun _ hc => isBlank_of_mem_encodeChars hc

/-- Each three bytes, and what is left of them, take four characters. -/
theorem length_encodeChars (bytes : Bytes) :
    (encodeChars bytes).length = 4 * ((bytes.length + 2) / 3) := by
  rw [encodeChars_eq, List.length_append, List.length_map, List.length_replicate, paddingLength]
  induction bytes using values.induct with
  | case1 => rfl
  | case2 a => simp [values]
  | case3 a b => simp [values]
  | case4 a b c r ih =>
    simp only [values, List.length_cons] at ih ⊢
    omega

theorem encodeChars_map_eq (bytes : Bytes) :
    (encodeChars bytes).map (fun c => UInt8.ofNat c.toNat) = textBytes bytes := by
  rw [encodeChars_eq, List.map_append, List.map_map, List.map_replicate]
  rfl

theorem encodeChars_utf8 (bytes : Bytes) :
    Utf8.encodeChars (encodeChars bytes) = textBytes bytes := by
  rw [Utf8.encodeChars_eq_map fun c hc => ascii_of_mem_encodeChars hc, encodeChars_map_eq]

/-! ### Reading back -/

theorem sextets_map_symbol (offset : Nat) {vs : List Nat} (h : ∀ v ∈ vs, v < 64) :
    sextets offset (vs.map fun n => UInt8.ofNat (symbol n).toNat) = .ok vs := by
  induction vs generalizing offset with
  | nil => rfl
  | cons v vs ih =>
    have ih := ih (offset + 1) fun w hw => h w (List.mem_cons_of_mem v hw)
    rw [List.map_cons, sextets, sextet?_symbol (h v (by simp))]
    simp only [ih]
    rfl

theorem decode_textBytes (bytes : Bytes) : decode (textBytes bytes) = .ok bytes := by
  have hlen := length_values bytes
  have hp : paddingLength bytes < 3 := Nat.mod_lt _ (by decide)
  have hne : ∀ b ∈ (values bytes).map fun n => UInt8.ofNat (symbol n).toNat,
      (b != pad) = true := by
    intro b hb
    obtain ⟨n, hn, rfl⟩ := List.mem_map.1 hb
    exact bne_iff_ne.2 (symbol_ne_pad (lt_of_mem_values hn))
  have htake : (textBytes bytes).takeWhile (· != pad) =
      (values bytes).map fun n => UInt8.ofNat (symbol n).toNat := by
    rw [textBytes, List.takeWhile_append_of_pos hne]
    simp
  have hdrop : (textBytes bytes).dropWhile (· != pad) =
      List.replicate (paddingLength bytes) pad := by
    rw [textBytes, List.dropWhile_append_of_pos hne]
    simp
  have hlength : (textBytes bytes).length = (values bytes).length + paddingLength bytes := by
    simp [textBytes]
  have hfits : paddingFits (values bytes).length (paddingLength bytes) = true := by
    simp only [paddingFits, Bool.or_eq_true, beq_iff_eq, Bool.and_eq_true, decide_eq_true_eq]
    omega
  have hall : (List.replicate (paddingLength bytes) pad).all (· == pad) = true := by
    simp
  unfold decode
  rw [if_neg (by rw [hlength]; omega)]
  simp only [htake, hdrop, sextets_map_symbol 0 (fun v hv => lt_of_mem_values hv),
    List.length_replicate]
  rw [if_neg (by simp [hfits]), if_neg (by omega), if_neg (by simp [looseBits_values]),
    bytesOf_values]

/-- Bytes read back as they were written. -/
theorem decode?_encodeChars (bytes : Bytes) :
    decode? (Utf8.encodeChars (encodeChars bytes)) = some bytes := by
  rw [encodeChars_utf8, decode?, decode_textBytes]
  rfl

/-! ### Nothing else is read -/

/-- A byte with a value is the character of that value. -/
theorem sextet?_eq_some {b : UInt8} {v : Nat} (h : sextet? b = some v) :
    v < 64 ∧ UInt8.ofNat (symbol v).toNat = b := by
  have hall : ∀ n < 256, ∀ v ∈ sextet? (UInt8.ofNat n),
      v < 64 ∧ UInt8.ofNat (symbol v).toNat = UInt8.ofNat n := by decide +kernel
  have hb := hall b.toNat b.toNat_lt v
  rw [UInt8.ofNat_toNat] at hb
  exact hb h

theorem sextets_eq_ok {offset : Nat} {text : Bytes} {vs : List Nat}
    (h : sextets offset text = .ok vs) :
    (∀ v ∈ vs, v < 64) ∧ text = vs.map fun n => UInt8.ofNat (symbol n).toNat := by
  induction text generalizing offset vs with
  | nil =>
    cases h
    exact ⟨fun v hv => absurd hv List.not_mem_nil, rfl⟩
  | cons b text ih =>
    rw [sextets] at h
    cases hb : sextet? b with
    | none =>
      rw [hb] at h
      cases h
    | some v =>
      simp only [hb] at h
      cases hrest : sextets (offset + 1) text with
      | error e =>
        rw [hrest] at h
        cases h
      | ok ws =>
        rw [hrest] at h
        cases h
        obtain ⟨hv, rfl⟩ := sextet?_eq_some hb
        obtain ⟨hws, htext⟩ := ih hrest
        refine ⟨List.forall_mem_cons.2 ⟨hv, hws⟩, ?_⟩
        rw [List.map_cons, ← htext]

/-- Values without loose bits are those of the bytes that they spell. -/
theorem values_bytesOf {vs : List Nat} (hlt : ∀ v ∈ vs, v < 64) (hlength : vs.length % 4 ≠ 1)
    (hloose : looseBits vs = 0) : values (bytesOf vs) = vs := by
  have hbyte : ∀ n < 256, (UInt8.ofNat n).toNat = n := fun n hn =>
    (UInt8.toNat_ofNat').trans (Nat.mod_eq_of_lt hn)
  induction vs using bytesOf.induct with
  | case1 s t u v r ih =>
    have hs : s < 64 := hlt s (by simp)
    have ht : t < 64 := hlt t (by simp)
    have hu : u < 64 := hlt u (by simp)
    have hv : v < 64 := hlt v (by simp)
    have hrest : values (bytesOf r) = r := by
      apply ih
      · intro w hw
        exact hlt w (by simp [hw])
      · simp only [List.length_cons] at hlength
        omega
      · cases r with
        | nil => rfl
        | cons w ws => rwa [looseBits_cons] at hloose
    have h₁ : (s * 4 + t / 16) / 4 = s := by omega
    have h₂ : (s * 4 + t / 16) % 4 * 16 + (t % 16 * 16 + u / 4) / 16 = t := by omega
    have h₃ : (t % 16 * 16 + u / 4) % 16 * 4 + (u % 4 * 64 + v) / 64 = u := by omega
    have h₄ : (u % 4 * 64 + v) % 64 = v := by omega
    rw [bytesOf, values, hrest, hbyte _ (by omega), hbyte _ (by omega), hbyte _ (by omega), h₁, h₂,
      h₃, h₄]
  | case2 s t u =>
    have hs : s < 64 := hlt s (by simp)
    have ht : t < 64 := hlt t (by simp)
    have hu : u < 64 := hlt u (by simp)
    have hlast : u % 4 = 0 := hloose
    have h₁ : (s * 4 + t / 16) / 4 = s := by omega
    have h₂ : (s * 4 + t / 16) % 4 * 16 + (t % 16 * 16 + u / 4) / 16 = t := by omega
    have h₃ : (t % 16 * 16 + u / 4) % 16 * 4 = u := by omega
    rw [bytesOf, values, hbyte _ (by omega), hbyte _ (by omega), h₁, h₂, h₃]
  | case3 s t =>
    have hs : s < 64 := hlt s (by simp)
    have ht : t < 64 := hlt t (by simp)
    have hlast : t % 16 = 0 := hloose
    have h₁ : (s * 4 + t / 16) / 4 = s := by omega
    have h₂ : (s * 4 + t / 16) % 4 * 16 = t := by omega
    rw [bytesOf, values, hbyte _ (by omega), h₁, h₂]
  | case4 vs h₁ h₂ h₃ =>
    match vs with
    | [] => rfl
    | [s] => exact absurd rfl hlength
    | [s, t] => exact absurd rfl (h₃ s t)
    | [s, t, u] => exact absurd rfl (h₂ s t u)
    | s :: t :: u :: v :: r => exact absurd rfl (h₁ s t u v r)

/-- The padding that fits some values fills their last group. -/
theorem eq_paddingLength {bytes : Bytes} {count : Nat}
    (hfits : paddingFits (values bytes).length count)
    (hfull : ((values bytes).length + count) % 4 = 0) : count = paddingLength bytes := by
  have hlength := length_values bytes
  have hp : paddingLength bytes < 3 := Nat.mod_lt _ (by decide)
  simp only [paddingFits, Bool.or_eq_true, beq_iff_eq, Bool.and_eq_true, decide_eq_true_eq] at hfits
  omega

theorem eq_textBytes_of_decode {text bytes : Bytes} (h : decode text = .ok bytes) :
    text = textBytes bytes := by
  unfold decode at h
  split at h
  · -- One character is left over, which is an error in any case.
    split at h
    · split at h <;> cases h
    · cases h
  simp only at h
  cases hbody : sextets 0 (text.takeWhile (· != pad)) with
  | error e =>
    rw [hbody] at h
    cases h
  | ok vs =>
    simp only [hbody] at h
    split at h
    · cases h
    next hpadding =>
    split at h
    · cases h
    next hfull =>
    split at h
    · cases h
    next hloose =>
    cases h
    obtain ⟨hall, hfits⟩ := Decidable.not_not.1 hpadding
    obtain ⟨hlt, hchars⟩ := sextets_eq_ok hbody
    have htail : text.dropWhile (· != pad) =
        List.replicate (text.dropWhile (· != pad)).length pad := by
      rw [List.eq_replicate_iff]
      refine ⟨rfl, ?_⟩
      intro b hb
      exact beq_iff_eq.1 (List.all_eq_true.1 hall b hb)
    have hfull := Decidable.not_not.1 hfull
    have hvalues : values (bytesOf vs) = vs := by
      apply values_bytesOf hlt
      · intro hone
        simp only [paddingFits, Bool.or_eq_true, beq_iff_eq, Bool.and_eq_true,
          decide_eq_true_eq] at hfits
        omega
      · exact Decidable.not_not.1 hloose
    have hcount : (text.dropWhile (· != pad)).length = paddingLength (bytesOf vs) := by
      apply eq_paddingLength
      · rwa [hvalues]
      · rwa [hvalues]
    calc text = text.takeWhile (· != pad) ++ text.dropWhile (· != pad) :=
          List.takeWhile_append_dropWhile.symm
      _ = textBytes (bytesOf vs) := by rw [htail, hchars, hcount, textBytes, hvalues]

/-- **Only what is written is read.**  A text reads as some bytes just where it is what is written
for them: symbols of the alphabet without loose bits, and the padding that they need. -/
theorem decode_encodeChars_iff {text : List Char} {bytes : Bytes} :
    decode (Utf8.encodeChars text) = .ok bytes ↔ text = encodeChars bytes := by
  constructor
  · intro h
    apply Utf8.encodeChars_injective
    rw [encodeChars_utf8]
    exact eq_textBytes_of_decode h
  · rintro rfl
    rw [encodeChars_utf8]
    exact decode_textBytes bytes

theorem decode_eq_ok_iff {text : String} {bytes : Bytes} :
    decode (Utf8.encode text) = .ok bytes ↔ text = encode bytes := by
  rw [Utf8.encode, decode_encodeChars_iff, ← String.toList_inj, toList_encode]

theorem encode_injective : Function.Injective encode := by
  intro bytes other h
  have hdecode := decode_eq_ok_iff.2 h
  rw [decode_eq_ok_iff.2 rfl] at hdecode
  exact Except.ok.inj hdecode

theorem decode?_eq_some_iff {text : String} {bytes : Bytes} :
    decode? (Utf8.encode text) = some bytes ↔ text = encode bytes := by
  rw [← decode_eq_ok_iff, decode?]
  cases decode (Utf8.encode text) with
  | ok b => simp [Except.toOption]
  | error e => simp [Except.toOption]

end RemoteHost.Base64
