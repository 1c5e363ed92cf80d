/-
RemoteHost/Proofs/Ntlm/SecurityBuffers.lean

The fields of a message, read back through their descriptors.

The third message of a login has a descriptor for each of its fields, with the length twice in
16 bits and the place in 32 bits, and behind them the fields one after the other.  A reader goes
the other way: it takes a descriptor for a `SecurityBuffer` and cuts the field out of the
message.

Each place is counted on from the lengths that were written, not from those of the fields
(`placeOf`).  The two agree as long as every length fits into its 16 bits, and then each field
is read back as it is (`slice?_placeOf`).  A longer field cannot be described at all, so the
message is right exactly when all fields fit (`described_iff_fields_fit`).
-/
import RemoteHost.Ntlm.Login
import RemoteHost.Proofs.Ntlm.ReadChallenge

namespace RemoteHost.Ntlm

/-! ### Descriptors -/

/-- What a descriptor says of a field: its length, the room for it, and its place. -/
structure SecurityBuffer where
  length : Nat
  room : Nat
  start : Nat
  deriving DecidableEq, Repr

/-- Read the descriptor at a place of a message. -/
def securityBuffer? (m : Bytes) (place : Nat) : Option SecurityBuffer := do
  let length ← numberAt? m place 2
  let room ← numberAt? m (place + 2) 2
  let start ← numberAt? m (place + 4) 4
  pure ⟨length, room, start⟩

theorem securityBuffer?_length_lt {m : Bytes} {place : Nat} {b : SecurityBuffer}
    (h : securityBuffer? m place = some b) : b.length < 65536 := by
  obtain ⟨length, hlength, h⟩ := Option.bind_eq_some_iff.1 h
  obtain ⟨room, -, h⟩ := Option.bind_eq_some_iff.1 h
  obtain ⟨start, -, h⟩ := Option.bind_eq_some_iff.1 h
  obtain rfl := Option.some.inj h
  exact numberAt?_lt hlength

namespace Login

@[simp] theorem length_descriptor (length place : Nat) : (descriptor length place).length = 8 := by
  simp [descriptor]

/-- A descriptor reads back as it was written, when its numbers fit. -/
theorem securityBuffer?_descriptor {a : Bytes} {place : Nat} (ha : a.length = place) (c : Bytes)
    {length start : Nat} (hlength : length < 65536) (hstart : start < 4294967296) :
    securityBuffer? (a ++ (descriptor length start ++ c)) place =
      some ⟨length, length, start⟩ := by
  have htwo : (littleEndianBytes 2 length).length = 2 := length_littleEndianBytes 2 length
  have h₁ : numberAt? (a ++ (descriptor length start ++ c)) (place + 0) 2 = some length := by
    simp only [descriptor, List.append_assoc]
    rw [numberAt?_skip ha, numberAt?_front]
    exact congrArg some (Nat.mod_eq_of_lt hlength)
  have h₂ : numberAt? (a ++ (descriptor length start ++ c)) (place + (2 + 0)) 2 =
      some length := by
    simp only [descriptor, List.append_assoc]
    rw [numberAt?_skip ha, numberAt?_skip htwo, numberAt?_front]
    exact congrArg some (Nat.mod_eq_of_lt hlength)
  have h₃ : numberAt? (a ++ (descriptor length start ++ c)) (place + (2 + (2 + 0))) 4 =
      some start := by
    simp only [descriptor, List.append_assoc]
    rw [numberAt?_skip ha, numberAt?_skip htwo, numberAt?_skip htwo, numberAt?_front]
    exact congrArg some (Nat.mod_eq_of_lt hstart)
  simp only [Nat.add_zero, Nat.reduceAdd] at h₁ h₂ h₃
  rw [securityBuffer?, h₁, h₂, h₃]
  rfl

theorem length_descriptors (place : Nat) (fields : List Bytes) :
    (descriptors place fields).length = 8 * (fields.length + 1) := by
  induction fields generalizing place with
  | nil => exact length_descriptor 0 place
  | cons f fs ih =>
    rw [descriptors, List.length_append, length_descriptor, ih, List.length_cons]
    omega

/-- Where a field stands, as its descriptor counts. -/
def placeOf : Nat → List Bytes → Nat → Nat
  | place, f :: fs, i + 1 => placeOf (place + f.length % 65536) fs i
  | place, _, _ => place

theorem le_placeOf (place : Nat) (fields : List Bytes) (i : Nat) :
    place ≤ placeOf place fields i := by
  induction fields generalizing place i with
  | nil => exact Nat.le_of_eq (by rw [placeOf]; exact fun _ _ _ h => nomatch h)
  | cons f fs ih =>
    cases i with
    | zero => exact Nat.le_refl place
    | succ i => exact Nat.le_trans (Nat.le_add_right _ _) (ih _ i)

/-- Each place is counted on from the one before it. -/
theorem placeOf_succ (place : Nat) (fields : List Bytes) (i : Nat) (hi : i < fields.length) :
    placeOf place fields (i + 1) = placeOf place fields i + fields[i].length % 65536 := by
  induction fields generalizing place i with
  | nil => cases hi
  | cons f fs ih =>
    cases i with
    | zero =>
      show placeOf (place + f.length % 65536) fs 0 = _
      cases fs <;> rfl
    | succ i => exact ih _ i (Nat.lt_of_succ_lt_succ hi)

/-- Every descriptor of a row reads back. -/
theorem securityBuffer?_descriptors (a c : Bytes) (place : Nat) (fields : List Bytes) (i : Nat)
    (hi : i < fields.length) (hplace : place + fields.length * 65536 ≤ 4294967296) :
    securityBuffer? (a ++ (descriptors place fields ++ c)) (a.length + 8 * i) =
      some ⟨fields[i].length % 65536, fields[i].length % 65536, placeOf place fields i⟩ := by
  induction fields generalizing a place i with
  | nil => cases hi
  | cons f fs ih =>
    have hf : f.length % 65536 < 65536 := Nat.mod_lt _ (by omega)
    rw [List.length_cons] at hi hplace
    rw [descriptors, List.append_assoc]
    cases i with
    | zero => exact securityBuffer?_descriptor rfl _ hf (by omega)
    | succ i =>
      -- The first descriptor now belongs to what stands before the others.
      have h := ih (a ++ descriptor (f.length % 65536) place) (place + f.length % 65536) i
        (by omega) (by omega)
      rw [List.length_append, length_descriptor, List.append_assoc] at h
      have hshift : a.length + 8 * (i + 1) = a.length + 8 + 8 * i := by omega
      rw [hshift]
      exact h

/-- As long as all lengths fit, each field stands where its descriptor says. -/
theorem slice?_placeOf (a : Bytes) (fields : List Bytes) (i : Nat) (hi : i < fields.length)
    (hfit : ∀ f ∈ fields, f.length < 65536) :
    slice? (a ++ fields.flatten) (placeOf a.length fields i) fields[i].length =
      some fields[i] := by
  induction fields generalizing a i with
  | nil => cases hi
  | cons f fs ih =>
    have hf : f.length % 65536 = f.length := Nat.mod_eq_of_lt (hfit f List.mem_cons_self)
    rw [List.flatten_cons]
    cases i with
    | zero =>
      show slice? (a ++ (f ++ fs.flatten)) (a.length + 0) f.length = some f
      rw [slice?_skip rfl, slice?_front f _ rfl]
    | succ i =>
      have h := ih (a ++ f) i (Nat.lt_of_succ_lt_succ hi)
        fun g hg => hfit g (List.mem_cons_of_mem f hg)
      rw [List.length_append, List.append_assoc] at h
      show slice? (a ++ (f ++ fs.flatten)) (placeOf (a.length + f.length % 65536) fs i) _ = _
      rw [hf]
      exact h

/-! ### The third message -/

variable (l : Login) (c : Challenge) (nonce : Bytes) (time : Nat)

theorem length_head (fields : List Bytes) (h : fields.length = 5) :
    (head c fields).length = headLength := by
  simp only [head, List.length_append, length_front, length_descriptors, h, flagBytes,
    length_littleEndianBytes, List.length_replicate]
  rfl

/-- The descriptor of a field of the third message. -/
theorem securityBuffer?_answer (i : Nat) (hi : i < (l.fields c nonce time).length) :
    securityBuffer? (l.answer c nonce time) (12 + 8 * i) =
      some ⟨(l.fields c nonce time)[i].length % 65536, (l.fields c nonce time)[i].length % 65536,
        placeOf headLength (l.fields c nonce time) i⟩ := by
  have h := securityBuffer?_descriptors (front .authenticate)
    (flagBytes (answerFlags c) ++ (List.replicate 24 0 ++ (l.fields c nonce time).flatten))
    headLength (l.fields c nonce time) i hi (show 88 + 5 * 65536 ≤ 4294967296 by omega)
  rw [length_front] at h
  simp only [answer, head, List.append_assoc]
  exact h

/-! ### How long the fields are -/

theorem length_proof (bytes : Bytes) : (l.proof c bytes).length = 16 + bytes.length := by
  rw [proof, List.length_append, MessageDigest.length_hmacMd5]

variable {nonce} in
theorem length_blob (hnonce : nonce.length = 8) :
    (blob c nonce time).length = c.targetInfo.length + 32 := by
  simp only [blob, List.length_append, List.length_cons, List.length_nil, List.length_replicate,
    length_littleEndianBytes, hnonce]
  omega

variable {nonce} in
/-- What decides whether the fields fit: the target info of the server, which is sent back among
48 more bytes, and the three names. -/
theorem fields_fit_iff (hnonce : nonce.length = 8) :
    (∀ f ∈ l.fields c nonce time, f.length < 65536) ↔
      c.targetInfo.length + 48 < 65536 ∧ (Utf16.encode l.domain).length < 65536 ∧
        (Utf16.encode l.user).length < 65536 ∧ (Utf16.encode l.workstation).length < 65536 := by
  have hlm : (l.proof c nonce).length = 24 := by rw [length_proof, hnonce]
  have hnt : (l.proof c (blob c nonce time)).length = c.targetInfo.length + 48 := by
    rw [length_proof, length_blob c time hnonce]
    omega
  simp only [fields, List.forall_mem_cons, hlm, hnt]
  constructor
  · rintro ⟨-, hinfo, hdomain, huser, hworkstation, -⟩
    exact ⟨hinfo, hdomain, huser, hworkstation⟩
  · rintro ⟨hinfo, hdomain, huser, hworkstation⟩
    exact ⟨by omega, hinfo, hdomain, huser, hworkstation, by simp⟩

/-! ### Whether the descriptors are right -/

/-- The descriptors of a message are right about its fields: each has the length of its field
twice, and a place behind the head and inside the message; at that place stands the field, and
the next one just behind it. -/
def Describes (m : Bytes) (fields : List Bytes) : Prop :=
  ∀ i (hi : i < fields.length), ∃ b, securityBuffer? m (12 + 8 * i) = some b ∧
    b.room = b.length ∧ headLength ≤ b.start ∧ b.start + b.length ≤ m.length ∧
    slice? m b.start b.length = some fields[i] ∧
    ∀ b', i + 1 < fields.length → securityBuffer? m (12 + 8 * (i + 1)) = some b' →
      b'.start = b.start + b.length

/-- A field that is described is no longer than 16 bits can say. -/
theorem Describes.fit {m : Bytes} {fields : List Bytes} (h : Describes m fields) :
    ∀ f ∈ fields, f.length < 65536 := by
  intro f hf
  obtain ⟨i, hi, rfl⟩ := List.getElem_of_mem hf
  obtain ⟨b, hb, -, -, -, hslice, -⟩ := h i hi
  rw [length_of_slice? hslice]
  exact securityBuffer?_length_lt hb

/-- Fields that fit are described. -/
theorem describes_of_fit (hfit : ∀ f ∈ l.fields c nonce time, f.length < 65536) :
    Describes (l.answer c nonce time) (l.fields c nonce time) := by
  intro i hi
  have hlen : (l.fields c nonce time)[i].length % 65536 = (l.fields c nonce time)[i].length :=
    Nat.mod_eq_of_lt (hfit _ (List.getElem_mem hi))
  have hslice := slice?_placeOf (head c (l.fields c nonce time)) (l.fields c nonce time) i hi hfit
  rw [length_head c _ rfl] at hslice
  have hb := l.securityBuffer?_answer c nonce time i hi
  rw [hlen] at hb
  refine ⟨_, hb, rfl, le_placeOf _ _ i, (slice?_eq_some hslice).1, hslice, ?_⟩
  intro b' hi' hb'
  rw [l.securityBuffer?_answer c nonce time (i + 1) hi'] at hb'
  obtain rfl := Option.some.inj hb'
  show placeOf headLength (l.fields c nonce time) (i + 1) = _
  rw [placeOf_succ _ _ i hi, hlen]

/-- **The third message is right about its fields exactly when they fit.**  Each of the two
proofs and the three names is described by its descriptor, whatever the login, the challenge,
the nonce and the time, if and only if none of them has 65536 bytes or more. -/
theorem described_iff_fields_fit :
    Describes (l.answer c nonce time) (l.fields c nonce time) ↔
      ∀ f ∈ l.fields c nonce time, f.length < 65536 := by
  constructor
  · intro h
    exact h.fit
  · intro hfit
    exact l.describes_of_fit c nonce time hfit

/-- A challenge with so much target info that it does not fit into the answer. -/
def wideChallenge : Challenge := ⟨Flag.client, List.replicate 8 1, List.replicate 65488 0⟩

/-- Target info of 65488 bytes makes a proof of 65536 bytes.  The challenge is accepted, and its
answer says that the proof has no bytes and that the domain stands where the proof begins. -/
theorem wide_target_info_is_misdescribed :
    let l : Login := ⟨"LAB", "admin", "pw", "WS"⟩
    let nonce := List.replicate 8 2
    Challenge.read wideChallenge.message = .ok wideChallenge ∧
      (l.proof wideChallenge (blob wideChallenge nonce 0)).length = 65536 ∧
      securityBuffer? (l.answer wideChallenge nonce 0) 20 = some ⟨0, 0, 112⟩ ∧
      ((securityBuffer? (l.answer wideChallenge nonce 0) 28).map (·.start)) = some 112 ∧
      ¬ Describes (l.answer wideChallenge nonce 0) (l.fields wideChallenge nonce 0) := by
  intro l nonce
  have hinfo : wideChallenge.targetInfo.length = 65488 := List.length_replicate
  have hnonce : nonce.length = 8 := List.length_replicate
  have hlm : (l.proof wideChallenge nonce).length = 24 := by rw [length_proof, hnonce]
  have hnt : (l.proof wideChallenge (blob wideChallenge nonce 0)).length = 65536 := by
    rw [length_proof, length_blob wideChallenge 0 hnonce, hinfo]
  have hread : Challenge.read wideChallenge.message = .ok wideChallenge :=
    Challenge.read_message wideChallenge List.length_replicate (by rw [hinfo]; omega)
  refine ⟨hread, hnt, ?_, ?_, ?_⟩
  · have h := l.securityBuffer?_answer wideChallenge nonce 0 1 (by show 1 < 5; omega)
    simp only [fields, List.getElem_cons_succ, List.getElem_cons_zero, placeOf, hlm, hnt] at h
    exact h
  · have h := l.securityBuffer?_answer wideChallenge nonce 0 2 (by show 2 < 5; omega)
    simp only [fields, List.getElem_cons_succ, List.getElem_cons_zero, placeOf, hlm, hnt] at h
    rw [h]
    rfl
  · intro h
    have hfit := (l.fields_fit_iff wideChallenge 0 hnonce).1 h.fit
    omega

end Login

end RemoteHost.Ntlm
