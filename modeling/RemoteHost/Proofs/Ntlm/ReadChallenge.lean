/-
RemoteHost/Proofs/Ntlm/ReadChallenge.lean

Numbers and pieces at places of a message, and what a challenge that is read holds.

A piece that stands behind known parts of a message is cut out of it as it is (`slice?_skip`,
`slice?_front`), and a number is read (`numberAt?_front`).  A challenge that is accepted has its
nonce and its target info where the message says so (`read_eq_ok`), and a message that is made
of them is accepted and read back (`read_message`).
-/
import RemoteHost.Ntlm.Challenge
import RemoteHost.Proofs.Crypto.Bytes

namespace RemoteHost.Ntlm

/-! ### Pieces of a message -/

theorem slice?_eq_some {m b : Bytes} {start length : Nat} (h : slice? m start length = some b) :
    start + length ≤ m.length ∧ b = (m.drop start).take length := by
  rw [slice?] at h
  split at h
  · next hle => exact ⟨hle, (Option.some.inj h).symm⟩
  · cases h

theorem length_of_slice? {m b : Bytes} {start length : Nat} (h : slice? m start length = some b) :
    b.length = length := by
  obtain ⟨hle, rfl⟩ := slice?_eq_some h
  rw [List.length_take, List.length_drop]
  omega

/-- What a message begins with is cut out of it. -/
theorem slice?_front (b c : Bytes) {length : Nat} (hb : b.length = length) :
    slice? (b ++ c) 0 length = some b := by
  have hle : 0 + length ≤ (b ++ c).length := by
    rw [List.length_append]
    omega
  rw [slice?, if_pos hle, List.drop_zero, ← hb, List.take_left]

/-- Behind a first part the places are counted on from its end. -/
theorem slice?_skip {a : Bytes} {place : Nat} (ha : a.length = place) (m : Bytes)
    (start length : Nat) : slice? (a ++ m) (place + start) length = slice? m start length := by
  have hdrop : (a ++ m).drop (place + start) = m.drop start := by
    rw [← List.drop_drop, ← ha, List.drop_left]
  have hle : place + start + length ≤ (a ++ m).length ↔ start + length ≤ m.length := by
    rw [List.length_append]
    omega
  simp only [slice?, hdrop, hle]

theorem numberAt?_front (width n : Nat) (c : Bytes) :
    numberAt? (littleEndianBytes width n ++ c) 0 width = some (n % Nat.pow 256 width) := by
  rw [numberAt?, slice?_front _ c (length_littleEndianBytes width n), Option.map_some,
    ofLittleEndian_littleEndianBytes]

theorem numberAt?_skip {a : Bytes} {place : Nat} (ha : a.length = place) (m : Bytes)
    (start width : Nat) :
    numberAt? (a ++ m) (place + start) width = numberAt? m start width := by
  rw [numberAt?, slice?_skip ha, numberAt?]

theorem numberAt?_lt {m : Bytes} {start width n : Nat} (h : numberAt? m start width = some n) :
    n < Nat.pow 256 width := by
  obtain ⟨b, hb, rfl⟩ := Option.map_eq_some_iff.1 h
  rw [← length_of_slice? hb]
  exact ofLittleEndian_lt b

namespace Challenge

/-! ### What is read -/

/-- The bytes are the target info of a message: those that its descriptor denotes, or none in
a message that is too short to have a descriptor. -/
def HasTargetInfo (m info : Bytes) : Prop :=
  (48 ≤ m.length → ∃ length start, numberAt? m 40 2 = some length ∧
    numberAt? m 44 4 = some start ∧ slice? m start length = some info) ∧
  (m.length < 48 → info = [])

theorem of_guard {p : Prop} [Decidable p] {u : Unit} (h : (guard p : Option Unit) = some u) :
    p := by
  by_cases hp : p
  · exact hp
  · rw [show (guard p : Option Unit) = none from if_neg hp] at h
    cases h

theorem guard_of {p : Prop} [Decidable p] (h : p) : (guard p : Option Unit) = some () := if_pos h

theorem fixedParts?_eq_some {m nonce : Bytes} {flags : Nat}
    (h : fixedParts? m = some (flags, nonce)) :
    slice? m 0 12 = some (front .challenge) ∧ numberAt? m 20 4 = some flags ∧
      slice? m 24 8 = some nonce := by
  obtain ⟨opening, hopening, h⟩ := Option.bind_eq_some_iff.1 h
  obtain ⟨u, hguard, h⟩ := Option.bind_eq_some_iff.1 h
  obtain ⟨flags', hflags, h⟩ := Option.bind_eq_some_iff.1 h
  obtain ⟨nonce', hnonce, h⟩ := Option.bind_eq_some_iff.1 h
  obtain ⟨rfl, rfl⟩ := Prod.mk.inj (Option.some.inj h)
  have hfront : opening = front .challenge := of_guard hguard
  exact ⟨hfront ▸ hopening, hflags, hnonce⟩

/-- A message that begins as a challenge is read for its flags and its nonce. -/
theorem fixedParts?_of_front {m : Bytes} (h : slice? m 0 12 = some (front .challenge)) :
    fixedParts? m = (numberAt? m 20 4).bind fun flags =>
      (slice? m 24 8).bind fun nonce => some (flags, nonce) := by
  rw [fixedParts?, h, Option.bind_eq_bind, Option.bind_some, guard_of rfl]
  rfl

/-- A message that is long enough is read for its descriptor. -/
theorem targetInfoPlace?_of_le {m : Bytes} (h : 48 ≤ m.length) :
    targetInfoPlace? m = (numberAt? m 40 2).bind fun length =>
      (numberAt? m 44 4).bind fun start => some (length, start) := by
  rw [targetInfoPlace?, guard_of h]
  rfl

theorem targetInfoPlace?_eq_none {m : Bytes} (h : targetInfoPlace? m = none) : m.length < 48 := by
  apply Nat.lt_of_not_le
  intro hle
  have hlength : ∃ b, slice? m 40 2 = some b := ⟨_, if_pos (by omega)⟩
  have hstart : ∃ b, slice? m 44 4 = some b := ⟨_, if_pos (by omega)⟩
  obtain ⟨b, hb⟩ := hlength
  obtain ⟨b', hb'⟩ := hstart
  rw [targetInfoPlace?_of_le hle, numberAt?, numberAt?, hb, hb'] at h
  cases h

theorem targetInfoPlace?_eq_some {m : Bytes} {length start : Nat}
    (h : targetInfoPlace? m = some (length, start)) :
    48 ≤ m.length ∧ numberAt? m 40 2 = some length ∧ numberAt? m 44 4 = some start := by
  obtain ⟨u, hguard, h⟩ := Option.bind_eq_some_iff.1 h
  obtain ⟨length', hlength, h⟩ := Option.bind_eq_some_iff.1 h
  obtain ⟨start', hstart, h⟩ := Option.bind_eq_some_iff.1 h
  obtain ⟨rfl, rfl⟩ := Prod.mk.inj (Option.some.inj h)
  exact ⟨of_guard hguard, hlength, hstart⟩

/-- A challenge that is accepted has its parts from where the message has them. -/
theorem read_eq_ok {m : Bytes} {c : Challenge} (h : read m = .ok c) :
    slice? m 0 12 = some (front .challenge) ∧
      (∃ flags, numberAt? m 20 4 = some flags ∧ c.flags = UInt32.ofNat flags) ∧
      slice? m 24 8 = some c.nonce ∧ HasTargetInfo m c.targetInfo := by
  unfold read at h
  split at h
  · cases h
  · next flags nonce hfixed =>
    obtain ⟨hfront, hflags, hnonce⟩ := fixedParts?_eq_some hfixed
    split at h
    · next hplace =>
      obtain rfl := Except.ok.inj h
      have hshort := targetInfoPlace?_eq_none hplace
      refine ⟨hfront, ⟨flags, hflags, rfl⟩, hnonce, ?_, fun _ => rfl⟩
      intro hle
      omega
    · next length start hplace =>
      obtain ⟨hle, hlength, hstart⟩ := targetInfoPlace?_eq_some hplace
      split at h
      · cases h
      · next info hinfo =>
        obtain rfl := Except.ok.inj h
        refine ⟨hfront, ⟨flags, hflags, rfl⟩, hnonce, fun _ => ?_, ?_⟩
        · exact ⟨length, start, hlength, hstart, hinfo⟩
        · intro hlt
          omega

/-! ### Messages that are accepted -/

/-- A challenge as a message, with its target info at the end.  It names no target. -/
def message (c : Challenge) : Bytes :=
  front .challenge ++ (List.replicate 8 0 ++ (flagBytes c.flags ++ (c.nonce ++
    (List.replicate 8 0 ++ (littleEndianBytes 2 c.targetInfo.length ++
      (littleEndianBytes 2 c.targetInfo.length ++ (littleEndianBytes 4 48 ++ c.targetInfo)))))))

/-- A challenge reads back from its message. -/
theorem read_message (c : Challenge) (hnonce : c.nonce.length = 8)
    (hinfo : c.targetInfo.length < 65536) : read c.message = .ok c := by
  have hzeros : (List.replicate 8 (0 : UInt8)).length = 8 := List.length_replicate
  have hflagBytes : (flagBytes c.flags).length = 4 := length_littleEndianBytes 4 _
  have hlength : (littleEndianBytes 2 c.targetInfo.length).length = 2 :=
    length_littleEndianBytes 2 _
  have hplace : (littleEndianBytes 4 48).length = 4 := length_littleEndianBytes 4 48
  have hfront := length_front .challenge
  -- Each place of the message is reached by going past the parts in front of it.
  have hopening : slice? c.message 0 12 = some (front .challenge) := slice?_front _ _ hfront
  have hflags : numberAt? c.message (12 + (8 + 0)) 4 = some c.flags.toNat := by
    rw [message, numberAt?_skip hfront, numberAt?_skip hzeros, flagBytes, numberAt?_front]
    exact congrArg some (Nat.mod_eq_of_lt c.flags.toNat_lt)
  have hslice : slice? c.message (12 + (8 + (4 + 0))) 8 = some c.nonce := by
    rw [message, slice?_skip hfront, slice?_skip hzeros, slice?_skip hflagBytes,
      slice?_front _ _ hnonce]
  have hinfoLength : numberAt? c.message (12 + (8 + (4 + (8 + (8 + 0))))) 2 =
      some c.targetInfo.length := by
    rw [message, numberAt?_skip hfront, numberAt?_skip hzeros, numberAt?_skip hflagBytes,
      numberAt?_skip hnonce, numberAt?_skip hzeros, numberAt?_front]
    exact congrArg some (Nat.mod_eq_of_lt hinfo)
  have hinfoPlace : numberAt? c.message (12 + (8 + (4 + (8 + (8 + (2 + (2 + 0))))))) 4 =
      some 48 := by
    rw [message, numberAt?_skip hfront, numberAt?_skip hzeros, numberAt?_skip hflagBytes,
      numberAt?_skip hnonce, numberAt?_skip hzeros, numberAt?_skip hlength,
      numberAt?_skip hlength, numberAt?_front]
  have hinfoSlice : slice? c.message (12 + (8 + (4 + (8 + (8 + (2 + (2 + (4 + 0))))))))
      c.targetInfo.length = some c.targetInfo := by
    have h := slice?_front c.targetInfo [] rfl
    rw [List.append_nil] at h
    rw [message, slice?_skip hfront, slice?_skip hzeros, slice?_skip hflagBytes,
      slice?_skip hnonce, slice?_skip hzeros, slice?_skip hlength, slice?_skip hlength,
      slice?_skip hplace, h]
  have hlong : 48 ≤ c.message.length := by
    have h := (slice?_eq_some hinfoSlice).1
    omega
  have hfixed : fixedParts? c.message = some (c.flags.toNat, c.nonce) := by
    have hflags' : numberAt? c.message 20 4 = some c.flags.toNat := hflags
    have hnonce' : slice? c.message 24 8 = some c.nonce := hslice
    rw [fixedParts?_of_front hopening, hflags', hnonce']
    rfl
  have htarget : targetInfoPlace? c.message = some (c.targetInfo.length, 48) := by
    have hlength : numberAt? c.message 40 2 = some c.targetInfo.length := hinfoLength
    have hstart : numberAt? c.message 44 4 = some 48 := hinfoPlace
    rw [targetInfoPlace?_of_le hlong, hlength, hstart]
    rfl
  simp only [read, hfixed, htarget, hinfoSlice, UInt32.ofNat_toNat]

end Challenge

end RemoteHost.Ntlm
