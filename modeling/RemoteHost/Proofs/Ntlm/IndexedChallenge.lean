/-
RemoteHost/Proofs/Ntlm/IndexedChallenge.lean

Reading a challenge by indices, and which messages are accepted.

`read` asks for pieces of a message, and a piece that is missing is a fault of the message.
`readByIndex` compares the length of the message with 32 and with 48 and then goes to fixed places
without asking; a place outside of the message would end it without any answer.  The two agree on
all bytes (`readByIndex_eq`): no index lies outside.

Read by its pieces, a message is accepted exactly if it opens as a challenge and has what it says
about its target info inside of it (`read_of_placed`, `read_of_not_placed`).
-/
import RemoteHost.Proofs.Ntlm.ReadChallenge

namespace RemoteHost.Ntlm

variable {m : Bytes}

/-! ### Places of a message -/

/-- The bytes from one place up to another; none where they are not all in the message. -/
def span? (m : Bytes) (start stop : Nat) : Option Bytes :=
  if start ≤ stop ∧ stop ≤ m.length then some ((m.take stop).drop start) else none

/-- The number of two bytes, each of them at its index. -/
def halfWordAt? (m : Bytes) (i : Nat) : Option Nat := do
  let b₀ ← m[i]?
  let b₁ ← m[i + 1]?
  pure (ofLittleEndian [b₀, b₁])

/-- The number of four bytes, each of them at its index. -/
def wordAt? (m : Bytes) (i : Nat) : Option Nat := do
  let b₀ ← m[i]?
  let b₁ ← m[i + 1]?
  let b₂ ← m[i + 2]?
  let b₃ ← m[i + 3]?
  pure (ofLittleEndian [b₀, b₁, b₂, b₃])

/-- The sum of two places; none where a word of 64 bits cannot hold it. -/
def placeSum? (a b : Nat) : Option Nat := if a + b < UInt64.size then some (a + b) else none

theorem span?_eq_slice? (m : Bytes) (start length : Nat) :
    span? m start (start + length) = slice? m start length := by
  simp only [span?, slice?, Nat.le_add_right, true_and, List.drop_take, Nat.add_sub_cancel_left]

theorem slice?_of_le {start length : Nat} (h : start + length ≤ m.length) :
    slice? m start length = some ((m.drop start).take length) := if_pos h

theorem slice?_eq_none {start length : Nat} (h : m.length < start + length) :
    slice? m start length = none := if_neg (Nat.not_le.2 h)

theorem numberAt?_of_le {start width : Nat} (h : start + width ≤ m.length) :
    numberAt? m start width = some (ofLittleEndian ((m.drop start).take width)) := by
  rw [numberAt?, slice?_of_le h, Option.map_some]

theorem halfWordAt?_of_le {i : Nat} (h : i + 2 ≤ m.length) :
    halfWordAt? m i = numberAt? m i 2 := by
  rw [numberAt?_of_le h]
  rw [List.drop_eq_getElem_cons (by omega), List.drop_eq_getElem_cons (by omega)]
  simp only [halfWordAt?, List.getElem?_eq_getElem (show i < m.length by omega),
    List.getElem?_eq_getElem (show i + 1 < m.length by omega)]
  rfl

theorem wordAt?_of_le {i : Nat} (h : i + 4 ≤ m.length) : wordAt? m i = numberAt? m i 4 := by
  rw [numberAt?_of_le h]
  rw [List.drop_eq_getElem_cons (by omega), List.drop_eq_getElem_cons (by omega),
    List.drop_eq_getElem_cons (by omega), List.drop_eq_getElem_cons (by omega)]
  simp only [wordAt?, List.getElem?_eq_getElem (show i < m.length by omega),
    List.getElem?_eq_getElem (show i + 1 < m.length by omega),
    List.getElem?_eq_getElem (show i + 2 < m.length by omega),
    List.getElem?_eq_getElem (show i + 3 < m.length by omega)]
  rfl

namespace Challenge

/-! ### Reading by indices -/

/-- The target info of a message that is long enough to describe it. -/
def targetInfoByIndex (m : Bytes) : Option (Except Fault Bytes) := do
  let length ← halfWordAt? m 40
  let start ← wordAt? m 44
  let stop ← placeSum? start length
  -- That the place is inside is asked here, as the message alone says where it is.
  match span? m start stop with
  | some info => pure (.ok info)
  | none => pure (.error .targetInfoOutOfBounds)

/-- Read a challenge by indices; none once an index lies outside of the message. -/
def readByIndex (m : Bytes) : Option (Except Fault Challenge) := do
  if m.length < 32 then pure (.error .malformed)
  else
    let opening ← span? m 0 8
    if opening ≠ signature then pure (.error .malformed)
    else
      let kind ← wordAt? m 8
      if kind ≠ MessageType.challenge.number then pure (.error .malformed)
      else
        let flags ← wordAt? m 20
        let nonce ← span? m 24 32
        if 48 ≤ m.length then
          let info ← targetInfoByIndex m
          pure (info.map fun info => ⟨UInt32.ofNat flags, nonce, info⟩)
        else pure (.ok ⟨UInt32.ofNat flags, nonce, []⟩)

/-! ### What is accepted -/

/-- The length of the target info that a message gives. -/
def infoLength (m : Bytes) : Nat := ofLittleEndian ((m.drop 40).take 2)

/-- The place of the target info that a message gives. -/
def infoStart (m : Bytes) : Nat := ofLittleEndian ((m.drop 44).take 4)

/-- The message opens as a challenge and has its flags and its nonce. -/
structure Opens (m : Bytes) : Prop where
  long : 32 ≤ m.length
  signed : m.take 8 = signature
  typed : ofLittleEndian ((m.drop 8).take 4) = MessageType.challenge.number

/-- The place of the target info, if the message is long enough to give one, lies inside of it. -/
def Placed (m : Bytes) : Prop := 48 ≤ m.length → infoStart m + infoLength m ≤ m.length

/-- The challenge that a message carries, with some target info. -/
def withInfo (m info : Bytes) : Challenge where
  flags := UInt32.ofNat (ofLittleEndian ((m.drop 20).take 4))
  nonce := (m.drop 24).take 8
  targetInfo := info

/-- The target info of a message: what stands in the place that it gives, or none. -/
def infoOf (m : Bytes) : Bytes :=
  if 48 ≤ m.length then (m.drop (infoStart m)).take (infoLength m) else []

theorem slice?_front_iff (h : 12 ≤ m.length) :
    slice? m 0 12 = some (front .challenge) ↔
      m.take 8 = signature ∧
        ofLittleEndian ((m.drop 8).take 4) = MessageType.challenge.number := by
  have hlength : ((m.drop 8).take 4).length = 4 := by
    rw [List.length_take, List.length_drop]
    omega
  have hword : ofLittleEndian (littleEndianBytes 4 2) = 2 :=
    ofLittleEndian_littleEndianBytes 4 2
  have hsplit : m.take 12 = m.take 8 ++ (m.drop 8).take 4 := List.take_add (i := 8) (j := 4)
  rw [slice?_of_le (by omega), List.drop_zero, Option.some.injEq, hsplit, front]
  constructor
  · intro heq
    obtain ⟨hsigned, htyped⟩ := List.append_inj' heq hlength
    rw [htyped]
    exact ⟨hsigned, hword⟩
  · rintro ⟨hsigned, htyped⟩
    -- Four bytes are those of the number that they stand for.
    have hbytes := littleEndianBytes_ofLittleEndian ((m.drop 8).take 4)
    rw [hlength, htyped] at hbytes
    rw [hsigned, ← hbytes]

theorem fixedParts?_of_opens (h : Opens m) :
    fixedParts? m = some (ofLittleEndian ((m.drop 20).take 4), (m.drop 24).take 8) := by
  have hlong := h.long
  rw [fixedParts?_of_front ((slice?_front_iff (by omega)).2 ⟨h.signed, h.typed⟩),
    numberAt?_of_le (by omega), slice?_of_le (by omega), Option.bind_some, Option.bind_some]

theorem fixedParts?_of_not_opens (h : ¬ Opens m) : fixedParts? m = none := by
  rw [Option.eq_none_iff_forall_ne_some]
  rintro ⟨flags, nonce⟩ hparts
  obtain ⟨hfront, -, hnonce⟩ := fixedParts?_eq_some hparts
  have hlong : 24 + 8 ≤ m.length := (slice?_eq_some hnonce).1
  obtain ⟨hsigned, htyped⟩ := (slice?_front_iff (by omega)).1 hfront
  exact h ⟨hlong, hsigned, htyped⟩

theorem read_of_not_opens (h : ¬ Opens m) : read m = .error .malformed := by
  rw [read, fixedParts?_of_not_opens h]

theorem targetInfoPlace?_of_short (h : m.length < 48) : targetInfoPlace? m = none := by
  have hguard : (guard (48 ≤ m.length) : Option Unit) = none := if_neg (Nat.not_le.2 h)
  rw [targetInfoPlace?, hguard]
  rfl

theorem read_of_short (h : Opens m) (hshort : m.length < 48) : read m = .ok (withInfo m []) := by
  simp only [read, fixedParts?_of_opens h, targetInfoPlace?_of_short hshort]
  rfl

theorem read_of_long (h : Opens m) (hlong : 48 ≤ m.length) : read m =
    match slice? m (infoStart m) (infoLength m) with
    | none => .error .targetInfoOutOfBounds
    | some info => .ok (withInfo m info) := by
  have hplace : targetInfoPlace? m = some (infoLength m, infoStart m) := by
    rw [targetInfoPlace?_of_le hlong, numberAt?_of_le (by omega), numberAt?_of_le (by omega)]
    rfl
  simp only [read, fixedParts?_of_opens h, hplace]
  rfl

/-! ### The two ways to read -/

theorem readByIndex_of_not_opens (h : ¬ Opens m) : readByIndex m = some (.error .malformed) := by
  unfold readByIndex
  by_cases hlong : m.length < 32
  · rw [if_pos hlong]
    rfl
  have hopening : span? m 0 8 = some (m.take 8) := if_pos ⟨by omega, by omega⟩
  have hkind : wordAt? m 8 = some (ofLittleEndian ((m.drop 8).take 4)) := by
    rw [wordAt?_of_le (by omega), numberAt?_of_le (by omega)]
  rw [if_neg hlong, hopening, hkind]
  by_cases hsigned : m.take 8 = signature
  · have htyped : ofLittleEndian ((m.drop 8).take 4) ≠ MessageType.challenge.number := by
      intro htyped
      exact h ⟨by omega, hsigned, htyped⟩
    simp only [Option.bind_eq_bind, Option.bind_some, if_neg (not_not_intro hsigned), if_pos htyped]
    rfl
  · simp only [Option.bind_eq_bind, Option.bind_some]
    rw [if_pos hsigned]
    rfl

theorem readByIndex_of_opens (h : Opens m) : readByIndex m =
    if 48 ≤ m.length then (targetInfoByIndex m).map fun info => info.map (withInfo m)
    else some (.ok (withInfo m [])) := by
  have hlong := h.long
  have hopening : span? m 0 8 = some signature := by
    rw [← h.signed]
    exact if_pos ⟨by omega, by omega⟩
  have hkind : wordAt? m 8 = some MessageType.challenge.number := by
    rw [wordAt?_of_le (by omega), numberAt?_of_le (by omega), h.typed]
  have hflags : wordAt? m 20 = some (ofLittleEndian ((m.drop 20).take 4)) := by
    rw [wordAt?_of_le (by omega), numberAt?_of_le (by omega)]
  have hnonce : span? m 24 32 = some ((m.drop 24).take 8) := by
    rw [span?_eq_slice? m 24 8, slice?_of_le (by omega)]
  unfold readByIndex
  rw [if_neg (by omega), hopening, hkind, hflags, hnonce]
  simp only [Option.bind_eq_bind, Option.bind_some, ne_eq, not_true_eq_false, if_false]
  split
  · cases targetInfoByIndex m <;> rfl
  · rfl

/-- The descriptor of a message that has one is read, and a word of 64 bits can hold the place where
the target info ends. -/
theorem targetInfoByIndex_of_long (hlong : 48 ≤ m.length) : targetInfoByIndex m =
    some (match slice? m (infoStart m) (infoLength m) with
      | none => .error .targetInfoOutOfBounds
      | some info => .ok info) := by
  have hlength : numberAt? m 40 2 = some (infoLength m) := numberAt?_of_le (by omega)
  have hstart : numberAt? m 44 4 = some (infoStart m) := numberAt?_of_le (by omega)
  have hsum : placeSum? (infoStart m) (infoLength m) = some (infoStart m + infoLength m) := by
    have hlengthLt : infoLength m < 65536 := numberAt?_lt hlength
    have hstartLt : infoStart m < 4294967296 := numberAt?_lt hstart
    refine if_pos ?_
    show _ < 18446744073709551616
    omega
  rw [targetInfoByIndex, halfWordAt?_of_le (by omega), wordAt?_of_le (by omega), hlength, hstart]
  simp only [Option.bind_eq_bind, Option.bind_some, hsum, span?_eq_slice?]
  cases slice? m (infoStart m) (infoLength m) <;> rfl

/-- Reading by indices gives the same as asking for pieces, so no index lies outside. -/
theorem readByIndex_eq (m : Bytes) : readByIndex m = some (read m) := by
  by_cases h : Opens m
  · by_cases hlong : 48 ≤ m.length
    · rw [readByIndex_of_opens h, if_pos hlong, targetInfoByIndex_of_long hlong,
        read_of_long h hlong]
      cases slice? m (infoStart m) (infoLength m) <;> rfl
    · rw [readByIndex_of_opens h, if_neg hlong, read_of_short h (Nat.lt_of_not_le hlong)]
  · rw [readByIndex_of_not_opens h, read_of_not_opens h]

/-! ### What is accepted -/

theorem read_of_placed (h : Opens m) (hplaced : Placed m) :
    read m = .ok (withInfo m (infoOf m)) := by
  by_cases hlong : 48 ≤ m.length
  · rw [read_of_long h hlong, slice?_of_le (hplaced hlong), infoOf, if_pos hlong]
  · rw [read_of_short h (Nat.lt_of_not_le hlong), infoOf, if_neg hlong]

theorem read_of_not_placed (h : Opens m) (hplaced : ¬ Placed m) :
    read m = .error .targetInfoOutOfBounds := by
  obtain ⟨hlong, houtside⟩ := Classical.not_imp.1 hplaced
  rw [read_of_long h hlong, slice?_eq_none (Nat.lt_of_not_le houtside)]

/-- **A challenge is read inside of the message.**  Whatever the bytes are, reading them by indices
ends with an answer, the same as `read` has, so no index lies outside.

A message is accepted exactly if it has at least 32 bytes, begins with the signature, has the type
of a challenge and, if it has at least 48 bytes, has the place of its target info inside of it.  The
challenge then consists of the bytes that stand there, with no target info below 48 bytes. -/
theorem read_inside (m : Bytes) :
    readByIndex m = some (read m) ∧
    ((∃ c, read m = .ok c) ↔ Opens m ∧ Placed m) ∧
    ∀ c, read m = .ok c →
      c.flags.toNat = ofLittleEndian ((m.drop 20).take 4) ∧
      c.nonce = (m.drop 24).take 8 ∧
      (48 ≤ m.length → c.targetInfo = (m.drop (infoStart m)).take (infoLength m)) ∧
      (m.length < 48 → c.targetInfo = []) := by
  have hread : ∀ c, read m = .ok c → Opens m ∧ Placed m ∧ c = withInfo m (infoOf m) := by
    intro c hc
    by_cases h : Opens m
    · by_cases hplaced : Placed m
      · rw [read_of_placed h hplaced] at hc
        exact ⟨h, hplaced, (Except.ok.inj hc).symm⟩
      · rw [read_of_not_placed h hplaced] at hc
        cases hc
    · rw [read_of_not_opens h] at hc
      cases hc
  refine ⟨readByIndex_eq m, ⟨?_, ?_⟩, ?_⟩
  · rintro ⟨c, hc⟩
    obtain ⟨h, hplaced, -⟩ := hread c hc
    exact ⟨h, hplaced⟩
  · rintro ⟨h, hplaced⟩
    exact ⟨_, read_of_placed h hplaced⟩
  · intro c hc
    obtain ⟨h, -, rfl⟩ := hread c hc
    have hflags : numberAt? m 20 4 = some (ofLittleEndian ((m.drop 20).take 4)) := by
      have hlong := h.long
      exact numberAt?_of_le (by omega)
    refine ⟨?_, rfl, fun hlong => if_pos hlong, fun hshort => if_neg (Nat.not_le.2 hshort)⟩
    exact UInt32.toNat_ofNat_of_lt' (numberAt?_lt hflags)

end Challenge

end RemoteHost.Ntlm
