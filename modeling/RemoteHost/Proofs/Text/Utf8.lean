/-
RemoteHost/Proofs/Text/Utf8.lean

Reading UTF-8 back.

`first` reads back the character that was written (`first_utf8EncodeChar`), so reading gives
the text that was written, with or without replacement characters for what is spoilt
(`decodeFrom_encodeChars`, `decodeLossyFrom_encodeChars`).

A byte that begins a character is one that continues none.  Written text has as many of them
as it has characters, and reading writes at least one character for each
(`starts_lt_length_decodeLossy`).  So bytes that are cut inside a character are read as more
characters than were written: a cut does no harm just where it falls between two characters
(`flatMap_decodeLossy_eq_iff`).
-/
import RemoteHost.Text.Utf8

namespace RemoteHost.Utf8

/-! ### Reading one character -/

theorem toNat_ofNat_of_lt {n : Nat} (h : n < 256) : (UInt8.ofNat n).toNat = n := by
  simpa [UInt8.toNat_ofNat] using h

theorem isContinuation_iff {b : UInt8} : isContinuation b ↔ 0x80 ≤ b.toNat ∧ b.toNat ≤ 0xBF := by
  simp [isContinuation, UInt8.le_iff_toNat_le]

/-- The first byte of a character of one byte. -/
theorem first_one {b : UInt8} {r : Bytes} (h : b.toNat < 0x80) :
    first b r = (some (Char.ofNat b.toNat), 0) := by
  have hb : b < 0x80 := UInt8.lt_iff_toNat_lt.2 h
  simp [first, hb]

theorem first_two {b c : UInt8} {r : Bytes} (h₁ : 0xC2 ≤ b.toNat) (h₂ : b.toNat < 0xE0)
    (hc : isContinuation c) :
    first b (c :: r) = (some (Char.ofNat (b.toNat % 32 * 64 + low c)), 1) := by
  have hb₁ : ¬ b < 0x80 := by rw [UInt8.lt_iff_toNat_lt]; simp; omega
  have hb₂ : ¬ b < 0xC2 := by rw [UInt8.lt_iff_toNat_lt]; simp; omega
  have hb₃ : b < 0xE0 := by rw [UInt8.lt_iff_toNat_lt]; simpa using h₂
  simp [first, hb₁, hb₂, hb₃, hc]

theorem first_three {b c d : UInt8} {r : Bytes} (h₁ : 0xE0 ≤ b.toNat) (h₂ : b.toNat < 0xF0)
    (hc : (secondRange b).1 ≤ c ∧ c ≤ (secondRange b).2) (hd : isContinuation d) :
    first b (c :: d :: r) =
      (some (Char.ofNat ((b.toNat % 16 * 64 + low c) * 64 + low d)), 2) := by
  have hb₁ : ¬ b < 0x80 := by rw [UInt8.lt_iff_toNat_lt]; simp; omega
  have hb₂ : ¬ b < 0xC2 := by rw [UInt8.lt_iff_toNat_lt]; simp; omega
  have hb₃ : ¬ b < 0xE0 := by rw [UInt8.lt_iff_toNat_lt]; simp; omega
  have hb₄ : b < 0xF5 := by rw [UInt8.lt_iff_toNat_lt]; simp; omega
  have hb₅ : b < 0xF0 := by rw [UInt8.lt_iff_toNat_lt]; simpa using h₂
  simp [first, hb₁, hb₂, hb₃, hb₄, hb₅, hc.1, hc.2, hd]

theorem first_four {b c d e : UInt8} {r : Bytes} (h₁ : 0xF0 ≤ b.toNat) (h₂ : b.toNat < 0xF5)
    (hc : (secondRange b).1 ≤ c ∧ c ≤ (secondRange b).2) (hd : isContinuation d)
    (he : isContinuation e) :
    first b (c :: d :: e :: r) =
      (some (Char.ofNat (((b.toNat % 8 * 64 + low c) * 64 + low d) * 64 + low e)), 3) := by
  have hb₁ : ¬ b < 0x80 := by rw [UInt8.lt_iff_toNat_lt]; simp; omega
  have hb₂ : ¬ b < 0xC2 := by rw [UInt8.lt_iff_toNat_lt]; simp; omega
  have hb₃ : ¬ b < 0xE0 := by rw [UInt8.lt_iff_toNat_lt]; simp; omega
  have hb₄ : b < 0xF5 := by rw [UInt8.lt_iff_toNat_lt]; simpa using h₂
  have hb₅ : ¬ b < 0xF0 := by rw [UInt8.lt_iff_toNat_lt]; simp; omega
  simp [first, hb₁, hb₂, hb₃, hb₄, hb₅, hc.1, hc.2, hd, he]

/-- The second byte of a character lies in the range that its first byte leaves. -/
theorem mem_secondRange {b c : UInt8} (hc : isContinuation c)
    (hE0 : b.toNat = 0xE0 → 0xA0 ≤ c.toNat) (hED : b.toNat = 0xED → c.toNat ≤ 0x9F)
    (hF0 : b.toNat = 0xF0 → 0x90 ≤ c.toNat) (hF4 : b.toNat = 0xF4 → c.toNat ≤ 0x8F) :
    (secondRange b).1 ≤ c ∧ c ≤ (secondRange b).2 := by
  obtain ⟨h₁, h₂⟩ := isContinuation_iff.1 hc
  simp only [secondRange, UInt8.le_iff_toNat_le, ← UInt8.toNat_inj]
  split
  · next h => exact ⟨by simpa using hE0 (by simpa using h), by simpa using h₂⟩
  split
  · next h => exact ⟨by simpa using h₁, by simpa using hED (by simpa using h)⟩
  split
  · next h => exact ⟨by simpa using hF0 (by simpa using h), by simpa using h₂⟩
  split
  · next h => exact ⟨by simpa using h₁, by simpa using hF4 (by simpa using h)⟩
  · exact ⟨by simpa using h₁, by simpa using h₂⟩

/-- The first character of a text that begins with the bytes of one. -/
theorem first_utf8EncodeChar (c : Char) :
    ∃ b r, String.utf8EncodeChar c = b :: r ∧ ∀ rest, first b (r ++ rest) = (some c, r.length) := by
  have hv : c.toNat < 0xD800 ∨ (0xDFFF < c.toNat ∧ c.toNat < 0x110000) := c.valid
  have hc : Char.ofNat c.toNat = c := Char.ofNat_toNat c
  unfold String.utf8EncodeChar
  simp only [show c.val.toNat = c.toNat from rfl]
  generalize c.toNat = n at hv hc
  have tail : ∀ m, (UInt8.ofNat (m % 64 + 128)).toNat = m % 64 + 128 :=
    fun m => toNat_ofNat_of_lt (by omega)
  have cont : ∀ m, isContinuation (UInt8.ofNat (m % 64 + 128)) :=
    fun m => isContinuation_iff.2 (by rw [tail]; omega)
  -- The cases are the numbers of bytes that a character takes, from one to four.
  split
  · next h =>
    refine ⟨_, _, rfl, fun rest => ?_⟩
    have hb : (UInt8.ofNat n).toNat = n := toNat_ofNat_of_lt (by omega)
    rw [first_one (by omega), hb, hc]
    rfl
  split
  · next h₁ h₂ =>
    refine ⟨_, _, rfl, fun rest => ?_⟩
    have hb : (UInt8.ofNat (n / 64 % 32 + 192)).toNat = n / 64 % 32 + 192 :=
      toNat_ofNat_of_lt (by omega)
    simp only [List.cons_append, List.nil_append]
    rw [first_two (by omega) (by omega) (cont n), hb, low, tail,
      show (n / 64 % 32 + 192) % 32 * 64 + (n % 64 + 128) % 64 = n by omega, hc]
    rfl
  split
  · next h₁ h₂ h₃ =>
    refine ⟨_, _, rfl, fun rest => ?_⟩
    have hb : (UInt8.ofNat (n / 4096 % 16 + 224)).toNat = n / 4096 % 16 + 224 :=
      toNat_ofNat_of_lt (by omega)
    have hs := mem_secondRange (b := UInt8.ofNat (n / 4096 % 16 + 224)) (cont (n / 64))
      (by rw [hb, tail]; omega) (by rw [hb, tail]; omega) (by rw [hb]; omega) (by rw [hb]; omega)
    simp only [List.cons_append, List.nil_append]
    rw [first_three (by omega) (by omega) hs (cont n), hb, low, low, tail, tail,
      show ((n / 4096 % 16 + 224) % 16 * 64 + (n / 64 % 64 + 128) % 64) * 64 +
        (n % 64 + 128) % 64 = n by omega, hc]
    rfl
  · next h₁ h₂ h₃ =>
    refine ⟨_, _, rfl, fun rest => ?_⟩
    have hb : (UInt8.ofNat (n / 262144 % 8 + 240)).toNat = n / 262144 % 8 + 240 :=
      toNat_ofNat_of_lt (by omega)
    have hs := mem_secondRange (b := UInt8.ofNat (n / 262144 % 8 + 240)) (cont (n / 4096))
      (by rw [hb]; omega) (by rw [hb]; omega) (by rw [hb, tail]; omega) (by rw [hb, tail]; omega)
    simp only [List.cons_append, List.nil_append]
    rw [first_four (by omega) (by omega) hs (cont (n / 64)) (cont n), hb, low, low, low, tail,
      tail, tail,
      show (((n / 262144 % 8 + 240) % 8 * 64 + (n / 4096 % 64 + 128) % 64) * 64 +
        (n / 64 % 64 + 128) % 64) * 64 + (n % 64 + 128) % 64 = n by omega, hc]
    rfl

theorem isContinuation_of_secondRange {b c : UInt8}
    (h : (secondRange b).1 ≤ c ∧ c ≤ (secondRange b).2) : isContinuation c := by
  rw [isContinuation_iff]
  simp only [secondRange, UInt8.le_iff_toNat_le] at h
  repeat' split at h
  all_goals
    simp only [UInt8.reduceToNat] at h
    omega

/-- What goes along with the first byte continues it. -/
theorem isContinuation_of_mem_take {b x : UInt8} {r : Bytes} (h : x ∈ r.take (first b r).2) :
    isContinuation x := by
  unfold first at h
  repeat' split at h
  all_goals grind [isContinuation_of_secondRange]

/-! ### Reading texts -/

theorem encodeChars_cons (c : Char) (s : List Char) :
    encodeChars (c :: s) = String.utf8EncodeChar c ++ encodeChars s := rfl

@[simp] theorem encodeChars_append (s t : List Char) :
    encodeChars (s ++ t) = encodeChars s ++ encodeChars t := by
  simp [encodeChars]

/-- A text of characters below 128 has one byte for each. -/
theorem encodeChars_eq_map {s : List Char} (h : ∀ c ∈ s, c.toNat < 128) :
    encodeChars s = s.map fun c => UInt8.ofNat c.toNat := by
  induction s with
  | nil => rfl
  | cons c s ih =>
    have hc : c.val.toNat ≤ 0x7f := Nat.le_of_lt_succ (h c (by simp))
    rw [encodeChars_cons, ih fun d hd => h d (List.mem_cons_of_mem c hd), String.utf8EncodeChar,
      if_pos hc]
    rfl

theorem decodeFrom_eq_drop (k : Nat) (b : Bytes) : decodeFrom k b = decodeFrom 0 (b.drop k) := by
  induction b generalizing k with
  | nil => simp [decodeFrom]
  | cons x r ih =>
    cases k with
    | zero => rfl
    | succ k => exact ih k

theorem decodeLossyFrom_eq_drop (k : Nat) (b : Bytes) :
    decodeLossyFrom k b = decodeLossyFrom 0 (b.drop k) := by
  induction b generalizing k with
  | nil => simp [decodeLossyFrom]
  | cons x r ih =>
    cases k with
    | zero => rfl
    | succ k => exact ih k

theorem decodeLossyFrom_cons (b : UInt8) (r : Bytes) :
    decodeLossyFrom 0 (b :: r) =
      (first b r).1.getD '\uFFFD' :: decodeLossyFrom 0 (r.drop (first b r).2) := by
  rw [← decodeLossyFrom_eq_drop]
  rfl

/-- A text reads back as it was written. -/
theorem decodeFrom_encodeChars (s : List Char) : decodeFrom 0 (encodeChars s) = some s := by
  induction s with
  | nil => rfl
  | cons c s ih =>
    obtain ⟨b, r, hb, hf⟩ := first_utf8EncodeChar c
    rw [encodeChars_cons, hb, List.cons_append, decodeFrom, hf]
    simp only [decodeFrom_eq_drop r.length, List.drop_left, ih, Option.map_some]

/-- A text reads back as it was written, whatever follows it. -/
theorem decodeLossyFrom_encodeChars (s : List Char) (rest : Bytes) :
    decodeLossyFrom 0 (encodeChars s ++ rest) = s ++ decodeLossyFrom 0 rest := by
  induction s with
  | nil => rfl
  | cons c s ih =>
    obtain ⟨b, r, hb, hf⟩ := first_utf8EncodeChar c
    rw [encodeChars_cons, hb, List.append_assoc, List.cons_append, decodeLossyFrom_cons, hf,
      List.drop_left, ih]
    rfl

theorem decodeLossy_encode (s : String) : decodeLossy (encode s) = s := by
  have hchars := decodeLossyFrom_encodeChars s.toList []
  rw [List.append_nil] at hchars
  rw [decodeLossy, encode, hchars, decodeLossyFrom, List.append_nil, String.ofList_toList]

theorem decode?_encode (s : String) : decode? (encode s) = some s := by
  rw [decode?, encode, decodeFrom_encodeChars, Option.map_some, String.ofList_toList]

/-! ### Cuts -/

/-- How many characters begin in some bytes. -/
def starts (b : Bytes) : Nat := b.countP (!isContinuation ·)

theorem starts_append (a b : Bytes) : starts (a ++ b) = starts a + starts b := by
  simp [starts]

theorem starts_eq_zero {b : Bytes} (h : ∀ x ∈ b, isContinuation x) : starts b = 0 := by
  simpa [starts, List.countP_eq_zero] using h

/-- The bytes of a character: one that begins it, and others that continue it. -/
theorem utf8EncodeChar_eq_cons (c : Char) :
    ∃ b r, String.utf8EncodeChar c = b :: r ∧ ¬ isContinuation b ∧ ∀ x ∈ r, isContinuation x := by
  obtain ⟨b, r, hb, hf⟩ := first_utf8EncodeChar c
  have hr : ∀ x ∈ r, isContinuation x := by
    intro x hx
    refine isContinuation_of_mem_take (b := b) (r := r ++ []) ?_
    rw [hf, List.append_nil, List.take_length]
    exact hx
  refine ⟨b, r, hb, ?_, hr⟩
  intro hc
  -- A byte that continues a character is spoilt at the front of a text.
  have := hf []
  obtain ⟨h₁, h₂⟩ := isContinuation_iff.1 hc
  have hb₁ : ¬ b < 0x80 := by rw [UInt8.lt_iff_toNat_lt]; simpa using h₁
  have hb₂ : b < 0xC2 := by rw [UInt8.lt_iff_toNat_lt]; simp; omega
  simp [first, hb₁, hb₂] at this

/-- As many characters begin in a text as it has. -/
theorem starts_encodeChars (s : List Char) : starts (encodeChars s) = s.length := by
  induction s with
  | nil => rfl
  | cons c s ih =>
    obtain ⟨b, r, hb, hs, hr⟩ := utf8EncodeChar_eq_cons c
    rw [encodeChars_cons, starts_append, ih, hb, starts, List.countP_cons_of_pos (by simpa using hs)]
    have : starts r = 0 := starts_eq_zero hr
    simp only [starts] at this
    rw [this, List.length_cons]
    omega

/-- What is read along with the first byte begins no character. -/
theorem starts_drop_first (b : UInt8) (r : Bytes) :
    starts (r.drop (first b r).2) = starts r := by
  have ht : starts (r.take (first b r).2) = 0 :=
    starts_eq_zero fun x hx => isContinuation_of_mem_take hx
  have h := starts_append (r.take (first b r).2) (r.drop (first b r).2)
  rw [List.take_append_drop, ht, Nat.zero_add] at h
  exact h.symm

/-- Reading writes at least one character for each that begins. -/
theorem starts_le_length_decodeLossy (k : Nat) (b : Bytes) :
    starts (b.drop k) ≤ (decodeLossyFrom k b).length := by
  induction b generalizing k with
  | nil => simp [starts]
  | cons x r ih =>
    cases k with
    | succ k => exact ih k
    | zero =>
      have hr := ih (first x r).2
      rw [starts_drop_first, decodeLossyFrom_eq_drop] at hr
      have hx : starts (x :: r) ≤ starts r + 1 := by
        simp only [starts, List.countP_cons]
        split <;> omega
      rw [List.drop_zero, decodeLossyFrom_cons, List.length_cons]
      omega

/-- The first byte counts even if it begins no character. -/
theorem starts_lt_length_decodeLossy (b : UInt8) (r : Bytes) :
    starts r < (decodeLossyFrom 0 (b :: r)).length := by
  have h := starts_le_length_decodeLossy 0 (r.drop (first b r).2)
  rw [List.drop_zero, starts_drop_first] at h
  rw [decodeLossyFrom_cons, List.length_cons]
  omega

/-- The bytes do not begin in the middle of a character. -/
def BeginsCharacter (b : Bytes) : Prop := ∀ x r, b = x :: r → ¬ isContinuation x

/-- A text that is cut in front of a character is cut into two texts. -/
theorem exists_of_encodeChars_eq_append {s : List Char} {a b : Bytes}
    (h : encodeChars s = a ++ b) (hb : BeginsCharacter b) :
    ∃ s₁ s₂, s = s₁ ++ s₂ ∧ a = encodeChars s₁ ∧ b = encodeChars s₂ := by
  induction s generalizing a with
  | nil =>
    obtain ⟨rfl, rfl⟩ := List.append_eq_nil_iff.1 h.symm
    exact ⟨[], [], rfl, rfl, rfl⟩
  | cons c s ih =>
    rcases a with _ | ⟨x, a⟩
    · exact ⟨[], c :: s, rfl, rfl, h.symm⟩
    rw [encodeChars_cons] at h
    rcases List.append_eq_append_iff.1 h with ⟨a', ha, hs⟩ | ⟨b', hc, rfl⟩
    · obtain ⟨s₁, s₂, rfl, rfl, rfl⟩ := ih hs
      exact ⟨c :: s₁, s₂, rfl, by rw [ha, encodeChars_cons], rfl⟩
    · -- Where the cut falls inside the character, what is behind it continues the character.
      obtain ⟨y, r, hy, -, hr⟩ := utf8EncodeChar_eq_cons c
      rw [hy, List.cons_append, List.cons.injEq] at hc
      rcases b' with _ | ⟨z, b'⟩
      · rw [List.append_nil] at hc
        exact ⟨[c], s, rfl, by rw [← hc.1, ← hc.2, ← hy]; simp [encodeChars], rfl⟩
      · exact absurd (hr z (by rw [hc.2]; simp)) (hb z (b' ++ encodeChars s) rfl)

theorem encodeChars_injective {s t : List Char} (h : encodeChars s = encodeChars t) : s = t := by
  have := congrArg (decodeFrom 0) h
  rw [decodeFrom_encodeChars, decodeFrom_encodeChars] at this
  exact Option.some.inj this

/-- Pieces that are texts each are read as the text that they are together. -/
theorem encodeChars_flatMap_decodeLossy {pieces : List Bytes}
    (h : ∀ p ∈ pieces, ∃ t, p = encodeChars t) :
    encodeChars (pieces.flatMap (decodeLossyFrom 0)) = pieces.flatten := by
  induction pieces with
  | nil => rfl
  | cons p pieces ih =>
    obtain ⟨t, rfl⟩ := h p (by simp)
    have ht := decodeLossyFrom_encodeChars t []
    rw [List.append_nil] at ht
    rw [List.flatMap_cons, ht, encodeChars_append, ih fun p hp => h p (List.mem_cons_of_mem _ hp),
      List.flatten_cons]
    simp [decodeLossyFrom]

theorem beginsCharacter_flatten {pieces : List Bytes} (h : ∀ p ∈ pieces, BeginsCharacter p) :
    BeginsCharacter pieces.flatten := by
  induction pieces with
  | nil => simp [BeginsCharacter]
  | cons p pieces ih =>
    rcases p with _ | ⟨x, r⟩
    · exact ih fun p hp => h p (List.mem_cons_of_mem _ hp)
    · intro y r' hy
      rw [List.flatten_cons, List.cons_append, List.cons.injEq] at hy
      exact hy.1 ▸ h (x :: r) (by simp) x r rfl

/-- A text that is cut in front of characters only is cut into texts. -/
theorem exists_encodeChars_of_beginsCharacter {pieces : List Bytes} {s : List Char}
    (h : pieces.flatten = encodeChars s) (hb : ∀ p ∈ pieces, BeginsCharacter p) :
    ∀ p ∈ pieces, ∃ t, p = encodeChars t := by
  induction pieces generalizing s with
  | nil => simp
  | cons p pieces ih =>
    have hb' : ∀ p ∈ pieces, BeginsCharacter p := fun q hq => hb q (List.mem_cons_of_mem _ hq)
    rw [List.flatten_cons] at h
    obtain ⟨s₁, s₂, rfl, hp, hs⟩ :=
      exists_of_encodeChars_eq_append h.symm (beginsCharacter_flatten hb')
    intro q hq
    rcases List.mem_cons.1 hq with rfl | hq
    · exact ⟨s₁, hp⟩
    · exact ih hs hb' q hq

theorem starts_flatten_le (pieces : List Bytes) :
    starts pieces.flatten ≤ (pieces.flatMap (decodeLossyFrom 0)).length := by
  induction pieces with
  | nil => simp [starts]
  | cons p pieces ih =>
    have hp := starts_le_length_decodeLossy 0 p
    rw [List.drop_zero] at hp
    rw [List.flatten_cons, starts_append, List.flatMap_cons, List.length_append]
    omega

/-- Pieces are read as more characters than begin in them, unless each begins with the
beginning of one. -/
theorem beginsCharacter_of_length_le {pieces : List Bytes}
    (h : (pieces.flatMap (decodeLossyFrom 0)).length ≤ starts pieces.flatten) :
    ∀ p ∈ pieces, BeginsCharacter p := by
  induction pieces with
  | nil => simp
  | cons p pieces ih =>
    have hrest := starts_flatten_le pieces
    have hp := starts_le_length_decodeLossy 0 p
    rw [List.drop_zero] at hp
    rw [List.flatten_cons, starts_append, List.flatMap_cons, List.length_append] at h
    intro q hq
    rcases List.mem_cons.1 hq with rfl | hq
    · -- No other piece makes up for a character that is written here and begins nowhere.
      intro x r hx hc
      have hlt := starts_lt_length_decodeLossy x r
      have hxr : starts (x :: r) = starts r := List.countP_cons_of_neg (by simpa using hc)
      rw [hx] at h hp
      omega
    · exact ih (by omega) q hq

/-- A text that is cut into pieces reads back piece by piece just where each of the pieces
is a text itself. -/
theorem flatMap_decodeLossy_eq_iff {pieces : List Bytes} {s : List Char}
    (h : pieces.flatten = encodeChars s) :
    pieces.flatMap (decodeLossyFrom 0) = s ↔ ∀ p ∈ pieces, ∃ t, p = encodeChars t := by
  constructor
  · intro hs
    refine exists_encodeChars_of_beginsCharacter h (beginsCharacter_of_length_le ?_)
    exact Nat.le_of_eq (by rw [hs, h, starts_encodeChars])
  · intro hp
    exact encodeChars_injective ((encodeChars_flatMap_decodeLossy hp).trans h)

end RemoteHost.Utf8
