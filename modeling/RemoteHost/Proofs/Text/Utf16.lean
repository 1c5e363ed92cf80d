/-
RemoteHost/Proofs/Text/Utf16.lean

A text in UTF-16 reads back as it was written (`decode?_encode`), the characters outside the
basic plane included, each of which is a pair of surrogates.  Nothing else is read: the bytes
that stand for a text are those that are written for it (`decode?_eq_some_iff`).

The length of a text in code units is its `width`.  A text in the basic plane has as many units
as it has characters (`width_eq_length`).
-/
import RemoteHost.Text.Utf16

namespace RemoteHost.Utf16

/-- A character is in the basic plane and no surrogate, or outside the basic plane. -/
theorem toNat_cases (c : Char) :
    (c.toNat < 0xD800 ∨ (0xE000 ≤ c.toNat ∧ c.toNat < 0x10000)) ∨
      (0x10000 ≤ c.toNat ∧ c.toNat < 0x110000) := by
  have hv : c.toNat < 0xD800 ∨ (0xDFFF < c.toNat ∧ c.toNat < 0x110000) := c.valid
  omega

theorem units_cons (c : Char) (s : List Char) : units (c :: s) = unitsOf c ++ units s :=
  List.flatMap_cons

theorem units_append (s t : List Char) : units (s ++ t) = units s ++ units t :=
  List.flatMap_append

theorem lt_of_mem_units {s : List Char} {u : Nat} (h : u ∈ units s) : u < 65536 := by
  obtain ⟨c, -, hu⟩ := List.mem_flatMap.1 h
  have hc := toNat_cases c
  simp only [unitsOf] at hu
  split at hu
  · next hlt =>
    rw [List.mem_singleton.1 hu]
    exact hlt
  · simp only [List.mem_cons, List.not_mem_nil, or_false] at hu
    omega

/-- The units of a character read back as the character. -/
theorem ofUnits?_unitsOf_append (c : Char) (r : List Nat) :
    ofUnits? (unitsOf c ++ r) = (ofUnits? r).map (c :: ·) := by
  have hc : Char.ofNat c.toNat = c := Char.ofNat_toNat c
  unfold unitsOf
  rcases toNat_cases c with h | h
  · rw [if_pos (by omega), List.singleton_append, ofUnits?.eq_def]
    simp only
    rw [if_pos (by omega), hc]
  · have hsum : 0x10000 + (0xD800 + (c.toNat - 0x10000) / 0x400 - 0xD800) * 0x400 +
        (0xDC00 + (c.toNat - 0x10000) % 0x400 - 0xDC00) = c.toNat := by omega
    rw [if_neg (by omega), List.cons_append, List.singleton_append, ofUnits?.eq_def]
    simp only
    rw [if_neg (by omega), if_pos (by omega), if_pos (by omega), hsum, hc]

theorem ofUnits?_units (s : List Char) : ofUnits? (units s) = some s := by
  induction s with
  | nil => rfl
  | cons c s ih =>
    rw [units_cons, ofUnits?_unitsOf_append, ih, Option.map_some]

/-- Code units read back from their bytes. -/
theorem unitsOfBytes?_flatMap {us : List Nat} (h : ∀ u ∈ us, u < 65536) :
    unitsOfBytes? (us.flatMap littleEndian) = some us := by
  induction us with
  | nil => rfl
  | cons u us ih =>
    have hu := h u (by simp)
    have hlow : (UInt8.ofNat (u % 256)).toNat = u % 256 := by simp
    have hhigh : (UInt8.ofNat (u / 256)).toNat = u / 256 := by
      simpa [UInt8.toNat_ofNat] using (by omega : u / 256 < 256)
    rw [List.flatMap_cons, littleEndian, List.cons_append, List.singleton_append, unitsOfBytes?,
      ih fun v hv => h v (List.mem_cons_of_mem u hv), Option.map_some, hlow, hhigh,
      Nat.add_comm, Nat.mul_comm, Nat.div_add_mod]

/-- A text reads back as it was written. -/
theorem decode?_encode (s : String) : decode? (encode s) = some s := by
  rw [decode?, encode, encodeChars, unitsOfBytes?_flatMap fun u hu => lt_of_mem_units hu,
    Option.bind_some, ofUnits?_units, Option.map_some, String.ofList_toList]

/-! ### Nothing else is read -/

theorem toNat_ofNat_of_isValidChar {n : Nat} (h : n.isValidChar) : (Char.ofNat n).toNat = n := by
  rw [Char.ofNat, dif_pos h]
  rfl

/-- A unit that is no surrogate is what its character is written as. -/
theorem unitsOf_ofNat {u : Nat} (h : u < 0xD800 ∨ (0xE000 ≤ u ∧ u < 0x10000)) :
    unitsOf (Char.ofNat u) = [u] := by
  have hvalid : u.isValidChar := h.imp id fun h => ⟨by omega, by omega⟩
  have hu : (Char.ofNat u).toNat = u := toNat_ofNat_of_isValidChar hvalid
  simp only [unitsOf, hu]
  rw [if_pos (by omega)]

/-- A high and a low surrogate are what the character of the pair is written as. -/
theorem unitsOf_ofPair {u v : Nat} (hu : 0xD800 ≤ u ∧ u < 0xDC00) (hv : 0xDC00 ≤ v ∧ v < 0xE000) :
    unitsOf (Char.ofNat (0x10000 + (u - 0xD800) * 0x400 + (v - 0xDC00))) = [u, v] := by
  have hvalid : (0x10000 + (u - 0xD800) * 0x400 + (v - 0xDC00)).isValidChar :=
    .inr ⟨by omega, by omega⟩
  have hhigh : 0xD800 + (0x10000 + (u - 0xD800) * 0x400 + (v - 0xDC00) - 0x10000) / 0x400 = u := by
    omega
  have hlow : 0xDC00 + (0x10000 + (u - 0xD800) * 0x400 + (v - 0xDC00) - 0x10000) % 0x400 = v := by
    omega
  simp only [unitsOf, toNat_ofNat_of_isValidChar hvalid]
  rw [if_neg (by omega), hhigh, hlow]

/-- The units of a text are those that are written for it. -/
theorem eq_units_of_ofUnits? {us : List Nat} {s : List Char} (h : ofUnits? us = some s) :
    us = units s := by
  fun_induction ofUnits? us generalizing s with
  | case1 =>
    cases h
    rfl
  | case2 u r hu ih =>
    obtain ⟨s', hs', rfl⟩ := Option.map_eq_some_iff.1 h
    rw [units_cons, unitsOf_ofNat hu, ← ih hs']
    rfl
  | case3 u hplain hhigh v r hlow ih =>
    obtain ⟨s', hs', rfl⟩ := Option.map_eq_some_iff.1 h
    rw [units_cons, unitsOf_ofPair ⟨by omega, hhigh⟩ hlow, ← ih hs']
    rfl
  | case4 => cases h
  | case5 => cases h
  | case6 => cases h

theorem eq_flatMap_of_unitsOfBytes? {bytes : Bytes} {us : List Nat}
    (h : unitsOfBytes? bytes = some us) : bytes = us.flatMap littleEndian := by
  fun_induction unitsOfBytes? bytes generalizing us with
  | case1 =>
    cases h
    rfl
  | case2 => cases h
  | case3 a b r ih =>
    obtain ⟨us', hus', rfl⟩ := Option.map_eq_some_iff.1 h
    have ha := a.toNat_lt
    have hlow : (a.toNat + b.toNat * 256) % 256 = a.toNat := by omega
    have hhigh : (a.toNat + b.toNat * 256) / 256 = b.toNat := by omega
    rw [List.flatMap_cons, littleEndian, hlow, hhigh, UInt8.ofNat_toNat, UInt8.ofNat_toNat,
      ← ih hus']
    rfl

/-- Bytes stand for a text just where they are what is written for it. -/
theorem decode?_eq_some_iff {bytes : Bytes} {s : String} :
    decode? bytes = some s ↔ bytes = encode s := by
  constructor
  · intro h
    obtain ⟨chars, hchars, rfl⟩ := Option.map_eq_some_iff.1 h
    obtain ⟨us, hus, hread⟩ := Option.bind_eq_some_iff.1 hchars
    rw [encode, String.toList_ofList, encodeChars, ← eq_units_of_ofUnits? hread]
    exact eq_flatMap_of_unitsOfBytes? hus
  · rintro rfl
    exact decode?_encode s

example : decode? [0x34, 0xD8, 0x1E, 0xDD] = some "𝄞" ∧ decode? [0x34, 0xD8] = none := by decide

/-! ### Length -/

/-- The length of a text in code units. -/
def width (s : String) : Nat := (units s.toList).length

@[simp] theorem width_append (s t : String) : width (s ++ t) = width s + width t := by
  rw [width, String.toList_append, units_append, List.length_append, width, width]

/-- A character is at least one unit. -/
theorem length_le_length_units (s : List Char) : s.length ≤ (units s).length := by
  have hpos (c : Char) : 1 ≤ (unitsOf c).length := by
    simp only [unitsOf]
    split <;> exact Nat.succ_pos _
  induction s with
  | nil => exact Nat.le_refl 0
  | cons c s ih =>
    rw [units_cons, List.length_append, List.length_cons, Nat.add_comm]
    exact Nat.add_le_add (hpos c) ih

/-- In the basic plane a character is one unit. -/
theorem length_units_of_basic {s : List Char} (h : ∀ c ∈ s, c.toNat < 0x10000) :
    (units s).length = s.length := by
  induction s with
  | nil => rfl
  | cons c s ih =>
    obtain ⟨hc, hs⟩ := List.forall_mem_cons.1 h
    rw [units_cons, unitsOf, if_pos hc, List.singleton_append, List.length_cons, ih hs,
      List.length_cons]

theorem width_eq_length {s : String} (h : ∀ c ∈ s.toList, c.toNat < 0x10000) :
    width s = s.length := by
  rw [width, length_units_of_basic h, String.length_toList]

/-- A code unit is two bytes. -/
theorem length_encode (s : String) : (encode s).length = 2 * width s := by
  have hbytes (us : List Nat) : (us.flatMap littleEndian).length = 2 * us.length := by
    induction us with
    | nil => rfl
    | cons u us ih =>
      rw [List.flatMap_cons, List.length_append, ih, List.length_cons]
      show 2 + 2 * us.length = _
      omega
  exact hbytes (units s.toList)

end RemoteHost.Utf16
