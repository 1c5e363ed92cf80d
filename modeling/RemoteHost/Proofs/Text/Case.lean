/-
RemoteHost/Proofs/Text/Case.lean

Lower case of `A` to `Z`: what has a letter for its lower case (`lowerAscii_eq_letter_iff`), and
that nothing else changes (`lowerAscii_eq_other_iff`).  A part of a text is a part of it in lower
case, too (`contains_toLowerAscii`).
-/
import RemoteHost.Proofs.Text.Search
import RemoteHost.Text.Ascii

namespace RemoteHost.Text

variable {c d u : Char}

theorem toNat_lowerAscii (c : Char) :
    (lowerAscii c).toNat = if 65 ≤ c.toNat ∧ c.toNat ≤ 90 then c.toNat + 32 else c.toNat := by
  have hupper : ('A' ≤ c ∧ c ≤ 'Z') ↔ 65 ≤ c.toNat ∧ c.toNat ≤ 90 := Iff.rfl
  unfold lowerAscii
  simp only [hupper]
  split
  · next h =>
    have hvalid : (c.toNat + 32).isValidChar := .inl (by omega)
    rw [Char.ofNat, dif_pos hvalid]
    rfl
  · rfl

@[simp] theorem toList_toLowerAscii (s : String) :
    (toLowerAscii s).toList = s.toList.map lowerAscii := by simp [toLowerAscii]

theorem toLowerAscii_append (a b : String) :
    toLowerAscii (a ++ b) = toLowerAscii a ++ toLowerAscii b := by
  rw [← String.toList_inj]
  simp

theorem contains_toLowerAscii {a b : String} (h : contains b a) :
    contains (toLowerAscii b) (toLowerAscii a) := by
  rw [contains, occurs_iff] at h ⊢
  rw [toList_toLowerAscii, toList_toLowerAscii]
  exact h.map lowerAscii

/-- A letter is the lower case of itself and of the letter 32 places before it. -/
theorem lowerAscii_eq_letter_iff (hu : 65 ≤ u.toNat ∧ u.toNat ≤ 90)
    (hd : u.toNat + 32 = d.toNat) : lowerAscii c = d ↔ c = d ∨ c = u := by
  rw [← Char.toNat_inj, ← Char.toNat_inj, ← Char.toNat_inj, toNat_lowerAscii]
  split <;> omega

/-- A character that is no letter is the lower case of itself only. -/
theorem lowerAscii_eq_other_iff (hupper : ¬ (65 ≤ d.toNat ∧ d.toNat ≤ 90))
    (hlower : ¬ (97 ≤ d.toNat ∧ d.toNat ≤ 122)) : lowerAscii c = d ↔ c = d := by
  rw [← Char.toNat_inj, ← Char.toNat_inj, toNat_lowerAscii]
  split <;> omega

end RemoteHost.Text
