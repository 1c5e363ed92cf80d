/-
RemoteHost/Proofs/Ssh/ModeNumerals.lean

Which texts are taken for permission modes.

`Spells` says what a permission mode looks like: an octal numeral (`Octal`) behind one mark `0o` at
most, with blanks around it.  Each of these is taken.  Also taken are numerals behind a sign or
behind several marks (`Adorned`), and nothing else (`gives_iff`); no text is of both forms
(`Decorated.not_plain`).
-/
import RemoteHost.Proofs.Text.Numeral
import RemoteHost.Ssh.FileMode

namespace RemoteHost.Ssh.FileMode

open Text

variable {text : String} {s digits : List Char} {m n k : Nat}

/-! ### Octal numerals -/

/-- An octal numeral and its number: some digits from `0` to `7`, the last one the lowest. -/
structure Octal (digits : List Char) (n : Nat) : Prop where
  ne_nil : digits ≠ []
  octal : ∀ d ∈ digits, '0' ≤ d ∧ d ≤ '7'
  value : Nat.ofDigits 8 (digits.reverse.map fun d => d.toNat - '0'.toNat) = n

theorem octal_iff : Octal digits n ↔ digits ≠ [] ∧ digitsValue 8 digits = some n := by
  have hdigit : ∀ d : Char, '0' ≤ d ∧ d ≤ '7' ↔ 48 ≤ d.toNat ∧ d.toNat < 48 + 8 := fun d =>
    and_congr UInt32.le_iff_toNat_le (UInt32.le_iff_toNat_le.trans Nat.lt_succ_iff.symm)
  rw [digitsValue_eq_some_iff (by decide)]
  simp only [← hdigit]
  exact ⟨fun h => ⟨h.ne_nil, h.octal, h.value⟩, fun h => ⟨h.1, h.2.1, h.2.2⟩⟩

theorem Octal.not_mem {c : Char} (h : Octal digits n) (hc : ¬ ('0' ≤ c ∧ c ≤ '7')) :
    c ∉ digits := fun hmem => hc (h.octal c hmem)

/-- An octal numeral, perhaps behind a sign; with a minus sign only zero is not below zero. -/
inductive Signed : List Char → Nat → Prop
  | plain {digits : List Char} {n : Nat} (h : Octal digits n) : Signed digits n
  | plus {digits : List Char} {n : Nat} (h : Octal digits n) : Signed ('+' :: digits) n
  | minus {digits : List Char} (h : Octal digits 0) : Signed ('-' :: digits) 0

theorem value?_minus : value? ('-' :: s) = some n ↔ Octal s 0 ∧ n = 0 := by
  rw [octal_iff]
  cases s with
  | nil => simp [value?]
  | cons c s =>
    rw [value?]
    cases digitsValue 8 (c :: s) with
    | none => simp
    | some m =>
      by_cases hm : m = 0
      · simp [hm, eq_comm]
      · simp [hm]

theorem value?_plus : value? ('+' :: s) = some n ↔ Octal s n := by
  rw [octal_iff]
  cases s with
  | nil => simp [value?, natValue]
  | cons c s => simp [value?, natValue]

theorem value?_unsigned (hplus : ¬ ∃ r, s = '+' :: r) (hminus : ¬ ∃ r, s = '-' :: r) :
    value? s = some n ↔ Octal s n := by
  rw [octal_iff]
  unfold value?
  split
  · next r => exact absurd ⟨r, rfl⟩ hminus
  · unfold natValue
    split
    · next r _ => exact absurd ⟨r, rfl⟩ hplus
    · cases s <;> simp

theorem value?_eq_some_iff : value? s = some n ↔ Signed s n := by
  constructor
  · intro h
    by_cases hminus : ∃ r, s = '-' :: r
    · obtain ⟨r, rfl⟩ := hminus
      obtain ⟨hoctal, rfl⟩ := value?_minus.1 h
      exact .minus hoctal
    · by_cases hplus : ∃ r, s = '+' :: r
      · obtain ⟨r, rfl⟩ := hplus
        exact .plus (value?_plus.1 h)
      · exact .plain ((value?_unsigned hplus hminus).1 h)
  · intro h
    cases h with
    | plain h =>
      -- A sign is no digit.
      refine (value?_unsigned ?_ ?_).2 h
      · rintro ⟨r, rfl⟩
        exact h.not_mem (by decide) List.mem_cons_self
      · rintro ⟨r, rfl⟩
        exact h.not_mem (by decide) List.mem_cons_self
    | plus h => exact value?_plus.2 h
    | minus h => exact value?_minus.2 ⟨h, rfl⟩

/-! ### Marks -/

/-- Marks `0o` in a row. -/
def marks : Nat → List Char
  | 0 => []
  | k + 1 => '0' :: 'o' :: marks k

theorem dropMarks_marks_append (k : Nat) (s : List Char) :
    dropMarks (marks k ++ s) = dropMarks s := by
  induction k with
  | zero => rfl
  | succ k ih => exact ih

theorem exists_eq_marks_append (s : List Char) : ∃ k, s = marks k ++ dropMarks s := by
  induction s using dropMarks.induct with
  | case1 r ih =>
    obtain ⟨k, hk⟩ := ih
    refine ⟨k + 1, ?_⟩
    rw [dropMarks]
    exact congrArg (fun r => '0' :: 'o' :: r) hk
  | case2 s h => exact ⟨0, (dropMarks.eq_2 s h).symm⟩

/-- No mark stands before what a number is read from. -/
theorem Signed.dropMarks_eq (h : Signed s n) : dropMarks s = s := by
  refine dropMarks.eq_2 s ?_
  rintro r rfl
  cases h with
  | plain h => exact h.not_mem (by decide) (List.mem_cons_of_mem _ List.mem_cons_self)

/-! ### Plain and adorned numerals -/

/-- An octal numeral by itself, or behind one mark. -/
inductive Plain : List Char → Nat → Prop
  | bare {digits : List Char} {n : Nat} (h : Octal digits n) : Plain digits n
  | marked {digits : List Char} {n : Nat} (h : Octal digits n) : Plain ('0' :: 'o' :: digits) n

/-- An octal numeral behind several marks, or behind a sign. -/
inductive Decorated : List Char → Nat → Prop
  | marked {k : Nat} {digits : List Char} {n : Nat} (hk : 2 ≤ k) (h : Octal digits n) :
      Decorated (marks k ++ digits) n
  | plus (k : Nat) {digits : List Char} {n : Nat} (h : Octal digits n) :
      Decorated (marks k ++ '+' :: digits) n
  | minus (k : Nat) {digits : List Char} (h : Octal digits 0) :
      Decorated (marks k ++ '-' :: digits) 0

/-- What is read behind the marks is read from a plain numeral or from a decorated one. -/
theorem signed_dropMarks_iff : Signed (dropMarks s) n ↔ Plain s n ∨ Decorated s n := by
  constructor
  · intro h
    obtain ⟨k, hk⟩ := exists_eq_marks_append s
    rw [hk]
    generalize dropMarks s = r at h
    cases h with
    | plain h =>
      match k with
      | 0 => exact .inl (.bare h)
      | 1 => exact .inl (.marked h)
      | k + 2 => exact .inr (.marked (Nat.le_add_left 2 k) h)
    | plus h => exact .inr (.plus k h)
    | minus h => exact .inr (.minus k h)
  · have hread : ∀ {k : Nat} {r : List Char} {n : Nat}, Signed r n →
        Signed (dropMarks (marks k ++ r)) n := by
      intro k r n h
      rwa [dropMarks_marks_append, h.dropMarks_eq]
    rintro (h | h)
    · cases h with
      | bare h => exact hread (k := 0) (.plain h)
      | marked h => exact hread (k := 1) (.plain h)
    · cases h with
      | marked hk h => exact hread (.plain h)
      | plus k h => exact hread (.plus h)
      | minus k h => exact hread (.minus h)

theorem Plain.octal (h : Plain s n) : Octal (dropMarks s) n := by
  cases h with
  | bare h => rwa [(Signed.plain h).dropMarks_eq]
  | marked h => rwa [dropMarks, (Signed.plain h).dropMarks_eq]

/-- A numeral is not both plain and decorated. -/
theorem Decorated.not_plain (h : Decorated s n) : ¬ Plain s m := by
  intro hplain
  cases h with
  | marked hk h =>
    obtain ⟨k, rfl⟩ := Nat.exists_eq_add_of_le' hk
    cases hplain with
    | bare h' => exact h'.not_mem (by decide) (List.mem_cons_of_mem _ List.mem_cons_self)
    | marked h' => exact h'.not_mem (by decide) (List.mem_cons_of_mem _ List.mem_cons_self)
  | plus k h =>
    have hoctal := hplain.octal
    rw [dropMarks_marks_append] at hoctal
    exact hoctal.not_mem (by decide) List.mem_cons_self
  | minus k h =>
    have hoctal := hplain.octal
    rw [dropMarks_marks_append] at hoctal
    exact hoctal.not_mem (by decide) List.mem_cons_self

/-! ### Modes -/

/-- Trimmed, the text is an octal numeral behind one mark at most, with the number of some
permission bits. -/
def Spells (text : String) (n : Nat) : Prop := Plain (trimChars text.toList) n ∧ n ≤ 0o7777

/-- Trimmed, the text is an octal numeral behind several marks or a sign, with the number of some
permission bits. -/
def Adorned (text : String) (n : Nat) : Prop := Decorated (trimChars text.toList) n ∧ n ≤ 0o7777

/-- The text is taken for a mode with this number. -/
def Gives (text : String) (n : Nat) : Prop := ∃ mode, parse text = .ok mode ∧ mode.val = n

theorem parse_eq_ok_iff {mode : FileMode} :
    parse text = .ok mode ↔ Signed (dropMarks (trimChars text.toList)) mode.val := by
  have hparse : parse text = .ok mode ↔ ofText? text = some mode := by
    unfold parse
    cases ofText? text <;> simp
  rw [hparse, ← value?_eq_some_iff, ← toList_trim]
  simp only [ofText?, Option.bind_eq_bind, Option.bind_eq_some_iff]
  constructor
  · rintro ⟨n, hn, h⟩
    split at h
    · cases h
      exact hn
    · cases h
  · intro h
    exact ⟨mode.val, h, dif_pos mode.isLt⟩

/-- What is taken is spelled out or adorned, and gives permission bits. -/
theorem gives_iff : Gives text n ↔ Spells text n ∨ Adorned text n := by
  unfold Spells Adorned
  rw [← or_and_right, ← signed_dropMarks_iff]
  constructor
  · rintro ⟨mode, hparse, rfl⟩
    exact ⟨parse_eq_ok_iff.1 hparse, Nat.le_of_lt_succ mode.isLt⟩
  · rintro ⟨h, hle⟩
    exact ⟨⟨n, Nat.lt_succ_of_le hle⟩, parse_eq_ok_iff.2 h, rfl⟩

theorem parse_of_not_gives (h : ∀ n, ¬ Gives text n) : parse text = .error (invalid text) := by
  unfold Gives at h
  cases hparse : parse text with
  | ok mode => exact absurd ⟨mode, hparse, rfl⟩ (h mode.val)
  | error e =>
    unfold parse at hparse
    split at hparse
    · cases hparse
    · exact hparse.symm

/-- **A mode is what a text spells, signs and repeated marks apart.**  That a text is taken for the
number that it spells as an octal numeral behind one mark at most, and fails as no mode if it spells
none, is true of exactly those texts that do not have an octal numeral behind a sign or behind
several marks.  Such a numeral is taken for its number all the same. -/
theorem mode_as_spelled_iff (text : String) :
    (((∀ n, Gives text n ↔ Spells text n) ∧
        ((∀ n, ¬ Spells text n) → parse text = .error (invalid text))) ↔
      ∀ n, ¬ Adorned text n) ∧
    ∀ n, Adorned text n → Gives text n := by
  refine ⟨⟨?_, ?_⟩, fun n h => gives_iff.2 (.inr h)⟩
  · rintro ⟨hgives, -⟩ n hadorned
    obtain ⟨hplain, -⟩ := (hgives n).1 (gives_iff.2 (.inr hadorned))
    exact hadorned.1.not_plain hplain
  · intro hnone
    have hgives : ∀ n, Gives text n ↔ Spells text n := fun n =>
      gives_iff.trans (or_iff_left (hnone n))
    exact ⟨hgives, fun hspells => parse_of_not_gives fun n => (hgives n).not.2 (hspells n)⟩

/-- A plus sign and a second mark are taken, although neither text is an octal numeral behind one
mark at most. -/
theorem sign_and_second_mark_are_taken :
    (parse "+755" = .ok ⟨0o755, by decide⟩ ∧ ∀ n, ¬ Spells "+755" n) ∧
      parse "0o0o755" = .ok ⟨0o755, by decide⟩ ∧ ∀ n, ¬ Spells "0o0o755" n := by
  have hoctal : Octal "755".toList 0o755 := octal_iff.2 ⟨by decide, by decide⟩
  have hplus : Decorated "+755".toList 0o755 := .plus 0 hoctal
  have hmarked : Decorated "0o0o755".toList 0o755 := .marked (k := 2) (by decide) hoctal
  exact ⟨⟨by decide, fun n h => hplus.not_plain h.1⟩, by decide, fun n h => hmarked.not_plain h.1⟩

end RemoteHost.Ssh.FileMode
