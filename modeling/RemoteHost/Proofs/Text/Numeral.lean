/-
RemoteHost/Proofs/Text/Numeral.lean

Numerals.  In a base up to ten a sequence of digits stands for the number that has these digits,
and nothing but digits stands for a number (`digitsValue_eq_some_iff`).  In a base up to sixteen
the digits of a number stand for it (`digitsValue_toDigits_of_base`).

In base ten, these digits are a numeral (`natValue_toDigits`), and a text that begins otherwise does
not begin with one (`not_toDigits_isPrefix`).
-/
import Mathlib.Data.List.Induction
import Mathlib.Data.Nat.Digits.Defs
import RemoteHost.Text.Ascii

namespace RemoteHost.Text

variable {base n d : Nat} {c : Char} {s : List Char}

/-! ### Digits -/

/-- In a base up to ten the digits are `0` and those after it. -/
theorem digitValue_lt_iff (hbase : base ≤ 10) :
    digitValue c = some d ∧ d < base ↔ 48 ≤ c.toNat ∧ c.toNat < 48 + base ∧ d = c.toNat - 48 := by
  have hle : ∀ a b : Char, a ≤ b ↔ a.toNat ≤ b.toNat := fun a b => UInt32.le_iff_toNat_le
  unfold digitValue
  simp only [hle, show '0'.toNat = 48 from rfl, show '9'.toNat = 57 from rfl,
    show 'a'.toNat = 97 from rfl, show 'z'.toNat = 122 from rfl, show 'A'.toNat = 65 from rfl,
    show 'Z'.toNat = 90 from rfl]
  split
  · rw [Option.some.injEq]
    omega
  · split
    · rw [Option.some.injEq]
      omega
    · split
      · rw [Option.some.injEq]
        omega
      · constructor
        · rintro ⟨h, -⟩
          cases h
        · omega

theorem digitsValue_concat_iff : digitsValue base (s ++ [c]) = some n ↔
    ∃ m d, digitsValue base s = some m ∧ (digitValue c = some d ∧ d < base) ∧
      m * base + d = n := by
  simp only [digitsValue, List.foldlM_append, List.foldlM_cons, List.foldlM_nil]
  simp [Option.bind_eq_some_iff, and_assoc]

/-- A sequence of digits stands for the number that has these digits, the last one the lowest. -/
theorem digitsValue_eq_some_iff (hbase : base ≤ 10) : digitsValue base s = some n ↔
    (∀ c ∈ s, 48 ≤ c.toNat ∧ c.toNat < 48 + base) ∧
      Nat.ofDigits base (s.reverse.map fun c => c.toNat - 48) = n := by
  induction s using List.reverseRecOn generalizing n with
  | nil => simp [digitsValue, eq_comm]
  | append_singleton s c ih =>
    simp only [digitsValue_concat_iff, ih, digitValue_lt_iff hbase]
    rw [List.reverse_append, List.reverse_singleton, List.singleton_append, List.map_cons,
      Nat.ofDigits_cons, List.forall_mem_append, List.forall_mem_singleton]
    constructor
    · rintro ⟨m, d, ⟨hs, rfl⟩, ⟨hlow, hhigh, rfl⟩, rfl⟩
      refine ⟨⟨hs, hlow, hhigh⟩, ?_⟩
      rw [Nat.add_comm, Nat.mul_comm]
    · rintro ⟨⟨hs, hlow, hhigh⟩, rfl⟩
      refine ⟨_, _, ⟨hs, rfl⟩, ⟨hlow, hhigh, rfl⟩, ?_⟩
      rw [Nat.add_comm, Nat.mul_comm]

/-- No other character stands among digits. -/
theorem not_mem_of_digitsValue (h : digitsValue base s = some n) (hc : digitValue c = none) :
    c ∉ s := by
  induction s using List.reverseRecOn generalizing n with
  | nil => exact List.not_mem_nil
  | append_singleton s x ih =>
    obtain ⟨m, d, hm, ⟨hd, -⟩, -⟩ := digitsValue_concat_iff.1 h
    rw [List.mem_append, List.mem_singleton]
    rintro (hmem | rfl)
    · exact ih hm hmem
    · rw [hc] at hd
      cases hd

theorem digitValue_digitChar (h : d < 16) : digitValue d.digitChar = some d := by
  have hall : ∀ d < 16, digitValue d.digitChar = some d := by decide
  exact hall d h

theorem digitsValue_append_digit (hbase : base ≤ 16) (hd : d < base)
    (hs : digitsValue base s = some n) :
    digitsValue base (s ++ [d.digitChar]) = some (base * n + d) :=
  digitsValue_concat_iff.2
    ⟨n, d, hs, ⟨digitValue_digitChar (Nat.lt_of_lt_of_le hd hbase), hd⟩, by rw [Nat.mul_comm]⟩

/-- In a base up to sixteen, the digits of a number stand for it: the last one is the rest modulo
the base, and those before it are the digits of the quotient. -/
theorem digitsValue_toDigits_of_base (hone : 1 < base) (hbase : base ≤ 16) (n : Nat) :
    digitsValue base (Nat.toDigits base n) = some n := by
  induction n using Nat.strongRecOn with
  | ind n ih =>
    by_cases hn : n < base
    · rw [Nat.toDigits_of_lt_base hn]
      have h := digitsValue_append_digit (s := []) (n := 0) hbase hn rfl
      rwa [Nat.mul_zero, Nat.zero_add] at h
    · have hq := ih (n / base) (Nat.div_lt_self (by omega) hone)
      rw [Nat.toDigits_of_base_le hone (by omega),
        digitsValue_append_digit hbase (Nat.mod_lt n (by omega)) hq, Nat.div_add_mod]

/-! ### Decimal numerals -/

theorem digitsValue_toDigits (n : Nat) : digitsValue 10 (Nat.toDigits 10 n) = some n :=
  digitsValue_toDigits_of_base (by decide) (by decide) n

/-- A sign in front is left out. -/
theorem natValue_plus_toDigits (n : Nat) : natValue 10 ('+' :: Nat.toDigits 10 n) = some n := by
  unfold natValue
  simp only [List.isEmpty_iff, if_neg Nat.toDigits_ne_nil, digitsValue_toDigits]

theorem natValue_toDigits (n : Nat) : natValue 10 (Nat.toDigits 10 n) = some n := by
  have hdigits := digitsValue_toDigits n
  have hmem : ∀ c ∈ Nat.toDigits 10 n, c.isDigit := fun c hc =>
    Nat.isDigit_of_mem_toDigits (by decide) (by decide) hc
  unfold natValue
  cases hs : Nat.toDigits 10 n with
  | nil => exact absurd hs Nat.toDigits_ne_nil
  | cons c s =>
    rw [hs] at hdigits hmem
    -- A numeral with a sign is none that is written here.
    have hc : c ≠ '+' := by
      rintro rfl
      exact absurd (hmem '+' List.mem_cons_self) (by decide)
    split
    · next h => exact absurd (List.cons.inj h).1 hc
    · simpa using hdigits

theorem not_toDigits_isPrefix (hc : ¬ c.isDigit) :
    ¬ Nat.toDigits 10 n <+: c :: s := by
  rintro ⟨b, hb⟩
  cases hd : Nat.toDigits 10 n with
  | nil => exact Nat.toDigits_ne_nil hd
  | cons x d =>
    have hx : x.isDigit :=
      Nat.isDigit_of_mem_toDigits (by decide) (by decide) (hd ▸ List.mem_cons_self)
    rw [hd] at hb
    rw [(List.cons.inj hb).1] at hx
    exact hc hx

end RemoteHost.Text
