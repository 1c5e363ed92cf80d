/-
RemoteHost/Proofs/Text/Blank.lean

Trimming takes from a text the blanks at its ends and leaves none there (`trimChars_eq_iff`).  So
blanks that were put around a text are taken away with those that it had
(`trimChars_blank_append`, `trimChars_append_blank`), and nothing is taken where there are none
(`trimChars_eq_self_iff`).  A piece without blanks is never touched (`occurs_trimChars`).  Trimming
once is enough (`trimChars_trimChars`), and a text is left of it unless there are only blanks
(`trimmed?_eq_none_iff`).  Blanks that were put in anywhere (`Spaced`) are what leaving out all
blanks takes away (`Spaced.filter_eq`, `spaced_filter`).
-/
import Mathlib.Data.List.DropRight
import RemoteHost.Proofs.Text.Search
import RemoteHost.Text.Blank

namespace RemoteHost.Text

variable {p : Char → Bool} {c : Char} {s : List Char}

theorem dropTrailing_append_singleton (hc : p c) (s : List Char) :
    dropTrailing p (s ++ [c]) = dropTrailing p s := by
  rw [dropTrailing, List.reverse_append, List.reverse_singleton, List.singleton_append,
    List.dropWhile_cons_of_pos hc, dropTrailing]

/-- A text is what is left without its trailing characters, and these. -/
theorem exists_eq_dropTrailing_append (p : Char → Bool) (s : List Char) :
    ∃ t, s = dropTrailing p s ++ t ∧ ∀ x ∈ t, p x := by
  refine ⟨(s.reverse.takeWhile p).reverse, ?_, fun x hx => ?_⟩
  · rw [dropTrailing, ← List.reverse_append, List.takeWhile_append_dropWhile, List.reverse_reverse]
  · exact List.all_eq_true.1 List.all_takeWhile x (List.mem_reverse.1 hx)

/-- A text is what trimming leaves between two stretches of blanks. -/
theorem exists_eq_append_trimChars (s : List Char) :
    ∃ a b, s = a ++ (trimChars s ++ b) ∧ (∀ x ∈ a, isBlank x) ∧ ∀ x ∈ b, isBlank x := by
  obtain ⟨b, hb, hblank⟩ := exists_eq_dropTrailing_append isBlank (s.dropWhile isBlank)
  refine ⟨s.takeWhile isBlank, b, ?_, fun x hx => ?_, hblank⟩
  · rw [trimChars, ← hb, List.takeWhile_append_dropWhile]
  · exact List.all_eq_true.1 List.all_takeWhile x hx

theorem mem_of_mem_trimChars (h : c ∈ trimChars s) : c ∈ s := by
  obtain ⟨a, b, hs, -, -⟩ := exists_eq_append_trimChars s
  rw [hs]
  exact List.mem_append_right a (List.mem_append_left b h)

theorem trimChars_append_singleton (hc : isBlank c) (s : List Char) :
    trimChars (s ++ [c]) = trimChars s := by
  rw [trimChars, List.dropWhile_append]
  split
  · next h =>
    rw [trimChars, List.isEmpty_iff.1 h, List.dropWhile_cons_of_pos hc]
    rfl
  · rw [dropTrailing_append_singleton hc, trimChars]

theorem trimChars_blank_append {a : List Char} (ha : ∀ x ∈ a, isBlank x) (s : List Char) :
    trimChars (a ++ s) = trimChars s := by
  rw [trimChars, List.dropWhile_append_of_pos ha, trimChars]

theorem trimChars_append_blank {b : List Char} (hb : ∀ x ∈ b, isBlank x) (s : List Char) :
    trimChars (s ++ b) = trimChars s := by
  induction b generalizing s with
  | nil => rw [List.append_nil]
  | cons c b ih =>
    obtain ⟨hc, hb⟩ := List.forall_mem_cons.1 hb
    rw [List.append_cons, ih hb, trimChars_append_singleton hc]

theorem trimChars_of_blank (h : ∀ x ∈ s, isBlank x) : trimChars s = [] := by
  rw [trimChars, List.dropWhile_eq_nil_iff.2 h]
  rfl

theorem trimChars_eq_nil_iff : trimChars s = [] ↔ ∀ x ∈ s, isBlank x := by
  refine ⟨fun h => ?_, trimChars_of_blank⟩
  obtain ⟨a, b, hs, ha, hb⟩ := exists_eq_append_trimChars s
  rw [hs, h]
  exact List.forall_mem_append.2 ⟨ha, hb⟩

/-- Dropping leaves a text as it is when its first character is not to be dropped. -/
theorem dropWhile_eq_self_iff_head : s.dropWhile p = s ↔ ∀ x ∈ s.head?, ¬ p x := by
  rw [List.dropWhile_eq_self_iff]
  cases s with
  | nil => exact iff_of_true (fun h => absurd h (Nat.lt_irrefl 0)) nofun
  | cons x s =>
    constructor
    · rintro h _ ⟨⟩
      exact h (Nat.succ_pos s.length)
    · intro h _
      exact h x rfl

theorem dropTrailing_eq_self_iff : dropTrailing p s = s ↔ ∀ x ∈ s.getLast?, ¬ p x := by
  rw [dropTrailing, List.reverse_eq_iff, dropWhile_eq_self_iff_head, List.head?_reverse]

theorem length_dropTrailing_le (p : Char → Bool) (s : List Char) :
    (dropTrailing p s).length ≤ s.length := by
  obtain ⟨t, hs, -⟩ := exists_eq_dropTrailing_append p s
  rw [congrArg List.length hs, List.length_append]
  exact Nat.le_add_right _ _

/-- Trimming leaves a text as it is when it neither begins nor ends with a blank. -/
theorem trimChars_eq_self_iff :
    trimChars s = s ↔ (∀ x ∈ s.head?, ¬ isBlank x) ∧ ∀ x ∈ s.getLast?, ¬ isBlank x := by
  rw [← dropWhile_eq_self_iff_head, ← dropTrailing_eq_self_iff]
  constructor
  · intro h
    have hdrop : s.dropWhile isBlank = s := by
      refine (List.dropWhile_suffix isBlank).eq_of_length_le ?_
      calc s.length = (trimChars s).length := by rw [h]
        _ ≤ (s.dropWhile isBlank).length := length_dropTrailing_le isBlank _
    rw [trimChars, hdrop] at h
    exact ⟨hdrop, h⟩
  · rintro ⟨hdrop, htrailing⟩
    rw [trimChars, hdrop, htrailing]

theorem trimChars_append_append {a b : List Char} (ha : ∀ x ∈ a, isBlank x)
    (hs : ∀ x ∈ s, ¬ isBlank x) (hb : ∀ x ∈ b, isBlank x) : trimChars (a ++ (s ++ b)) = s := by
  rw [trimChars_blank_append ha, trimChars_append_blank hb, trimChars_eq_self_iff]
  exact ⟨fun x hx => hs x (List.mem_of_mem_head? hx), fun x hx => hs x (List.mem_of_getLast? hx)⟩

/-- Trimming once is enough. -/
theorem trimChars_trimChars (s : List Char) : trimChars (trimChars s) = trimChars s := by
  rw [trimChars_eq_self_iff]
  refine ⟨fun x hx => ?_, ?_⟩
  · -- What is left begins as the text does without the blanks before it.
    obtain ⟨t, hs, -⟩ := exists_eq_dropTrailing_append isBlank (s.dropWhile isBlank)
    have hfirst := dropWhile_eq_self_iff_head.1 (List.dropWhile_idempotent isBlank s)
    rw [hs, List.head?_append, show (dropTrailing isBlank _).head? = some x from hx] at hfirst
    exact hfirst x rfl
  · rw [← dropTrailing_eq_self_iff, trimChars, dropTrailing, dropTrailing, List.reverse_reverse,
      List.dropWhile_idempotent]

/-- The second text is the first one without the blanks at its ends, of which none are left. -/
structure Trims (s t : List Char) : Prop where
  between : ∃ a b, s = a ++ (t ++ b) ∧ (∀ x ∈ a, isBlank x) ∧ ∀ x ∈ b, isBlank x
  first : ∀ x ∈ t.head?, ¬ isBlank x
  last : ∀ x ∈ t.getLast?, ¬ isBlank x

theorem trimChars_eq_iff {t : List Char} : trimChars s = t ↔ Trims s t := by
  constructor
  · rintro rfl
    obtain ⟨hfirst, hlast⟩ := trimChars_eq_self_iff.1 (trimChars_trimChars s)
    exact ⟨exists_eq_append_trimChars s, hfirst, hlast⟩
  · rintro ⟨⟨a, b, rfl, ha, hb⟩, hfirst, hlast⟩
    rw [trimChars_blank_append ha, trimChars_append_blank hb]
    exact trimChars_eq_self_iff.2 ⟨hfirst, hlast⟩

/-- Trimming takes nothing away but blanks. -/
theorem filter_trimChars (s : List Char) :
    (trimChars s).filter (!isBlank ·) = s.filter (!isBlank ·) := by
  have hnone : ∀ {r : List Char}, (∀ x ∈ r, isBlank x) → r.filter (!isBlank ·) = [] := by
    intro r hr
    rw [List.filter_eq_nil_iff]
    intro x hx
    rw [hr x hx]
    decide
  obtain ⟨a, b, hs, ha, hb⟩ := exists_eq_append_trimChars s
  conv => rhs; rw [hs]
  rw [List.filter_append, List.filter_append, hnone ha, hnone hb, List.append_nil, List.nil_append]

/-! ### What is left of a text -/

section Trimmed

variable {r : String}

theorem trimmed?_of_ne (h : trim r ≠ "") : trimmed? r = some (trim r) := by
  rw [trimmed?]
  exact if_neg (by rwa [String.isEmpty_iff])

theorem trimmed?_of_eq (h : trim r = "") : trimmed? r = none := by
  rw [trimmed?]
  exact if_pos (String.isEmpty_iff.2 h)

theorem trimmed?_eq_none_iff : trimmed? r = none ↔ ∀ x ∈ r.toList, isBlank x := by
  rw [← trimChars_eq_nil_iff, ← toList_trim, String.toList_eq_nil_iff]
  refine ⟨fun h => ?_, trimmed?_of_eq⟩
  by_contra hne
  rw [trimmed?_of_ne hne] at h
  cases h

end Trimmed

/-! ### Blanks anywhere -/

/-- The second text is the first one with blanks put in, before, between or behind its
characters. -/
inductive Spaced : List Char → List Char → Prop
  | nil : Spaced [] []
  | keep (c : Char) {s t : List Char} (h : Spaced s t) : Spaced (c :: s) (c :: t)
  | blank {c : Char} {s t : List Char} (hc : isBlank c) (h : Spaced s t) : Spaced s (c :: t)

/-- Leaving out the blanks leaves the text that they were put into. -/
theorem Spaced.filter_eq {t : List Char} (h : Spaced s t) (hs : ∀ c ∈ s, isBlank c = false) :
    t.filter (!isBlank ·) = s := by
  induction h with
  | nil => rfl
  | keep c _ ih =>
    obtain ⟨hc, hs⟩ := List.forall_mem_cons.1 hs
    rw [List.filter_cons_of_pos (by rw [hc]; rfl), ih hs]
  | blank hc _ ih => rw [List.filter_cons_of_neg (by rw [hc]; decide), ih hs]

theorem Spaced.mem {t : List Char} (h : Spaced s t) (hc : c ∈ t) : c ∈ s ∨ isBlank c := by
  induction h with
  | nil => cases hc
  | keep d _ ih =>
    rcases List.mem_cons.1 hc with rfl | hc
    · exact .inl List.mem_cons_self
    · exact (ih hc).imp_left (List.mem_cons_of_mem d)
  | blank hd _ ih =>
    rcases List.mem_cons.1 hc with rfl | hc
    · exact .inr hd
    · exact ih hc

/-- The blanks of a text are put into what is left without them. -/
theorem spaced_filter (t : List Char) : Spaced (t.filter (!isBlank ·)) t := by
  induction t with
  | nil => exact .nil
  | cons c t ih =>
    cases hc : isBlank c with
    | true =>
      rw [List.filter_cons_of_neg (by rw [hc]; decide)]
      exact .blank hc ih
    | false =>
      rw [List.filter_cons_of_pos (by rw [hc]; decide)]
      exact .keep c ih

/-! ### Pieces without blanks -/

theorem occurs_dropWhile {pat : List Char} (hpat : pat ≠ []) (hp : ∀ c ∈ pat, p c = false)
    (s : List Char) : occurs pat (s.dropWhile p) = occurs pat s := by
  conv => rhs; rw [← List.takeWhile_append_dropWhile (p := p) (l := s)]
  rw [occurs_append_of_forall_not_mem hpat]
  intro c hc hmem
  have hpc : p c := List.all_eq_true.1 List.all_takeWhile c hc
  rw [hp c hmem] at hpc
  cases hpc

/-- Trimming takes nothing away from a piece without blanks. -/
theorem occurs_trimChars {pat : List Char} (hpat : pat ≠ []) (hblank : ∀ c ∈ pat, isBlank c = false)
    (s : List Char) : occurs pat (trimChars s) = occurs pat s := by
  have hpat' : pat.reverse ≠ [] := by simpa using hpat
  have hblank' : ∀ c ∈ pat.reverse, isBlank c = false := fun c hc =>
    hblank c (List.mem_reverse.1 hc)
  rw [trimChars, dropTrailing, ← occurs_reverse, List.reverse_reverse,
    occurs_dropWhile hpat' hblank', occurs_reverse, occurs_dropWhile hpat hblank]

end RemoteHost.Text
