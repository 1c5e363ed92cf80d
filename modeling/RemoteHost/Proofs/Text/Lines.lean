/-
RemoteHost/Proofs/Text/Lines.lean

Lines of a text and words of a line, written and read back.

A text may be put together from lines with `\n` or `\r\n` between them (`Joined`); splitting and
trimming it gives these lines, trimmed (`Joined.trimmedLines_eq`), also where each line has got
padding on both sides (`LaidOut`, `splitLines_of_laidOut`, `nonEmptyLines_of_laidOut`).  A line may
be put together from words with any blanks around and between them (`Row`); splitting it gives these
words (`Row.wordsOf_eq`).  Blanks at either end of a line change nothing about its words
(`wordsOf_trimChars`).
-/
import RemoteHost.Proofs.Text.Blank

namespace RemoteHost.Text

variable {c : Char} {s t w : List Char} {ws ls : List (List Char)}

/-! ### Words -/

/-- A word: something, and no blank in it. -/
def IsWord (w : List Char) : Prop := w ≠ [] ∧ ∀ c ∈ w, isBlank c = false

instance : DecidablePred IsWord := fun w =>
  decidable_of_iff (w ≠ [] ∧ w.all (!isBlank ·)) (by simp [IsWord])

theorem wordsOf_append_cons (hc : isBlank c) (s t : List Char) :
    wordsOf (s ++ c :: t) = wordsOf s ++ wordsOf t := by
  rw [wordsOf, List.splitOnP_append_cons s t hc, List.filter_append, wordsOf, wordsOf]

theorem wordsOf_blank_append {a : List Char} (ha : ∀ x ∈ a, isBlank x) (s : List Char) :
    wordsOf (a ++ s) = wordsOf s := by
  induction a with
  | nil => rfl
  | cons c a ih =>
    obtain ⟨hc, ha⟩ := List.forall_mem_cons.1 ha
    exact (wordsOf_append_cons hc [] (a ++ s)).trans (ih ha)

theorem wordsOf_of_blank (h : ∀ x ∈ s, isBlank x) : wordsOf s = [] := by
  have hs := wordsOf_blank_append h []
  rwa [List.append_nil] at hs

theorem wordsOf_append_blank {b : List Char} (hb : ∀ x ∈ b, isBlank x) (s : List Char) :
    wordsOf (s ++ b) = wordsOf s := by
  cases b with
  | nil => rw [List.append_nil]
  | cons c b =>
    obtain ⟨hc, hb⟩ := List.forall_mem_cons.1 hb
    rw [wordsOf_append_cons hc, wordsOf_of_blank hb, List.append_nil]

theorem wordsOf_word (hw : IsWord w) : wordsOf w = [w] := by
  rw [wordsOf, List.splitOnP_eq_singleton hw.2]
  exact List.filter_cons_of_pos (by simpa using hw.1)

/-- Blanks at either end change nothing about the words. -/
theorem wordsOf_trimChars (s : List Char) : wordsOf (trimChars s) = wordsOf s := by
  obtain ⟨a, b, hs, ha, hb⟩ := exists_eq_append_trimChars s
  conv => rhs; rw [hs]
  rw [wordsOf_blank_append ha, wordsOf_append_blank hb]

/-- Blanks within a line. -/
def Padding (s : List Char) : Prop := ∀ c ∈ s, isBlank c ∧ c ≠ '\n'

instance : DecidablePred Padding := fun s =>
  decidable_of_iff (s.all fun c => isBlank c && c != '\n') (by simp [Padding])

theorem Padding.blank (h : Padding s) : ∀ x ∈ s, isBlank x := fun x hx => (h x hx).1

theorem Padding.feed_not_mem (h : Padding s) : '\n' ∉ s := fun hx => (h '\n' hx).2 rfl

/-- The line is these words in a row: any padding before the first and behind the last, and some
between any two. -/
inductive Row : List (List Char) → List Char → Prop
  | blank {s : List Char} (hs : Padding s) : Row [] s
  | last {a w : List Char} (ha : Padding a) : Row [w] (a ++ w)
  | cons {a w : List Char} {c : Char} {ws : List (List Char)} {s : List Char} (ha : Padding a)
      (hc : Padding [c]) (h : Row ws s) : Row (w :: ws) (a ++ (w ++ c :: s))

theorem Row.wordsOf_eq (h : Row ws s) (hws : ∀ w ∈ ws, IsWord w) : wordsOf s = ws := by
  induction h with
  | blank hs => exact wordsOf_of_blank hs.blank
  | last ha =>
    rw [wordsOf_blank_append ha.blank,
      wordsOf_word (List.forall_mem_singleton.1 hws)]
  | cons ha hc _ ih =>
    obtain ⟨hw, hws⟩ := List.forall_mem_cons.1 hws
    rw [wordsOf_blank_append ha.blank,
      wordsOf_append_cons (List.forall_mem_singleton.1 hc).1, wordsOf_word hw, ih hws]
    rfl

theorem Row.feed_not_mem (h : Row ws s) (hws : ∀ w ∈ ws, IsWord w) : '\n' ∉ s := by
  have hword {w : List Char} (hw : IsWord w) : '\n' ∉ w := fun h => by
    exact absurd (hw.2 '\n' h) (by decide)
  induction h with
  | blank hs => exact hs.feed_not_mem
  | last ha =>
    rw [List.mem_append, not_or]
    exact ⟨ha.feed_not_mem, hword (List.forall_mem_singleton.1 hws)⟩
  | cons ha hc _ ih =>
    obtain ⟨hw, hws⟩ := List.forall_mem_cons.1 hws
    rw [List.mem_append, List.mem_append, List.mem_cons, not_or, not_or, not_or]
    exact ⟨ha.feed_not_mem, hword hw, (List.forall_mem_singleton.1 hc).2.symm, ih hws⟩

/-! ### Lines -/

theorem not_mem_of_mem_splitOn : ∀ {s l : List Char}, l ∈ s.splitOn c → c ∉ l
  | [], l, h => by
    rw [List.splitOn_nil, List.mem_singleton] at h
    rw [h]
    exact List.not_mem_nil
  | x :: s, l, h => by
    rw [List.splitOn_cons_eq_if_modifyHead] at h
    split at h
    · rcases List.mem_cons.1 h with rfl | h
      · exact List.not_mem_nil
      · exact not_mem_of_mem_splitOn h
    · next hx =>
      obtain ⟨first, rest, hs⟩ := List.exists_cons_of_ne_nil (List.splitOn_ne_nil c s)
      have hmem : ∀ l ∈ first :: rest, c ∉ l := fun l hl => not_mem_of_mem_splitOn (hs ▸ hl)
      rw [hs, List.modifyHead_cons] at h
      rcases List.mem_cons.1 h with rfl | h
      · rw [List.mem_cons, not_or]
        exact ⟨fun heq => hx (by simp [heq]), hmem first List.mem_cons_self⟩
      · exact hmem l (List.mem_cons_of_mem _ h)

/-- What ends a line. -/
inductive LineEnd : List Char → Prop
  | feed : LineEnd ['\n']
  | returnFeed : LineEnd ['\r', '\n']

/-- The text is these lines, with a line end between any two.  A text that ends in a line end has
an empty line for its last. -/
inductive Joined : List (List Char) → List Char → Prop
  | last (l : List Char) : Joined [l] l
  | cons {l e t : List Char} {ls : List (List Char)} (he : LineEnd e) (h : Joined ls t) :
      Joined (l :: ls) (l ++ e ++ t)

theorem trimmedLines_append_feed (hs : '\n' ∉ s) (t : List Char) :
    trimmedLines (s ++ '\n' :: t) = trimChars s :: trimmedLines t := by
  rw [trimmedLines, List.splitOn_append_cons_self_of_not_mem hs, List.map_cons, trimmedLines]

/-- The carriage return of a line end is a blank at the end of its line. -/
theorem Joined.trimmedLines_eq (h : Joined ls t) (hls : ∀ l ∈ ls, '\n' ∉ l) :
    trimmedLines t = ls.map trimChars := by
  induction h with
  | last l =>
    rw [trimmedLines, List.splitOn_eq_singleton (hls l List.mem_cons_self), List.map_singleton]
  | @cons l e t ls he _ ih =>
    obtain ⟨hl, hls⟩ := List.forall_mem_cons.1 hls
    rw [List.append_assoc, List.map_cons, ← ih hls]
    cases he with
    | feed => exact trimmedLines_append_feed hl t
    | returnFeed =>
      have hl' : '\n' ∉ l ++ ['\r'] := by
        rw [List.mem_append, not_or]
        exact ⟨hl, by decide⟩
      have hline : l ++ (['\r', '\n'] ++ t) = (l ++ ['\r']) ++ '\n' :: t := by
        rw [List.append_assoc]
        rfl
      rw [hline, trimmedLines_append_feed hl', trimChars_append_singleton (by decide)]

/-! ### Lines with padding -/

/-- The text is these lines, each with any padding on both sides of it, and with a line end between
any two. -/
inductive LaidOut : List (List Char) → List Char → Prop
  | last {a l b : List Char} (ha : Padding a) (hb : Padding b) : LaidOut [l] (a ++ (l ++ b))
  | cons {a l b e t : List Char} {ls : List (List Char)} (ha : Padding a) (hb : Padding b)
      (he : LineEnd e) (h : LaidOut ls t) : LaidOut (l :: ls) (a ++ (l ++ b) ++ e ++ t)

theorem feed_not_mem_padded {a l b : List Char} (ha : Padding a) (hl : '\n' ∉ l) (hb : Padding b) :
    '\n' ∉ a ++ (l ++ b) := by
  rw [List.mem_append, List.mem_append, not_or, not_or]
  exact ⟨ha.feed_not_mem, hl, hb.feed_not_mem⟩

theorem trimChars_padded {a b : List Char} (ha : Padding a) (hb : Padding b) (l : List Char) :
    trimChars (a ++ (l ++ b)) = trimChars l := by
  rw [trimChars_blank_append ha.blank, trimChars_append_blank hb.blank]

/-- A text that is laid out is the padded lines put together, and these are the same lines when
they are trimmed. -/
theorem LaidOut.joined (h : LaidOut ls t) (hls : ∀ l ∈ ls, '\n' ∉ l) :
    ∃ ps, Joined ps t ∧ (∀ p ∈ ps, '\n' ∉ p) ∧ ps.map trimChars = ls.map trimChars := by
  induction h with
  | @last a l b ha hb =>
    have hl : '\n' ∉ l := hls l List.mem_cons_self
    refine ⟨[a ++ (l ++ b)], .last _, fun p hp => ?_, ?_⟩
    · rw [List.mem_singleton.1 hp]
      exact feed_not_mem_padded ha hl hb
    · rw [List.map_singleton, List.map_singleton, trimChars_padded ha hb]
  | @cons a l b e t ls ha hb he _ ih =>
    obtain ⟨hl, hls⟩ := List.forall_mem_cons.1 hls
    obtain ⟨ps, hjoined, hps, hmap⟩ := ih hls
    refine ⟨(a ++ (l ++ b)) :: ps, .cons he hjoined, ?_, ?_⟩
    · exact List.forall_mem_cons.2 ⟨feed_not_mem_padded ha hl hb, hps⟩
    · rw [List.map_cons, List.map_cons, trimChars_padded ha hb, hmap]

theorem LaidOut.trimmedLines_eq (h : LaidOut ls t) (hls : ∀ l ∈ ls, '\n' ∉ l) :
    trimmedLines t = ls.map trimChars := by
  obtain ⟨ps, hjoined, hps, hmap⟩ := h.joined hls
  rw [hjoined.trimmedLines_eq hps, hmap]

section Outputs

variable {lines : List String} {output : String}

/-- Neither padding nor the kind of line ends shows in the lines of an output. -/
theorem splitLines_of_laidOut (h : LaidOut (lines.map String.toList) output.toList)
    (hlines : ∀ l ∈ lines, '\n' ∉ l.toList) : splitLines output = lines.map trim := by
  rw [splitLines, h.trimmedLines_eq (List.forall_mem_map.2 hlines), List.map_map, List.map_map]
  rfl

/-- The lines that are not blank are kept. -/
theorem nonEmptyLines_of_laidOut (h : LaidOut (lines.map String.toList) output.toList)
    (hlines : ∀ l ∈ lines, '\n' ∉ l.toList) :
    nonEmptyLines output = (lines.filter (!allBlank ·)).map trim := by
  rw [nonEmptyLines, h.trimmedLines_eq (List.forall_mem_map.2 hlines), List.map_map,
    List.filter_map, List.map_map]
  have hkept : ∀ l ∈ lines, ((!·.isEmpty) ∘ trimChars ∘ String.toList) l = !allBlank l := by
    intro l _
    show (!(trimChars l.toList).isEmpty) = !allBlank l
    rw [Bool.eq_iff_iff, Bool.not_eq_true', Bool.not_eq_true', ← Bool.not_eq_true,
      ← Bool.not_eq_true, not_iff_not, List.isEmpty_iff, trimChars_eq_nil_iff, allBlank,
      List.all_eq_true]
  rw [List.filter_congr hkept]
  rfl

end Outputs

end RemoteHost.Text
