/-
RemoteHost/Proofs/Text/Search.lean

Where a search for a piece of text finds nothing, and where it finds it.

A text is `quiet` for a piece when the piece begins nowhere in it, whatever follows: at
every place the two differ before either of them ends (`clash`).  A search goes through
quiet text to what is behind it (`cut_append`), and quiet texts make up a quiet text
(`quiet_append`).  Text that is not known in full is quiet when it ends with a character
that the piece does not have (`quiet_append_cons`), or has only once (`quiet_between`).

What a text contains is what its parts contain where a text stands between them that the
piece cannot go over (`separates`, `occurs_append_separator`), or one with a character that the
piece does not have, which the piece reaches from neither side (`parts`, `occurs_append_parts`).
-/
import Mathlib.Data.List.TakeWhile
import RemoteHost.Text.Search

namespace RemoteHost.Text

variable {pat s t u v : List Char} {c : Char}

/-! ### Pieces that do not begin here -/

/-- The piece and the text have different characters at a place that is in both. -/
def clash : List Char → List Char → Bool
  | a :: pat, b :: s => a != b || clash pat s
  | _, _ => false

theorem clash_append (h : clash pat s) (t : List Char) : clash pat (s ++ t) := by
  induction pat generalizing s with
  | nil => cases h
  | cons a pat ih =>
    cases s with
    | nil => cases h
    | cons b s =>
      rw [clash, Bool.or_eq_true] at h
      rw [List.cons_append, clash, Bool.or_eq_true]
      exact h.imp_right ih

theorem isPrefixOf_eq_false_of_clash (h : clash pat s) : pat.isPrefixOf s = false := by
  induction pat generalizing s with
  | nil => cases h
  | cons a pat ih =>
    cases s with
    | nil => rfl
    | cons b s =>
      rw [clash, Bool.or_eq_true, bne_iff_ne] at h
      rw [List.isPrefixOf]
      rcases h with h | h
      · rw [beq_false_of_ne h, Bool.false_and]
      · rw [ih h, Bool.and_false]

/-- A character that the piece does not have ends it. -/
theorem clash_of_not_mem (hc : c ∉ pat) (hs : ¬ pat <+: s) (t : List Char) :
    clash pat (s ++ c :: t) := by
  induction pat generalizing s with
  | nil => exact absurd List.nil_prefix hs
  | cons a pat ih =>
    rw [List.mem_cons, not_or] at hc
    cases s with
    | nil =>
      rw [List.nil_append, clash, Bool.or_eq_true, bne_iff_ne]
      exact .inl (Ne.symm hc.1)
    | cons b s =>
      rw [List.cons_append, clash, Bool.or_eq_true, bne_iff_ne]
      by_cases hab : a = b
      · subst hab
        rw [List.prefix_cons_inj] at hs
        exact .inr (ih hc.2 hs)
      · exact .inl hab

/-- A character stands in the piece and in the text behind something that does not have
it: then what stands before it is the same, or the two clash. -/
theorem clash_of_ne (hpat : c ∉ pat) (hs : c ∉ s) (hne : pat ≠ s) (u v : List Char) :
    clash (pat ++ c :: u) (s ++ c :: v) := by
  induction pat generalizing s with
  | nil =>
    cases s with
    | nil => exact absurd rfl hne
    | cons b s =>
      rw [List.mem_cons, not_or] at hs
      rw [List.nil_append, List.cons_append, clash, Bool.or_eq_true, bne_iff_ne]
      exact .inl hs.1
  | cons a pat ih =>
    rw [List.mem_cons, not_or] at hpat
    cases s with
    | nil =>
      rw [List.nil_append, List.cons_append, clash, Bool.or_eq_true, bne_iff_ne]
      exact .inl (Ne.symm hpat.1)
    | cons b s =>
      rw [List.mem_cons, not_or] at hs
      rw [List.cons_append, List.cons_append, clash, Bool.or_eq_true, bne_iff_ne]
      by_cases hab : a = b
      · subst hab
        exact .inr (ih hpat.2 hs.2 fun h => hne (h ▸ rfl))
      · exact .inl hab

theorem clash_append_append (h : clash pat s) (u : List Char) :
    clash (u ++ pat) (u ++ s) := by
  induction u with
  | nil => exact h
  | cons a u ih =>
    rw [List.cons_append, List.cons_append, clash, Bool.or_eq_true]
    exact .inr ih

/-! ### Quiet text -/

/-- The piece begins nowhere in the text, whatever follows it. -/
def quiet (pat : List Char) : List Char → Bool
  | [] => true
  | c :: s => clash pat (c :: s) && quiet pat s

theorem quiet_append (hs : quiet pat s) (ht : quiet pat t) : quiet pat (s ++ t) := by
  induction s with
  | nil => exact ht
  | cons c s ih =>
    rw [quiet, Bool.and_eq_true] at hs
    rw [List.cons_append, quiet, Bool.and_eq_true]
    exact ⟨clash_append hs.1 t, ih hs.2⟩

theorem quiet_ofList (h : quiet pat s) : quiet pat (String.ofList s).toList := by
  rwa [String.toList_ofList]

theorem quiet_flatMap {α : Type} {f : α → List Char} {xs : List α}
    (h : ∀ x ∈ xs, quiet pat (f x)) : quiet pat (xs.flatMap f) := by
  induction xs with
  | nil => rfl
  | cons x xs ih =>
    rw [List.flatMap_cons]
    exact quiet_append (h x List.mem_cons_self) (ih fun y hy => h y (List.mem_cons_of_mem x hy))

/-- A text without the first character of the piece is quiet. -/
theorem quiet_of_not_mem {a : Char} (h : a ∉ s) : quiet (a :: pat) s := by
  induction s with
  | nil => rfl
  | cons c s ih =>
    rw [List.mem_cons, not_or] at h
    rw [quiet, clash, Bool.and_eq_true, Bool.or_eq_true, bne_iff_ne]
    exact ⟨.inl h.1, ih h.2⟩

/-- A text that does not have the piece is quiet up to a character that the piece does not
have. -/
theorem quiet_append_cons (hc : c ∉ pat) (hs : ¬ pat <:+: s) (ht : quiet pat t) :
    quiet pat (s ++ c :: t) := by
  induction s with
  | nil =>
    rw [List.nil_append, quiet, Bool.and_eq_true]
    have hnil : ¬ pat <+: [] := fun h => hs h.isInfix
    exact ⟨clash_of_not_mem hc hnil t, ht⟩
  | cons a s ih =>
    rw [List.cons_append, quiet, Bool.and_eq_true]
    exact ⟨clash_of_not_mem hc (fun h => hs h.isInfix) t,
      ih fun h => hs (h.trans (List.suffix_cons a s).isInfix)⟩

/-- A piece with a character in the middle begins in a text up to its first such character
only where what stands before it does, and goes on behind it. -/
theorem quiet_between (hpat : c ∉ pat) (hs : c ∉ s) (h : ¬ pat <:+ s ∨ clash u t)
    (ht : quiet (pat ++ c :: u) t) : quiet (pat ++ c :: u) (s ++ c :: t) := by
  have hclash : ∀ s' : List Char, c ∉ s' → s' <:+ s →
      clash (pat ++ c :: u) (s' ++ c :: t) := by
    intro s' hs' hsuffix
    by_cases hne : pat = s'
    · subst hne
      rcases h with h | h
      · exact absurd hsuffix h
      · refine clash_append_append ?_ pat
        rw [clash, Bool.or_eq_true]
        exact .inr h
    · exact clash_of_ne hpat hs' hne u t
  -- The condition is about the end of the text, so it goes over to the parts behind.
  clear h
  induction s with
  | nil =>
    rw [List.nil_append, quiet, Bool.and_eq_true]
    exact ⟨hclash [] hs List.nil_suffix, ht⟩
  | cons a s ih =>
    rw [List.cons_append, quiet, Bool.and_eq_true]
    rw [List.mem_cons, not_or] at hs
    refine ⟨hclash (a :: s) (by simp [hs.1, hs.2]) List.suffix_rfl, ih hs.2 ?_⟩
    intro s' hs' hsuffix
    exact hclash s' hs' (hsuffix.trans (List.suffix_cons a s))

/-- A text that is split is split at the first such character. -/
theorem eq_append_of_splitOnce (h : splitOnce c s = some (t, u)) : s = t ++ c :: u ∧ c ∉ t := by
  induction s generalizing t with
  | nil => cases h
  | cons d s ih =>
    rw [splitOnce] at h
    split at h
    · next hd =>
      obtain ⟨rfl, rfl⟩ := Prod.mk.inj (Option.some.inj h)
      exact ⟨by rw [hd]; rfl, List.not_mem_nil⟩
    · next hd =>
      obtain ⟨⟨t', u'⟩, h', e⟩ := Option.map_eq_some_iff.1 h
      obtain ⟨rfl, rfl⟩ := Prod.mk.inj e
      obtain ⟨rfl, ht⟩ := ih h'
      exact ⟨rfl, by rw [List.mem_cons, not_or]; exact ⟨Ne.symm hd, ht⟩⟩

/-- The text begins with the character, which the piece has, too, and goes on otherwise than the
piece.  The piece does not begin behind it. -/
def fences (c : Char) (pat lit : List Char) : Bool :=
  match splitOnce c pat, lit with
  | some (_, u), d :: t => d == c && clash u t && quiet pat t
  | _, _ => false

theorem fences_ofList (h : fences c pat s) : fences c pat (String.ofList s).toList := by
  rwa [String.toList_ofList]

/-- A piece does not begin in a text without the character that fences it. -/
theorem quiet_append_fences {lit : List Char} (h : fences c pat lit) (hs : c ∉ s)
    (ht : quiet pat t) : quiet pat (s ++ (lit ++ t)) := by
  unfold fences at h
  split at h
  · next a u d v hpat =>
    rw [Bool.and_eq_true, Bool.and_eq_true, beq_iff_eq] at h
    obtain ⟨⟨rfl, hclash⟩, hv⟩ := h
    obtain ⟨rfl, ha⟩ := eq_append_of_splitOnce hpat
    exact quiet_between ha hs (.inr (clash_append hclash t)) (quiet_append hv ht)
  · cases h

/-! ### Cuts -/

/-- A cut goes through quiet text. -/
theorem cut_append (h : quiet pat s) (t : List Char) :
    cut pat (s ++ t) = (cut pat t).map fun r => (s ++ r.1, r.2) := by
  induction s with
  | nil =>
    rw [List.nil_append]
    cases cut pat t <;> rfl
  | cons c s ih =>
    rw [quiet, Bool.and_eq_true] at h
    have hp : pat.isPrefixOf (c :: (s ++ t)) = false :=
      isPrefixOf_eq_false_of_clash (clash_append h.1 t)
    rw [List.cons_append, cut, hp, ih h.2, Option.map_map]
    rfl

theorem cut_self (pat t : List Char) : cut pat (pat ++ t) = some ([], t) := by
  cases hp : pat ++ t with
  | nil =>
    obtain ⟨rfl, rfl⟩ := List.append_eq_nil_iff.1 hp
    rfl
  | cons c s =>
    have hprefix : pat.isPrefixOf (c :: s) = true := by
      rw [List.isPrefixOf_iff_prefix, ← hp]
      exact List.prefix_append pat t
    rw [cut, if_pos hprefix, ← hp, List.drop_left]

/-- Behind quiet text the piece is found where it stands. -/
theorem cut_append_self (h : quiet pat s) (t : List Char) :
    cut pat (s ++ (pat ++ t)) = some (s, t) := by
  rw [cut_append h, cut_self, Option.map_some, List.append_nil]

/-- A piece that has its first character only once is found behind a text that does not have the
piece. -/
theorem cut_of_not_isInfix {a : Char} (ha : a ∉ pat) (hs : ¬ a :: pat <:+: s) (t : List Char) :
    cut (a :: pat) (s ++ (a :: pat ++ t)) = some (s, t) := by
  induction s with
  | nil => exact cut_self (a :: pat) t
  | cons b s ih =>
    have hprefix : ¬ a :: pat <+: b :: s := fun h => hs h.isInfix
    have hclash : clash (a :: pat) (b :: (s ++ a :: (pat ++ t))) := by
      rw [clash, Bool.or_eq_true, bne_iff_ne]
      by_cases hab : a = b
      · subst hab
        rw [List.prefix_cons_inj] at hprefix
        -- What stands behind here is ended by the first character of the piece.
        exact .inr (clash_of_not_mem ha hprefix (pat ++ t))
      · exact .inl hab
    have hp : (a :: pat).isPrefixOf (b :: (s ++ (a :: pat ++ t))) = false :=
      isPrefixOf_eq_false_of_clash hclash
    have hs' : ¬ a :: pat <:+: s := fun h => hs (h.trans (List.suffix_cons b s).isInfix)
    rw [List.cons_append, cut, hp, ih hs']
    rfl

/-- No cut is found in quiet text. -/
theorem cut_eq_none (hpat : pat ≠ []) (h : quiet pat s) : cut pat s = none := by
  have h' := cut_append h []
  rw [List.append_nil, cut, if_neg (by simpa using hpat)] at h'
  exact h'

/-! ### Replacement -/

/-- Nothing is replaced in quiet text. -/
theorem replaceChars_append (h : quiet pat s) (new t : List Char) :
    replaceChars pat new 0 (s ++ t) = s ++ replaceChars pat new 0 t := by
  induction s with
  | nil => rfl
  | cons c s ih =>
    rw [quiet, Bool.and_eq_true] at h
    have hp : pat.isPrefixOf (c :: (s ++ t)) = false :=
      isPrefixOf_eq_false_of_clash (clash_append h.1 t)
    rw [List.cons_append, replaceChars, hp, if_neg Bool.false_ne_true, ih h.2, List.cons_append]

/-- What belongs to a piece that has been replaced is left out. -/
theorem replaceChars_skip (pat new t : List Char) :
    replaceChars pat new s.length (s ++ t) = replaceChars pat new 0 t := by
  induction s with
  | nil => rfl
  | cons c s ih => rw [List.length_cons, List.cons_append, replaceChars, ih]

theorem replaceChars_self (hpat : pat ≠ []) (new t : List Char) :
    replaceChars pat new 0 (pat ++ t) = new ++ replaceChars pat new 0 t := by
  obtain ⟨c, s, rfl⟩ := List.exists_cons_of_ne_nil hpat
  have hp : (c :: s).isPrefixOf (c :: (s ++ t)) := by
    rw [List.isPrefixOf_iff_prefix, ← List.cons_append]
    exact List.prefix_append (c :: s) t
  rw [List.cons_append, replaceChars, if_pos hp, List.length_cons, Nat.add_sub_cancel,
    replaceChars_skip]

/-- A single character is replaced wherever it stands. -/
theorem replaceChars_singleton (c : Char) (new s : List Char) :
    replaceChars [c] new 0 s = s.flatMap fun d => if d = c then new else [d] := by
  induction s with
  | nil => rfl
  | cons d s ih =>
    rw [List.flatMap_cons, ← ih]
    by_cases hd : d = c
    · subst hd
      rw [if_pos rfl]
      exact replaceChars_self (List.cons_ne_nil d []) new s
    · have hp : [c].isPrefixOf (d :: s) = false := by simp [List.isPrefixOf, Ne.symm hd]
      rw [if_neg hd, replaceChars, hp]
      rfl

theorem splitOnce_append (h : c ∉ s) (t : List Char) :
    splitOnce c (s ++ c :: t) = some (s, t) := by
  induction s with
  | nil => simp [splitOnce]
  | cons d s ih =>
    rw [List.mem_cons, not_or] at h
    rw [List.cons_append, splitOnce, if_neg (Ne.symm h.1), ih h.2]
    rfl

theorem not_mem_of_splitOnce (h : splitOnce c s = none) : c ∉ s := by
  induction s with
  | nil => exact List.not_mem_nil
  | cons d s ih =>
    rw [splitOnce] at h
    split at h
    · cases h
    · next hd =>
      rw [List.mem_cons, not_or]
      exact ⟨Ne.symm hd, ih (Option.map_eq_none_iff.1 h)⟩

/-- A text is split at the last character of a kind, or has none. -/
theorem split_at_last (c : Char) (s : List Char) :
    (c ∉ s ∧ (s.reverse.takeWhile (· ≠ c)).reverse = s) ∨
      ∃ front tail, s = front ++ c :: tail ∧ c ∉ tail ∧
        (s.reverse.takeWhile (· ≠ c)).reverse = tail ∧
        s.take (s.length - tail.length - 1) = front := by
  by_cases hc : c ∈ s
  · obtain ⟨as, bs, hs, has⟩ := List.eq_append_cons_of_mem (List.mem_reverse.2 hc)
    have htake : s.reverse.takeWhile (· ≠ c) = as := by
      have hpos : ∀ d ∈ as, decide (d ≠ c) := by
        intro d hd
        refine decide_eq_true ?_
        rintro rfl
        exact has hd
      rw [hs, List.takeWhile_append_of_pos hpos, List.takeWhile_cons_of_neg (by simp),
        List.append_nil]
    have hs' : s = bs.reverse ++ c :: as.reverse := by
      rw [← List.reverse_reverse s, hs, List.reverse_append, List.reverse_cons, List.append_assoc]
      rfl
    refine .inr ⟨bs.reverse, as.reverse, hs', fun h => has (List.mem_reverse.1 h), by rw [htake], ?_⟩
    have hlen : s.length - as.reverse.length - 1 = bs.reverse.length := by
      rw [hs', List.length_append, List.length_cons]
      omega
    rw [hlen, hs', List.take_left]
  · left
    have hpos : ∀ d ∈ s.reverse, decide (d ≠ c) := by
      intro d hd
      refine decide_eq_true ?_
      rintro rfl
      exact hc (List.mem_reverse.1 hd)
    rw [List.takeWhile_eq_self_iff.2 hpos, List.reverse_reverse]
    exact ⟨hc, rfl⟩

/-- A text has one last character of a kind. -/
theorem eq_of_append_cons {s' t' : List Char} (ht : c ∉ t) (ht' : c ∉ t')
    (h : s ++ c :: t = s' ++ c :: t') : s = s' ∧ t = t' := by
  rcases List.append_eq_append_iff.1 h with ⟨as, rfl, has⟩ | ⟨as, rfl, has⟩
  · cases as with
    | nil => exact ⟨(List.append_nil s).symm, (List.cons.inj has).2⟩
    | cons a as =>
      rw [(List.cons.inj has).2] at ht
      exact absurd (List.mem_append_right as List.mem_cons_self) ht
  · cases as with
    | nil => exact ⟨List.append_nil s', (List.cons.inj has).2.symm⟩
    | cons a as =>
      rw [(List.cons.inj has).2] at ht'
      exact absurd (List.mem_append_right as List.mem_cons_self) ht'

/-! ### What a text contains -/

theorem occurs_iff : occurs pat s ↔ pat <:+: s := by
  induction s with
  | nil =>
    rw [List.infix_nil, occurs, cut]
    cases pat <;> simp
  | cons c s ih =>
    rw [List.infix_cons_iff, ← List.isPrefixOf_iff_prefix, ← ih, occurs, cut]
    cases hp : pat.isPrefixOf (c :: s)
    · simp [occurs]
    · simp

theorem cut_eq_none_iff : cut pat s = none ↔ ¬ pat <:+: s := by
  rw [← occurs_iff, occurs, Bool.not_eq_true, Option.isSome_eq_false_iff, Option.isNone_iff_eq_none]

/-- A character that the piece does not have keeps apart what stands around it. -/
theorem isInfix_append_cons (hc : c ∉ pat) :
    pat <:+: s ++ c :: t ↔ pat <:+: s ∨ pat <:+: t := by
  constructor
  · intro h
    by_cases hs : pat <:+: s
    · exact .inl hs
    · right
      rw [← occurs_iff] at h ⊢
      have hquiet : quiet pat (s ++ [c]) := quiet_append_cons hc hs rfl
      rw [List.append_cons, occurs, cut_append hquiet, Option.isSome_map] at h
      exact h
  · rintro (h | h)
    · exact h.trans (List.prefix_append s (c :: t)).isInfix
    · exact h.trans ((List.suffix_cons c t).trans (List.suffix_append s (c :: t))).isInfix

/-- The text does not have the piece, and the piece has neither its first nor its last
character. -/
def separates (pat s : List Char) : Bool :=
  s.head?.any (fun c => !pat.contains c) && s.getLast?.any (fun c => !pat.contains c) &&
    !occurs pat s

/-- No piece goes over a text that separates. -/
theorem occurs_append_separator (h : separates pat t) (s u : List Char) :
    occurs pat (s ++ (t ++ u)) = (occurs pat s || occurs pat u) := by
  rw [separates, Bool.and_eq_true, Bool.and_eq_true, Bool.not_eq_true', ← Bool.not_eq_true,
    occurs_iff] at h
  obtain ⟨⟨hfirst, hlast⟩, ht⟩ := h
  rw [Bool.eq_iff_iff, Bool.or_eq_true, occurs_iff, occurs_iff, occurs_iff]
  cases t with
  | nil => cases hfirst
  | cons c t =>
    have hc : c ∉ pat := by simpa using hfirst
    rw [List.cons_append, isInfix_append_cons hc]
    refine or_congr_right ?_
    rcases List.eq_nil_or_concat t with rfl | ⟨t, d, rfl⟩
    · rfl
    · have hd : d ∉ pat := by simpa [List.getLast?_cons] using hlast
      rw [List.concat_eq_append] at ht ⊢
      have ht' : ¬ pat <:+: t := fun h' =>
        ht (h'.trans ((List.prefix_append t [d]).isInfix.trans (List.suffix_cons c _).isInfix))
      rw [← List.append_cons, isInfix_append_cons hd]
      exact or_iff_right ht'

/-- Text without the characters of the piece in front of another text does not matter. -/
theorem occurs_append_of_forall_not_mem (hpat : pat ≠ []) (hs : ∀ c ∈ s, c ∉ pat) :
    occurs pat (s ++ t) = occurs pat t := by
  rw [Bool.eq_iff_iff, occurs_iff, occurs_iff]
  induction s with
  | nil => rfl
  | cons c s ih =>
    rw [List.forall_mem_cons] at hs
    rw [List.cons_append, List.infix_cons_iff, ih hs.2, or_iff_right]
    intro hprefix
    cases pat with
    | nil => exact hpat rfl
    | cons a pat =>
      obtain rfl : a = c := (List.cons_prefix_cons.1 hprefix).1
      exact hs.1 List.mem_cons_self

theorem occurs_reverse (pat s : List Char) : occurs pat.reverse s.reverse = occurs pat s := by
  rw [Bool.eq_iff_iff, occurs_iff, occurs_iff, List.reverse_infix]

/-- A piece does not begin in quiet text. -/
theorem occurs_append_of_quiet (h : quiet pat s) (t : List Char) :
    occurs pat (s ++ t) = occurs pat t := by
  rw [occurs, cut_append h, Option.isSome_map, occurs]

/-- A piece does not end in text that is quiet backwards. -/
theorem occurs_append_of_quiet_reverse (h : quiet pat.reverse s.reverse) (t : List Char) :
    occurs pat (t ++ s) = occurs pat t := by
  rw [← occurs_reverse, List.reverse_append, occurs_append_of_quiet h, occurs_reverse]

/-- The text has the character, which the piece does not have.  The piece does not end in front of
it and does not begin behind it. -/
def parts (c : Char) (pat lit : List Char) : Bool :=
  match splitOnce c lit with
  | some (s, t) => !pat.contains c && quiet pat.reverse s.reverse && quiet pat t
  | none => false

/-- No piece goes over a text that parts. -/
theorem occurs_append_parts {lit : List Char} (h : parts c pat lit) (s u : List Char) :
    occurs pat (s ++ (lit ++ u)) = (occurs pat s || occurs pat u) := by
  unfold parts at h
  split at h
  · next x y hlit =>
    rw [Bool.and_eq_true, Bool.and_eq_true] at h
    obtain ⟨⟨hc, hx⟩, hy⟩ := h
    have hc : c ∉ pat := by simpa using hc
    rw [(eq_append_of_splitOnce hlit).1, List.append_assoc, ← List.append_assoc, List.cons_append,
      ← occurs_append_of_quiet_reverse hx s, ← occurs_append_of_quiet hy u, Bool.eq_iff_iff,
      Bool.or_eq_true, occurs_iff, occurs_iff, occurs_iff, isInfix_append_cons hc]
  · cases h

/-! ### Pieces of strings -/

variable {piece : String}

/-- The piece is replaced where it stands behind quiet text. -/
theorem replace_append_self {a : String} (hpiece : piece ≠ "") (h : quiet piece.toList a.toList)
    (new : String) : replace (a ++ piece) piece new = a ++ new := by
  have hpat : piece.toList ≠ [] := fun h' => hpiece (String.toList_inj.1 h')
  have hself := replaceChars_self hpat new.toList []
  rw [List.append_nil, replaceChars, List.append_nil] at hself
  rw [replace, String.toList_append, replaceChars_append h, hself, ← String.toList_append,
    String.ofList_toList]

/-- A piece of a single character is replaced wherever it stands. -/
theorem toList_replace_of_singleton (h : piece.toList = [c]) (a new : String) :
    (replace a piece new).toList =
      a.toList.flatMap fun d => if d = c then new.toList else [d] := by
  rw [replace, String.toList_ofList, h, replaceChars_singleton]

theorem contains_append_separator {lit : String} (h : separates piece.toList lit.toList)
    (a b : String) :
    contains (a ++ lit ++ b) piece = (contains a piece || contains b piece) := by
  rw [contains, String.toList_append, String.toList_append, List.append_assoc,
    occurs_append_separator h]
  rfl

theorem dropPrefix?_append (s t : String) : dropPrefix? (s ++ t) s = some t := by
  have h : s.toList.isPrefixOf (s ++ t).toList = true := by
    rw [List.isPrefixOf_iff_prefix, String.toList_append]
    exact List.prefix_append _ _
  rw [dropPrefix?, if_pos h, String.toList_append, List.drop_left, String.ofList_toList]

theorem contains_between (a s b : String) : contains (a ++ s ++ b) s := by
  rw [contains, occurs_iff, String.toList_append, String.toList_append]
  exact ⟨a.toList, b.toList, rfl⟩

/-- What is in a text that is in another one is in that one, too. -/
theorem contains_trans {a b : String} (hab : contains b a) (h : contains a piece) :
    contains b piece := by
  rw [contains, occurs_iff] at *
  exact h.trans hab

end RemoteHost.Text
