/-
RemoteHost/Proofs/PowerShell/Literals.lean

How PowerShell reads the string literals of a script.

A script is cut at its literals between single quotes (`read?`): what is left are the
value of each literal and the text before it, and the text behind the last one (`Parts`).
Five characters quote, and inside of a literal two of them in a row stand for one.

Texts are put into scripts by `quote`, which writes the apostrophe twice and none of the
other four (`Parts.render`).  So a script is read as the parts that it was made of exactly
when no value has one of these (`read?_render_iff`).  That it is not read so otherwise
follows from its length: reading takes every character into account (`cost_read?`), and
a quoting character in a value takes two.

A value with some of these may still be read as one literal, but as another value
(`literal?`, `readAll_render`).  However a script is read, the literals before the first
such value are read as they are meant, and so is the text before this one
(`fills_of_read?_render`).
-/
import Mathlib.Algebra.GroupWithZero.Nat
import Mathlib.Algebra.Order.BigOperators.Group.List
import Mathlib.Algebra.Order.Group.Nat
import Mathlib.Data.List.Forall2
import RemoteHost.PowerShell

namespace RemoteHost.PowerShell

/-! ### The reader -/

/-- Quoting characters that are not the apostrophe. -/
def curlyQuotes : List Char := ['\u2018', '\u2019', '\u201a', '\u201b']

/-- The characters that begin and end a literal. -/
def quotes : List Char := '\'' :: curlyQuotes

/-- Characters, each behind some others, that begin something else than text outside of
literals: another kind of string, a comment, an escape, a name between braces, and arguments
that are not read at all. -/
def openers : List (List Char × Char) :=
  [([], '"'), ([], '\u201c'), ([], '\u201d'), ([], '\u201e'), ([], '@'), ([], '#'), ([], '\x60'),
    (['$'], '\x7b'), (['-', '-'], '%')]

/-- The character begins such a thing behind this text. -/
def opens (text : List Char) (c : Char) : Bool :=
  openers.any fun o => o.2 == c && o.1.isSuffixOf text

/-- The literals of a script, each with the text before it, and the text behind the last
one. -/
structure Parts where
  fills : List (String × String)
  last : String
  deriving DecidableEq, Repr

/-- Where the reader is. -/
inductive Spot where
  | outside
  /-- In a literal, of whose value this has been read. -/
  | inside (value : List Char)
  /-- Behind a quote that ends the literal or is the first one of two. -/
  | behind (value : List Char)

/-- What has been read: literals, and the text behind them. -/
structure Scan where
  fills : List (String × String)
  text : List Char
  spot : Spot

namespace Scan

/-- A literal ends, and text begins. -/
def settle (r : Scan) (value : List Char) : Scan :=
  ⟨r.fills ++ [(String.ofList r.text, String.ofList value)], [], .outside⟩

/-- Read one character outside of literals. -/
def textStep (r : Scan) (c : Char) : Option Scan :=
  if c ∈ quotes then some { r with spot := .inside [] }
  else if opens r.text c then none
  else some { r with text := r.text ++ [c] }

/-- Read one character. -/
def step (r : Scan) (c : Char) : Option Scan :=
  match r.spot with
  | .outside => r.textStep c
  | .inside v =>
    if c ∈ quotes then some { r with spot := .behind v }
    else some { r with spot := .inside (v ++ [c]) }
  | .behind v =>
    if c ∈ quotes then some { r with spot := .inside (v ++ [c]) } else (r.settle v).textStep c

/-- The parts at the end of a script; none inside of a literal. -/
def finish (r : Scan) : Option Parts :=
  match r.spot with
  | .outside => some ⟨r.fills, String.ofList r.text⟩
  | .inside _ => none
  | .behind v => some ⟨(r.settle v).fills, ""⟩

/-- Read characters to the end of a script. -/
def readAll (r : Scan) (s : List Char) : Option Parts := s.foldlM step r >>= finish

end Scan

/-- The parts of a script. -/
def read? (script : String) : Option Parts := Scan.readAll ⟨[], [], .outside⟩ script.toList

/-! ### What reading takes into account -/

/-- The length of a value in its literal, where each quoting character takes two. -/
def valueCost (value : List Char) : Nat := value.length + value.countP (· ∈ quotes)

theorem valueCost_quote {c : Char} (h : c ∈ quotes) (v : List Char) :
    valueCost (v ++ [c]) = valueCost v + 2 := by
  simp [valueCost, h]
  omega

theorem valueCost_other {c : Char} (h : c ∉ quotes) (v : List Char) :
    valueCost (v ++ [c]) = valueCost v + 1 := by
  simp [valueCost, h]
  omega

/-- The length of a literal and the text before it. -/
def fillCost (f : String × String) : Nat := f.1.length + (2 + valueCost f.2.toList)

/-- The length of a script with these parts. -/
def Parts.cost (p : Parts) : Nat := (p.fills.map fillCost).sum + p.last.length

namespace Scan

variable {r q : Scan} {p : Parts} {c : Char} {s : List Char} {fills : List (String × String)}
  {text v : List Char}

theorem readAll_cons (r : Scan) (c : Char) (s : List Char) :
    r.readAll (c :: s) = r.step c >>= (·.readAll s) := by
  rw [readAll, List.foldlM_cons, bind_assoc]
  rfl

theorem readAll_cons_of_step (h : r.step c = some q) (s : List Char) :
    r.readAll (c :: s) = q.readAll s := by
  rw [readAll_cons, h]
  rfl

/-- How many characters have been read. -/
def cost (r : Scan) : Nat :=
  (r.fills.map fillCost).sum + r.text.length +
    match r.spot with
    | .outside => 0
    | .inside v => 1 + valueCost v
    | .behind v => 2 + valueCost v

theorem cost_settle (hspot : r.spot = .behind v) : (r.settle v).cost = r.cost := by
  simp [settle, cost, hspot, fillCost, Nat.add_assoc]

theorem cost_textStep (hspot : r.spot = .outside) (h : r.textStep c = some q) :
    q.cost = r.cost + 1 := by
  rw [textStep] at h
  split_ifs at h
  · cases h
    simp [cost, hspot, valueCost]
  · cases h
    simp [cost, hspot, Nat.add_assoc]

/-- Each character costs one. -/
theorem cost_step (h : r.step c = some q) : q.cost = r.cost + 1 := by
  -- A quote in a literal is paid at once; where another one follows, it was in the value.
  obtain ⟨fills, text, spot⟩ := r
  cases spot with
  | outside => exact cost_textStep rfl h
  | inside v =>
    simp only [step] at h
    split_ifs at h with hc
    · cases h
      simp only [cost]
      omega
    · cases h
      simp only [cost, valueCost_other hc]
      omega
  | behind v =>
    simp only [step] at h
    split_ifs at h with hc
    · cases h
      simp only [cost, valueCost_quote hc]
      omega
    · rw [cost_textStep rfl h, cost_settle rfl]

theorem cost_finish (h : r.finish = some p) : p.cost = r.cost := by
  obtain ⟨fills, text, spot⟩ := r
  cases spot with
  | outside =>
    cases h
    simp [Parts.cost, cost]
  | inside v => cases h
  | behind v =>
    cases h
    rw [← cost_settle (v := v) rfl]
    simp [Parts.cost, cost, settle]

theorem cost_readAll (h : r.readAll s = some p) : p.cost = r.cost + s.length := by
  induction s generalizing r with
  | nil => exact cost_finish h
  | cons c s ih =>
    rw [readAll_cons] at h
    obtain ⟨r₁, hstep, hrest⟩ := Option.bind_eq_some_iff.1 h
    rw [ih hrest, cost_step hstep, List.length_cons]
    omega

end Scan

/-- No character of a script is lost to its reader. -/
theorem cost_read? {script : String} {p : Parts} (h : read? script = some p) :
    p.cost = script.length := by
  rw [Scan.cost_readAll h, String.length_toList]
  exact Nat.zero_add _

/-! ### Scripts that are made of parts -/

/-- A text that has no quoting character but the apostrophe. -/
def Straight (s : String) : Prop := ∀ c ∈ s.toList, c ∉ curlyQuotes

theorem straight_iff_all {s : String} : s.toList.all (· ∉ curlyQuotes) ↔ Straight s := by
  simp only [Straight, List.all_eq_true, decide_eq_true_eq]

instance (s : String) : Decidable (Straight s) := decidable_of_iff _ straight_iff_all

/-- Text, after some more, that stays text: no literal begins in it, nor anything else. -/
def isPlainFrom (before : List Char) : List Char → Bool
  | [] => true
  | c :: s => c ∉ quotes && !opens before c && isPlainFrom (before ++ [c]) s

/-- Text that can stand between literals. -/
def isPlainText (s : String) : Bool := s ≠ "" && isPlainFrom [] s.toList

/-- The text of a script without its literals. -/
def Parts.texts (p : Parts) : List String := p.fills.map Prod.fst ++ [p.last]

/-- All texts of a script can stand between literals. -/
def Parts.isPlain (p : Parts) : Bool := p.texts.all isPlainText

/-- The script that is made of these parts. -/
def Parts.render (p : Parts) : String :=
  p.fills.foldr (fun f s => f.1 ++ (quote f.2 ++ s)) p.last

theorem render_nil (last : String) : Parts.render ⟨[], last⟩ = last := rfl

theorem render_cons (f : String × String) (fills : List (String × String)) (last : String) :
    Parts.render ⟨f :: fills, last⟩ = f.1 ++ (quote f.2 ++ Parts.render ⟨fills, last⟩) := rfl

/-- A value as it stands in a literal. -/
def doubled (s : List Char) : List Char :=
  s.flatMap fun c => if c = '\'' then ['\'', '\''] else [c]

theorem toList_quote (v : String) : (quote v).toList = '\'' :: (doubled v.toList ++ ['\'']) := by
  simp [quote, doubled]

theorem doubled_eq_self {s : List Char} (h : '\'' ∉ s) : doubled s = s := by
  induction s with
  | nil => rfl
  | cons c s ih =>
    rw [List.mem_cons, not_or] at h
    rw [doubled, List.flatMap_cons, if_neg (Ne.symm h.1), ← doubled, ih h.2]
    rfl

/-- A value without apostrophes stands in its literal as it is. -/
theorem quote_eq {v : String} (h : '\'' ∉ v.toList) : quote v = "'" ++ v ++ "'" := by
  have hvalue : (v.toList.flatMap fun c => if c = '\'' then ['\'', '\''] else [c]) = v.toList :=
    doubled_eq_self h
  rw [quote, hvalue, String.ofList_toList]

/-- What is read of a text inside of a literal, unless it ends the literal: of two quotes in a row
the second one. -/
def unquoted? : List Char → Option (List Char)
  | [] => some []
  | [c] => if c ∈ quotes then none else some [c]
  | c :: d :: s =>
    if c ∈ quotes then if d ∈ quotes then (unquoted? s).map (d :: ·) else none
    else (unquoted? (d :: s)).map (c :: ·)

/-- The value that is read in the literal of a value, if it is read as one literal. -/
def literal? (v : String) : Option String := (unquoted? (doubled v.toList)).map String.ofList

theorem unquoted?_cons {c : Char} (h : c ∉ quotes) (s : List Char) :
    unquoted? (c :: s) = (unquoted? s).map (c :: ·) := by
  cases s with
  | nil => simp [unquoted?, h]
  | cons d s => rw [unquoted?, if_neg h]

theorem unquoted?_doubled {s : List Char} (h : ∀ c ∈ s, c ∉ curlyQuotes) :
    unquoted? (doubled s) = some s := by
  induction s with
  | nil => rfl
  | cons c s ih =>
    rw [List.forall_mem_cons] at h
    rw [doubled, List.flatMap_cons, ← doubled]
    by_cases hc : c = '\''
    · -- two apostrophes, of which one is kept
      subst hc
      rw [if_pos rfl, List.cons_append, List.singleton_append, unquoted?, ih h.2]
      rfl
    · have hquote : c ∉ quotes := by
        rw [quotes, List.mem_cons, not_or]
        exact ⟨hc, h.1⟩
      rw [if_neg hc, List.singleton_append, unquoted?_cons hquote, ih h.2]
      rfl

/-- A straight value is read as it is. -/
theorem literal?_of_straight {v : String} (h : Straight v) : literal? v = some v := by
  rw [literal?, unquoted?_doubled h, Option.map_some, String.ofList_toList]

/-! ### Their length -/

/-- Only apostrophes are written twice. -/
theorem length_doubled (s : List Char) :
    (doubled s).length + s.countP (· ∈ curlyQuotes) = valueCost s := by
  induction s with
  | nil => rfl
  | cons c s ih =>
    rw [doubled, valueCost] at ih
    rw [doubled, valueCost, List.flatMap_cons, List.length_append, List.countP_cons,
      List.countP_cons, List.length_cons]
    -- an apostrophe gives two characters, a curly quote one that should have been two
    by_cases hc : c = '\''
    · subst hc
      simp [quotes, curlyQuotes] at ih ⊢
      omega
    · simp [quotes, hc] at ih ⊢
      omega

theorem length_quote (v : String) :
    (quote v).length + v.toList.countP (· ∈ curlyQuotes) = 2 + valueCost v.toList := by
  have hvalue := length_doubled v.toList
  rw [← String.length_toList, toList_quote, List.length_cons, List.length_append]
  change _ + 1 + 1 + _ = _
  omega

/-- A script is shorter than its parts by the quoting characters that were not written
twice. -/
theorem length_render (p : Parts) :
    p.render.length + (p.fills.map fun f => f.2.toList.countP (· ∈ curlyQuotes)).sum = p.cost := by
  obtain ⟨fills, last⟩ := p
  induction fills with
  | nil => simp [Parts.cost, render_nil]
  | cons f fills ih =>
    have hquote := length_quote f.2
    simp only [Parts.cost, List.map_cons, List.sum_cons, render_cons, String.length_append,
      fillCost] at ih ⊢
    omega

/-! ### Their reading -/

namespace Scan

variable {fills : List (String × String)} {text v s t : List Char} {c : Char}

theorem readAll_text (h : isPlainFrom text s) (fills : List (String × String)) (t : List Char) :
    readAll ⟨fills, text, .outside⟩ (s ++ t) = readAll ⟨fills, text ++ s, .outside⟩ t := by
  induction s generalizing text with
  | nil => rw [List.nil_append, List.append_nil]
  | cons c s ih =>
    rw [isPlainFrom, Bool.and_eq_true, Bool.and_eq_true, decide_eq_true_eq, Bool.not_eq_true'] at h
    obtain ⟨⟨hquote, hopener⟩, hrest⟩ := h
    have hstep : step ⟨fills, text, .outside⟩ c = some ⟨fills, text ++ [c], .outside⟩ := by
      change textStep _ c = _
      rw [textStep, if_neg hquote, if_neg (by rw [hopener]; exact Bool.false_ne_true)]
    rw [List.cons_append, readAll_cons_of_step hstep, ih hrest, List.append_assoc]
    rfl

theorem readAll_unquoted (h : unquoted? s = some v) (fills : List (String × String))
    (text value t : List Char) :
    readAll ⟨fills, text, .inside value⟩ (s ++ t) =
      readAll ⟨fills, text, .inside (value ++ v)⟩ t := by
  have hother : ∀ {c : Char}, c ∉ quotes → ∀ value,
      step ⟨fills, text, .inside value⟩ c = some ⟨fills, text, .inside (value ++ [c])⟩ :=
    fun hc _ => if_neg hc
  induction s using unquoted?.induct generalizing v value with
  | case1 =>
    cases h
    rw [List.nil_append, List.append_nil]
  | case2 c hc =>
    rw [unquoted?, if_pos hc] at h
    cases h
  | case3 c hc =>
    rw [unquoted?, if_neg hc] at h
    cases h
    exact readAll_cons_of_step (hother hc value) t
  | case4 c d s hc hd ih =>
    rw [unquoted?, if_pos hc, if_pos hd] at h
    obtain ⟨v', hv, rfl⟩ := Option.map_eq_some_iff.1 h
    have hfirst : step ⟨fills, text, .inside value⟩ c = some ⟨fills, text, .behind value⟩ :=
      if_pos hc
    have hsecond : step ⟨fills, text, .behind value⟩ d =
        some ⟨fills, text, .inside (value ++ [d])⟩ := if_pos hd
    rw [List.cons_append, readAll_cons_of_step hfirst, List.cons_append,
      readAll_cons_of_step hsecond, ih hv, List.append_assoc]
    rfl
  | case5 c d s hc hd =>
    rw [unquoted?, if_pos hc, if_neg hd] at h
    cases h
  | case6 c d s hc ih =>
    rw [unquoted?, if_neg hc] at h
    obtain ⟨v', hv, rfl⟩ := Option.map_eq_some_iff.1 h
    rw [List.cons_append, readAll_cons_of_step (hother hc value), ih hv, List.append_assoc]
    rfl

/-- A quote that no other one follows ends the literal. -/
theorem readAll_behind (ht : ∀ c ∈ t.head?, c ∉ quotes) (fills : List (String × String))
    (text v : List Char) :
    readAll ⟨fills, text, .behind v⟩ t =
      readAll ⟨fills ++ [(String.ofList text, String.ofList v)], [], .outside⟩ t := by
  cases t with
  | nil => rfl
  | cons c t =>
    have hstep : step ⟨fills, text, .behind v⟩ c = step (settle ⟨fills, text, .behind v⟩ v) c :=
      if_neg (ht c rfl)
    rw [readAll_cons, hstep, ← readAll_cons]
    rfl

theorem fills_textStep {r q : Scan} (h : r.textStep c = some q) : q.fills = r.fills := by
  rw [textStep] at h
  split_ifs at h
  · cases h
    rfl
  · cases h
    rfl

theorem fills_step {r q : Scan} (h : r.step c = some q) : r.fills <+: q.fills := by
  obtain ⟨fills, text, spot⟩ := r
  cases spot with
  | outside =>
    have hfills : q.fills = fills := fills_textStep h
    simp only [hfills, List.prefix_rfl]
  | inside v =>
    simp only [step] at h
    split_ifs at h
    · cases h
      exact List.prefix_rfl
    · cases h
      exact List.prefix_rfl
  | behind v =>
    simp only [step] at h
    split_ifs at h
    · cases h
      exact List.prefix_rfl
    · rw [fills_textStep h]
      exact List.prefix_append fills _

/-- Literals that have been read stay. -/
theorem fills_prefix_of_readAll {r : Scan} {p : Parts} (h : r.readAll s = some p) :
    r.fills <+: p.fills := by
  induction s generalizing r with
  | nil =>
    obtain ⟨fills, text, spot⟩ := r
    cases spot with
    | outside =>
      cases h
      exact List.prefix_rfl
    | inside v => cases h
    | behind v =>
      cases h
      exact List.prefix_append fills _
  | cons c s ih =>
    rw [readAll_cons] at h
    obtain ⟨q, hstep, hrest⟩ := Option.bind_eq_some_iff.1 h
    exact (fills_step hstep).trans (ih hrest)

/-- A literal is read together with the text before it. -/
theorem readAll_fill {f : String × String} {value : String} (htext : isPlainText f.1)
    (hvalue : literal? f.2 = some value) (ht : ∀ c ∈ t.head?, c ∉ quotes)
    (fills : List (String × String)) :
    readAll ⟨fills, [], .outside⟩ (f.1.toList ++ ((quote f.2).toList ++ t)) =
      readAll ⟨fills ++ [(f.1, value)], [], .outside⟩ t := by
  rw [isPlainText, Bool.and_eq_true] at htext
  obtain ⟨v, hv, rfl⟩ := Option.map_eq_some_iff.1 hvalue
  have hquote : (quote f.2).toList ++ t = '\'' :: (doubled f.2.toList ++ '\'' :: t) := by
    rw [toList_quote, List.cons_append, List.append_assoc]
    rfl
  rw [readAll_text htext.2, hquote, readAll_cons_of_step
    (q := ⟨fills, [] ++ f.1.toList, .inside []⟩) rfl, readAll_unquoted hv,
    readAll_cons_of_step (q := ⟨fills, [] ++ f.1.toList, .behind ([] ++ v)⟩) rfl,
    readAll_behind ht, List.nil_append, List.nil_append, String.ofList_toList]

end Scan

theorem head?_not_mem_quotes {t : String} (h : isPlainText t) (s : String) :
    ∀ c ∈ (t ++ s).toList.head?, c ∉ quotes := by
  rw [isPlainText, Bool.and_eq_true, decide_eq_true_eq] at h
  obtain ⟨hne, hplain⟩ := h
  intro c hc
  cases hchars : t.toList with
  | nil => exact absurd (String.toList_eq_nil_iff.1 hchars) hne
  | cons d ds =>
    rw [String.toList_append, hchars] at hc
    obtain rfl : d = c := Option.some.inj hc
    rw [hchars, isPlainFrom, Bool.and_eq_true, Bool.and_eq_true, decide_eq_true_eq] at hplain
    exact hplain.1.1

theorem isPlain_cons {f : String × String} {fills : List (String × String)} {last : String} :
    Parts.isPlain ⟨f :: fills, last⟩ ↔ isPlainText f.1 ∧ Parts.isPlain ⟨fills, last⟩ := by
  rw [Parts.isPlain, Parts.texts, List.map_cons, List.cons_append, List.all_cons, Bool.and_eq_true]
  rfl

theorem isPlain_nil {last : String} : Parts.isPlain ⟨[], last⟩ ↔ isPlainText last := by
  simp [Parts.isPlain, Parts.texts]

theorem head?_render {p : Parts} (h : p.isPlain) : ∀ c ∈ p.render.toList.head?, c ∉ quotes := by
  obtain ⟨fills, last⟩ := p
  cases fills with
  | nil =>
    have hlast := head?_not_mem_quotes (isPlain_nil.1 h) ""
    rwa [String.append_empty] at hlast
  | cons f fills =>
    rw [render_cons]
    exact head?_not_mem_quotes (isPlain_cons.1 h).1 _

/-- The second one is what is read of the first one. -/
def ReadAs (f g : String × String) : Prop := g.1 = f.1 ∧ literal? f.2 = some g.2

theorem readAs_self {f : String × String} (h : Straight f.2) : ReadAs f f :=
  ⟨rfl, literal?_of_straight h⟩

theorem readAll_render {rest rest' : List (String × String)} {last : String}
    (h : Parts.isPlain ⟨rest, last⟩) (hvalues : List.Forall₂ ReadAs rest rest')
    (fills : List (String × String)) :
    Scan.readAll ⟨fills, [], .outside⟩ (Parts.render ⟨rest, last⟩).toList =
      some ⟨fills ++ rest', last⟩ := by
  -- The literals that have been read stand before those of the rest.
  induction hvalues generalizing fills with
  | nil =>
    rw [isPlain_nil, isPlainText, Bool.and_eq_true] at h
    rw [render_nil, ← List.append_nil last.toList, Scan.readAll_text h.2]
    simp [Scan.readAll, Scan.finish]
  | @cons f g rest rest' hvalue _ ih =>
    obtain ⟨htext, hrest⟩ := isPlain_cons.1 h
    obtain ⟨hg, hliteral⟩ := hvalue
    have hfill : (f.1, g.2) = g := Prod.ext hg.symm rfl
    rw [render_cons, String.toList_append, String.toList_append,
      Scan.readAll_fill htext hliteral (head?_render hrest), ih hrest, List.append_assoc, hfill]
    rfl

/-- Whatever is read in a literal, it is read together with the text before it. -/
theorem Scan.fills_of_readAll_inside {fills : List (String × String)} {text v s : List Char}
    {q : Parts} (h : readAll ⟨fills, text, .inside v⟩ s = some q ∨
      readAll ⟨fills, text, .behind v⟩ s = some q) :
    ∃ value, fills ++ [(String.ofList text, value)] <+: q.fills := by
  induction s generalizing v with
  | nil =>
    rcases h with h | h
    · cases h
    · cases h
      exact ⟨String.ofList v, List.prefix_rfl⟩
  | cons c s ih =>
    simp only [readAll_cons, step] at h
    by_cases hc : c ∈ quotes
    · -- a quote in a literal, be it the first one of two or the second
      rw [if_pos hc, if_pos hc] at h
      rcases h with h | h
      · exact ih (.inr h)
      · exact ih (.inl h)
    · rw [if_neg hc, if_neg hc] at h
      rcases h with h | h
      · exact ih (.inl h)
      · obtain ⟨r, hstep, hrest⟩ := Option.bind_eq_some_iff.1 h
        have hfills : r.fills = fills ++ [(String.ofList text, String.ofList v)] :=
          fills_textStep hstep
        refine ⟨String.ofList v, ?_⟩
        rw [← hfills]
        exact fills_prefix_of_readAll hrest

/-- Literals that are straight are read as they are meant, and so is the text before the next
one. -/
theorem fills_of_readAll_render {fs rest acc : List (String × String)} {f : String × String}
    {last : String} {q : Parts} (h : Parts.isPlain ⟨fs ++ f :: rest, last⟩)
    (hstraight : ∀ g ∈ fs, Straight g.2)
    (hread : Scan.readAll ⟨acc, [], .outside⟩ (Parts.render ⟨fs ++ f :: rest, last⟩).toList =
      some q) :
    ∃ value, acc ++ fs ++ [(f.1, value)] <+: q.fills := by
  -- What has been read grows by one straight literal after the other, up to the quote after `f.1`.
  induction fs generalizing acc with
  | nil =>
    obtain ⟨htext, -⟩ := isPlain_cons.1 h
    rw [isPlainText, Bool.and_eq_true] at htext
    rw [List.nil_append, render_cons, String.toList_append, Scan.readAll_text htext.2,
      String.toList_append, toList_quote, List.cons_append,
      Scan.readAll_cons_of_step (q := ⟨acc, [] ++ f.1.toList, .inside []⟩) rfl] at hread
    obtain ⟨value, hvalue⟩ := Scan.fills_of_readAll_inside (.inl hread)
    rw [List.nil_append, String.ofList_toList] at hvalue
    rw [List.append_nil]
    exact ⟨value, hvalue⟩
  | cons g fs ih =>
    rw [List.cons_append] at h hread
    obtain ⟨htext, hrest⟩ := isPlain_cons.1 h
    rw [List.forall_mem_cons] at hstraight
    rw [render_cons, String.toList_append, String.toList_append,
      Scan.readAll_fill htext (literal?_of_straight hstraight.1) (head?_render hrest)] at hread
    obtain ⟨value, hvalue⟩ := ih hrest hstraight.2 hread
    rw [List.append_assoc acc] at hvalue
    exact ⟨value, hvalue⟩

theorem fills_of_read?_render {fs rest : List (String × String)} {f : String × String}
    {last : String} {q : Parts} (h : Parts.isPlain ⟨fs ++ f :: rest, last⟩)
    (hstraight : ∀ g ∈ fs, Straight g.2)
    (hread : read? (Parts.render ⟨fs ++ f :: rest, last⟩) = some q) :
    ∃ value, fs ++ [(f.1, value)] <+: q.fills :=
  fills_of_readAll_render h hstraight hread

/-- **Literals are read back.**  A script that is made of parts is read as these parts exactly
when no value of a literal has a quoting character but the apostrophe. -/
theorem read?_render_iff {p : Parts} (h : p.isPlain) :
    read? p.render = some p ↔ ∀ f ∈ p.fills, Straight f.2 := by
  constructor
  · intro hread f hf c hc hcurly
    -- the script has as many characters as its parts take, so none was left undoubled
    have hsum : (p.fills.map fun f => f.2.toList.countP (· ∈ curlyQuotes)).sum = 0 := by
      have hlength := length_render p
      rw [cost_read? hread] at hlength
      omega
    have hcount := List.sum_eq_zero_iff.1 hsum _ (List.mem_map_of_mem hf)
    exact List.countP_eq_zero.1 hcount c hc (decide_eq_true hcurly)
  · intro hvalues
    exact readAll_render h (List.forall₂_same.2 fun f hf => readAs_self (hvalues f hf)) []

end RemoteHost.PowerShell
