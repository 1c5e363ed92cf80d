/-
RemoteHost/Proofs/Xml/Escaping.lean

A text comes back from its escaped form.

The five replacements are one pass over the text (`toList_escape`), as none of them finds anything
in what an earlier one wrote: the first one replaces the character that begins an entity.  So a text
that already looks escaped comes back as it was, too (`unescape_escape`), and no character of
markup is left in the escaped form (`not_mem_escape`).  Only a text without any such character is
its own escaped form (`escape_eq_self_iff`).
-/
import Mathlib.Data.List.Basic
import RemoteHost.Proofs.Text.Blank
import RemoteHost.Xml

namespace RemoteHost.Xml

/-! ### One pass -/

/-- A character as it stands in content or in the value of an attribute. -/
def escapeChar : Char → List Char
  | '&' => "&amp;".toList
  | '<' => "&lt;".toList
  | '>' => "&gt;".toList
  | '"' => "&quot;".toList
  | '\'' => "&apos;".toList
  | c => [c]

/-- Characters with a meaning of their own. -/
def reserved : List Char := ['&', '<', '>', '"', '\'']

theorem escapeChar_of_not_mem {c : Char} (h : c ∉ reserved) : escapeChar c = [c] := by
  unfold escapeChar
  split
  case h_6 => rfl
  all_goals exact absurd (by decide) h

theorem toList_escape (s : String) : (escape s).toList = s.toList.flatMap escapeChar := by
  simp only [escape, entities, List.foldl_cons, List.foldl_nil]
  rw [Text.toList_replace_of_singleton (c := '\'') rfl,
    Text.toList_replace_of_singleton (c := '"') rfl,
    Text.toList_replace_of_singleton (c := '>') rfl,
    Text.toList_replace_of_singleton (c := '<') rfl,
    Text.toList_replace_of_singleton (c := '&') rfl]
  simp only [List.flatMap_assoc]
  refine List.flatMap_congr fun c _ => ?_
  -- An entity goes through the later replacements as it is: what they look for is not in it.
  by_cases hc : c ∈ reserved
  · simp only [reserved, List.mem_cons, List.not_mem_nil, or_false] at hc
    rcases hc with rfl | rfl | rfl | rfl | rfl <;> rfl
  · rw [escapeChar_of_not_mem hc]
    simp only [reserved, List.mem_cons, List.not_mem_nil, or_false, not_or] at hc
    obtain ⟨hamp, hlt, hgt, hquot, hapos⟩ := hc
    simp only [hamp, hlt, hgt, hquot, hapos, if_false, List.flatMap_cons, List.flatMap_nil,
      List.append_nil]

/-- None of the characters of the text has a meaning of its own. -/
def plain (s : String) : Bool := s.toList.all fun c => !reserved.contains c

theorem plain_iff {s : String} : plain s ↔ ∀ c ∈ s.toList, c ∉ reserved := by
  simp only [plain, List.all_eq_true, Bool.not_eq_true', List.contains_eq_mem,
    decide_eq_false_iff_not]

theorem plain_append {s t : String} (hs : plain s) (ht : plain t) : plain (s ++ t) := by
  rw [plain, String.toList_append, List.all_append, Bool.and_eq_true]
  exact ⟨hs, ht⟩

theorem escape_of_plain {s : String} (h : plain s) : escape s = s := by
  rw [← String.toList_inj, toList_escape]
  calc s.toList.flatMap escapeChar
      = s.toList.flatMap fun c => [c] :=
        List.flatMap_congr fun c hmem =>
          escapeChar_of_not_mem (plain_iff.1 h c hmem)
    _ = s.toList := List.flatMap_singleton' s.toList

/-- An entity is longer than the character that it stands for. -/
theorem one_lt_length_escapeChar {c : Char} (h : c ∈ reserved) : 1 < (escapeChar c).length := by
  have hentities : reserved.all fun d => 1 < (escapeChar d).length := by decide
  exact of_decide_eq_true (List.all_eq_true.1 hentities c h)

theorem length_le_escape (s : List Char) : s.length ≤ (s.flatMap escapeChar).length := by
  induction s with
  | nil => exact Nat.le_refl 0
  | cons c s ih =>
    have hpos : 1 ≤ (escapeChar c).length := by
      by_cases hc : c ∈ reserved
      · exact Nat.le_of_lt (one_lt_length_escapeChar hc)
      · rw [escapeChar_of_not_mem hc]
        exact Nat.le_refl 1
    rw [List.flatMap_cons, List.length_append, List.length_cons]
    omega

/-- A text is its own escaped form just where no character of it has a meaning of its own. -/
theorem escape_eq_self_iff {s : String} : escape s = s ↔ plain s := by
  refine ⟨fun h => ?_, escape_of_plain⟩
  rw [← String.toList_inj, toList_escape] at h
  rw [plain_iff]
  generalize s.toList = s at h
  -- The first entity would make the escaped form longer than the text.
  induction s with
  | nil => exact fun c hc => absurd hc List.not_mem_nil
  | cons c s ih =>
    by_cases hc : c ∈ reserved
    · have hlen := congrArg List.length h
      rw [List.flatMap_cons, List.length_append, List.length_cons] at hlen
      have hlong := one_lt_length_escapeChar hc
      have hrest := length_le_escape s
      omega
    · rw [List.flatMap_cons, escapeChar_of_not_mem hc, List.singleton_append] at h
      exact List.forall_mem_cons.2 ⟨hc, ih (List.cons.inj h).2⟩

/-- No character of markup is left. -/
theorem not_mem_escape {c : Char} (hc : c ∈ ['<', '>', '"', '\'']) (s : String) :
    c ∉ (escape s).toList := by
  have hentities : reserved.all fun d => (escapeChar d).all fun e =>
      !List.contains ['<', '>', '"', '\''] e := by decide
  rw [toList_escape, List.mem_flatMap]
  rintro ⟨d, -, hd⟩
  by_cases hmem : d ∈ reserved
  · have hmarkup := List.all_eq_true.1 (List.all_eq_true.1 hentities d hmem) c hd
    rw [Bool.not_eq_true', List.contains_eq_mem, decide_eq_false_iff_not] at hmarkup
    exact hmarkup hc
  · rw [escapeChar_of_not_mem hmem, List.mem_singleton] at hd
    exact hmem (hd ▸ List.mem_cons_of_mem '&' hc)

/-! ### Ends -/

/-- The escaped form of a character begins and ends with a blank only if that is blank. -/
theorem ends_escapeChar {c : Char} (h : ¬ Text.isBlank c) :
    ∃ first last, (escapeChar c).head? = some first ∧ (escapeChar c).getLast? = some last ∧
      ¬ Text.isBlank first ∧ ¬ Text.isBlank last := by
  by_cases hc : c ∈ reserved
  · simp only [reserved, List.mem_cons, List.not_mem_nil, or_false] at hc
    rcases hc with rfl | rfl | rfl | rfl | rfl <;> exact ⟨'&', ';', rfl, rfl, by decide, by decide⟩
  · rw [escapeChar_of_not_mem hc]
    exact ⟨c, c, rfl, rfl, h, h⟩

/-- Escaping puts no blanks at the ends of a text. -/
theorem trimChars_escape {s : String} (h : Text.trim s = s) :
    Text.trimChars (escape s).toList = (escape s).toList := by
  rw [← String.toList_inj, Text.toList_trim, Text.trimChars_eq_self_iff] at h
  obtain ⟨hhead, hlast⟩ := h
  rw [Text.trimChars_eq_self_iff, toList_escape, List.head?_flatMap, List.getLast?_flatMap]
  constructor
  · cases hs : s.toList with
    | nil => rintro _ ⟨⟩
    | cons c t =>
      obtain ⟨first, -, hfirst, -, hblank, -⟩ := ends_escapeChar (hhead c (by rw [hs]; rfl))
      rw [List.findSome?_cons, hfirst]
      rintro _ ⟨⟩
      exact hblank
  · cases hs : s.toList.reverse with
    | nil => rintro _ ⟨⟩
    | cons c t =>
      have hc : c ∈ s.toList.getLast? := by
        rw [← List.head?_reverse, hs]
        rfl
      obtain ⟨-, last, -, hlast, -, hblank⟩ := ends_escapeChar (hlast c hc)
      rw [List.findSome?_cons, hlast]
      rintro _ ⟨⟩
      exact hblank

/-! ### The way back -/

/-- What an entity of this name stands for. -/
def entity? : List Char → Option Char
  | ['a', 'm', 'p'] => some '&'
  | ['l', 't'] => some '<'
  | ['g', 't'] => some '>'
  | ['q', 'u', 'o', 't'] => some '"'
  | ['a', 'p', 'o', 's'] => some '\''
  | _ => none

/-- The text that is left to be read, where the name of an entity may have been begun. -/
def unescapeFrom : Option (List Char) → List Char → Option (List Char)
  | none, [] => some []
  | none, c :: s =>
    if c = '&' then unescapeFrom (some []) s else (unescapeFrom none s).map (c :: ·)
  | some _, [] => none
  | some name, c :: s =>
    if c = ';' then (entity? name).bind fun d => (unescapeFrom none s).map (d :: ·)
    else unescapeFrom (some (name ++ [c])) s

/-- The text that an escaped one stands for, unless an entity in it is none of the five. -/
def unescape (s : List Char) : Option (List Char) := unescapeFrom none s

theorem unescape_cons {c : Char} (h : c ≠ '&') (s : List Char) :
    unescape (c :: s) = (unescape s).map (c :: ·) := if_neg h

theorem unescape_escapeChar_append (c : Char) (s : List Char) :
    unescape (escapeChar c ++ s) = (unescape s).map (c :: ·) := by
  by_cases hc : c ∈ reserved
  · simp only [reserved, List.mem_cons, List.not_mem_nil, or_false] at hc
    rcases hc with rfl | rfl | rfl | rfl | rfl <;> rfl
  · rw [escapeChar_of_not_mem hc, List.singleton_append, unescape_cons]
    exact fun h => hc (h ▸ List.mem_cons_self)

/-- **A text comes back from its escaped form.** -/
theorem unescape_escape (s : String) : unescape (escape s).toList = some s.toList := by
  rw [toList_escape]
  -- The reader of entities is between two of them whenever a character has been read back.
  induction s.toList with
  | nil => rfl
  | cons c s ih => rw [List.flatMap_cons, unescape_escapeChar_append, ih]; rfl

/-- A text without entities stands for itself. -/
theorem unescape_eq_self {s : List Char} (h : '&' ∉ s) : unescape s = some s := by
  induction s with
  | nil => rfl
  | cons c s ih =>
    rw [List.mem_cons, not_or] at h
    rw [unescape_cons (Ne.symm h.1), ih h.2]
    rfl

end RemoteHost.Xml
