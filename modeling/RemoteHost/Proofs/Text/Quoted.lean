/-
RemoteHost/Proofs/Text/Quoted.lean

What a quoted text says.

The quoted forms of characters are a code in which none begins another (`quotedChar_append_inj`),
and no quote stands at the front of any.  So the form of a text ends where its closing quote stands,
and different texts have different forms (`quotedChars_append_inj`, `quoted_injective`).
-/
import RemoteHost.Proofs.Text.Numeral
import RemoteHost.Proofs.Text.Search
import RemoteHost.Text.Quoted

namespace RemoteHost.Text

variable {c d : Char} {s t a b : List Char}

/-! ### Characters -/

/-- The characters that are written with a backslash and a letter. -/
def lettered : List (Char × Char) :=
  [('"', '"'), ('\\', '\\'), ('\n', 'n'), ('\r', 'r'), ('\t', 't'), ('\x00', '0')]

/-- A character inside quotes is itself, a backslash with a letter, or a code point. -/
inductive QuotedAs (c : Char) : List Char → Prop
  | itself (hquote : c ≠ '"') (hbackslash : c ≠ '\\') : QuotedAs c [c]
  | letter {x : Char} (h : (c, x) ∈ lettered) : QuotedAs c ['\\', x]
  | code : QuotedAs c (codePointEscape c)

theorem quotedAs_quotedChar (c : Char) : QuotedAs c (quotedChar c) := by
  have hletter : ∀ p ∈ lettered, c = p.1 → QuotedAs c ['\\', p.2] := by
    rintro ⟨_, x⟩ hp rfl
    exact .letter hp
  unfold quotedChar
  split
  · next h => exact hletter ('"', '"') (by decide) h
  next hquote =>
  split
  · next h => exact hletter ('\\', '\\') (by decide) h
  next hbackslash =>
  split
  · next h => exact hletter ('\n', 'n') (by decide) h
  split
  · next h => exact hletter ('\r', 'r') (by decide) h
  split
  · next h => exact hletter ('\t', 't') (by decide) h
  split
  · next h => exact hletter ('\x00', '0') (by decide) h
  split
  · exact .itself hquote hbackslash
  split
  · exact .code
  · exact .itself hquote hbackslash

/-- The digits of a code point end at the brace. -/
theorem hexDigits_append_inj {m n : Nat}
    (h : hexDigits m ++ '\x7d' :: a = hexDigits n ++ '\x7d' :: b) : m = n ∧ a = b := by
  have hvalue : ∀ k, digitsValue 16 (hexDigits k) = some k :=
    digitsValue_toDigits_of_base (by decide) (by decide)
  have hbrace : ∀ k, '\x7d' ∉ hexDigits k := fun k => not_mem_of_digitsValue (hvalue k) rfl
  have hsplit := congrArg (splitOnce '\x7d') h
  rw [splitOnce_append (hbrace m), splitOnce_append (hbrace n)] at hsplit
  obtain ⟨hdigits, rfl⟩ := Prod.mk.inj (Option.some.inj hsplit)
  have hsame := hvalue m
  rw [hdigits, hvalue n] at hsame
  exact ⟨(Option.some.inj hsame).symm, rfl⟩

/-- The forms of characters are a code in which none begins another. -/
theorem quotedChar_append_inj (h : quotedChar c ++ a = quotedChar d ++ b) : c = d ∧ a = b := by
  have hletters : ∀ p ∈ lettered, ∀ q ∈ lettered, p.2 = q.2 → p.1 = q.1 := by decide
  have hnotCode : ∀ p ∈ lettered, p.2 ≠ 'u' := by decide
  have hc := quotedAs_quotedChar c
  have hd := quotedAs_quotedChar d
  revert h
  generalize quotedChar c = x at hc
  generalize quotedChar d = y at hd
  intro h
  cases hc with
  | itself hquote hbackslash =>
    cases hd with
    | itself => exact List.cons.inj h
    | letter => exact absurd (List.cons.inj h).1 hbackslash
    | code => exact absurd (List.cons.inj h).1 hbackslash
  | letter hx =>
    cases hd with
    | itself hquote hbackslash => exact absurd (List.cons.inj h).1.symm hbackslash
    | letter hy =>
      obtain ⟨-, h⟩ := List.cons.inj h
      obtain ⟨hxy, rfl⟩ := List.cons.inj h
      exact ⟨hletters _ hx _ hy hxy, rfl⟩
    | code =>
      obtain ⟨-, h⟩ := List.cons.inj h
      exact absurd (List.cons.inj h).1 (hnotCode _ hx)
  | code =>
    cases hd with
    | itself hquote hbackslash => exact absurd (List.cons.inj h).1.symm hbackslash
    | letter hy =>
      obtain ⟨-, h⟩ := List.cons.inj h
      exact absurd (List.cons.inj h).1.symm (hnotCode _ hy)
    | code =>
      simp only [codePointEscape, List.cons_append, List.append_assoc, List.nil_append,
        List.cons.injEq, true_and] at h
      obtain ⟨hcode, rfl⟩ := hexDigits_append_inj h
      exact ⟨Char.toNat_inj.1 hcode, rfl⟩

/-- No form begins with a quote. -/
theorem quotedChar_append_ne (c : Char) (a b : List Char) : quotedChar c ++ a ≠ '"' :: b := by
  have hc := quotedAs_quotedChar c
  generalize quotedChar c = x at hc
  intro h
  cases hc with
  | itself hquote => exact hquote (List.cons.inj h).1
  | letter => exact absurd (List.cons.inj h).1 (by decide)
  | code => exact absurd (List.cons.inj h).1 (by decide)

/-! ### Texts -/

/-- The form of a text ends where its closing quote stands. -/
theorem quotedChars_append_inj (h : quotedChars s ++ a = quotedChars t ++ b) : s = t ∧ a = b := by
  have hopen : s.flatMap quotedChar ++ '"' :: a = t.flatMap quotedChar ++ '"' :: b := by
    simpa [quotedChars] using h
  clear h
  induction s generalizing t with
  | nil =>
    cases t with
    | nil => exact ⟨rfl, (List.cons.inj hopen).2⟩
    | cons d t =>
      rw [List.flatMap_cons, List.append_assoc] at hopen
      exact absurd hopen.symm (quotedChar_append_ne d _ _)
  | cons c s ih =>
    cases t with
    | nil =>
      rw [List.flatMap_cons, List.append_assoc] at hopen
      exact absurd hopen (quotedChar_append_ne c _ _)
    | cons d t =>
      rw [List.flatMap_cons, List.flatMap_cons, List.append_assoc, List.append_assoc] at hopen
      obtain ⟨rfl, hrest⟩ := quotedChar_append_inj hopen
      obtain ⟨rfl, rfl⟩ := ih hrest
      exact ⟨rfl, rfl⟩

/-- Different texts have different quoted forms. -/
theorem quoted_injective {s t : String} (h : quoted s = quoted t) : s = t := by
  have hchars : quotedChars s.toList = quotedChars t.toList := String.ofList_injective h
  refine String.toList_inj.1 (quotedChars_append_inj (a := []) (b := []) ?_).1
  rw [hchars]

end RemoteHost.Text
