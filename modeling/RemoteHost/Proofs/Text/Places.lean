/-
RemoteHost/Proofs/Text/Places.lean

Reading a text at places of it.

A place is a number of bytes from the front of the text, in UTF-8.  A text can be cut at a place
only if that lies inside it and between two characters (`cutAt?_eq_some_iff`, `isSome_cutAt?_iff`).
A `Reading` goes through a text by such places: it comes to a result, or it stops where the text
cannot be cut, or after as many rounds of a loop as it is allowed.

What a search finds is a place, and what is cut out from there on is what the search by parts finds
(`textUntil_append`, `enclosed_eq`, `enclosedBehind_eq`).  So a reading that cuts only where a
search has led can be cut there.
-/
import RemoteHost.Proofs.Text.Search
import RemoteHost.Proofs.Text.Utf8

namespace RemoteHost.Text

variable {s t a b pat : List Char} {n : Nat}

/-! ### Places -/

/-- The number of bytes of a text. -/
def byteLength (s : List Char) : Nat := (Utf8.encodeChars s).length

@[simp] theorem byteLength_cons (c : Char) (s : List Char) :
    byteLength (c :: s) = c.utf8Size + byteLength s := by
  rw [byteLength, Utf8.encodeChars_cons, List.length_append, String.length_utf8EncodeChar]
  rfl

@[simp] theorem byteLength_append (s t : List Char) :
    byteLength (s ++ t) = byteLength s + byteLength t := by
  rw [byteLength, Utf8.encodeChars_append, List.length_append]
  rfl

/-- The two sides of a place, if it lies inside the text and between two characters. -/
def cutAt? : Nat → List Char → Option (List Char × List Char)
  | 0, s => some ([], s)
  | _ + 1, [] => none
  | n + 1, c :: s =>
    if c.utf8Size ≤ n + 1 then (cutAt? (n + 1 - c.utf8Size) s).map fun r => (c :: r.1, r.2)
    else none

theorem cutAt?_append (a b : List Char) : cutAt? (byteLength a) (a ++ b) = some (a, b) := by
  induction a with
  | nil => unfold cutAt?; rfl
  | cons c a ih =>
    -- A character has at least one byte, so the place is not the front of the text.
    have hpos := c.utf8Size_pos
    obtain ⟨n, hn⟩ : ∃ n, byteLength (c :: a) = n + 1 :=
      Nat.exists_eq_succ_of_ne_zero (by rw [byteLength_cons]; omega)
    have hle : c.utf8Size ≤ n + 1 := by rw [← hn, byteLength_cons]; omega
    have hrest : n + 1 - c.utf8Size = byteLength a := by rw [← hn, byteLength_cons]; omega
    rw [hn, List.cons_append, cutAt?, if_pos hle, hrest, ih]
    rfl

theorem eq_append_of_cutAt? (h : cutAt? n s = some (a, b)) : s = a ++ b ∧ n = byteLength a := by
  induction s generalizing n a with
  | nil =>
    cases n with
    | zero =>
      obtain ⟨rfl, rfl⟩ := Prod.mk.inj (Option.some.inj h)
      exact ⟨rfl, rfl⟩
    | succ n => cases h
  | cons c s ih =>
    cases n with
    | zero =>
      obtain ⟨rfl, rfl⟩ := Prod.mk.inj (Option.some.inj h)
      exact ⟨rfl, rfl⟩
    | succ n =>
      unfold cutAt? at h
      split at h
      · next hle =>
        obtain ⟨⟨a', b'⟩, hcut, hr⟩ := Option.map_eq_some_iff.1 h
        obtain ⟨rfl, rfl⟩ := Prod.mk.inj hr
        obtain ⟨rfl, hn⟩ := ih hcut
        exact ⟨rfl, by rw [byteLength_cons, ← hn]; omega⟩
      · cases h

/-- A text is cut at a place into two parts, the first of which is as long as the place says. -/
theorem cutAt?_eq_some_iff : cutAt? n s = some (a, b) ↔ s = a ++ b ∧ n = byteLength a := by
  constructor
  · exact eq_append_of_cutAt?
  · rintro ⟨rfl, rfl⟩
    exact cutAt?_append a b

theorem utf8ByteSize_ofList (s : List Char) : (String.ofList s).utf8ByteSize = byteLength s := by
  rw [← String.size_toByteArray, String.toByteArray_ofList, List.utf8Encode, List.size_toByteArray]
  rfl

/-- These are the positions of the text. -/
theorem isSome_cutAt?_iff :
    (cutAt? n s).isSome ↔ String.Pos.Raw.IsValid (String.ofList s) ⟨n⟩ := by
  rw [String.Pos.Raw.isValid_ofList]
  constructor
  · intro h
    obtain ⟨⟨a, b⟩, hcut⟩ := Option.isSome_iff_exists.1 h
    obtain ⟨rfl, rfl⟩ := eq_append_of_cutAt? hcut
    exact ⟨a.length, by rw [List.take_left, utf8ByteSize_ofList]⟩
  · rintro ⟨i, hi⟩
    rw [utf8ByteSize_ofList] at hi
    have hcut := cutAt?_append (s.take i) (s.drop i)
    rw [List.take_append_drop, ← hi] at hcut
    rw [hcut]
    rfl

/-- The second letter of the text begins at its third byte. -/
example : cutAt? 1 ['é', 'a'] = none ∧ cutAt? 2 ['é', 'a'] = some (['é'], ['a']) := by decide

/-! ### Readings -/

/-- Why a reading stops without a result. -/
inductive Stop where
  /-- The text cannot be cut at this place. -/
  | noPlace (n : Nat)
  /-- The loop has not ended in the rounds that it is allowed. -/
  | rounds
  deriving DecidableEq, Repr

/-- A reading of a text at places of it. -/
abbrev Reading (α : Type) := Except Stop α

/-- The two sides of a place. -/
def cutAt (n : Nat) (s : List Char) : Reading (List Char × List Char) :=
  match cutAt? n s with
  | some r => pure r
  | none => throw (.noPlace n)

/-- The text from a place on. -/
def textFrom (n : Nat) (s : List Char) : Reading (List Char) := do
  let (_, rest) ← cutAt n s
  pure rest

/-- The text up to a place. -/
def textUpTo (n : Nat) (s : List Char) : Reading (List Char) := do
  let (front, _) ← cutAt n s
  pure front

/-- The text between two places. -/
def textBetween (m n : Nat) (s : List Char) : Reading (List Char) := do
  let front ← textUpTo n s
  textFrom m front

theorem cutAt_append (a b : List Char) : cutAt (byteLength a) (a ++ b) = pure (a, b) := by
  rw [cutAt, cutAt?_append]

theorem textFrom_append (a b : List Char) : textFrom (byteLength a) (a ++ b) = pure b := by
  rw [textFrom, cutAt_append, pure_bind]

theorem textUpTo_append (a b : List Char) : textUpTo (byteLength a) (a ++ b) = pure a := by
  rw [textUpTo, cutAt_append, pure_bind]

theorem textBetween_append (a b t : List Char) :
    textBetween (byteLength a) (byteLength a + byteLength b) (a ++ (b ++ t)) = pure b := by
  rw [textBetween, ← byteLength_append, ← List.append_assoc, textUpTo_append, pure_bind,
    textFrom_append]

/-! ### Searches -/

/-- The place of the first occurrence of a piece. -/
def placeOf? (pat s : List Char) : Option Nat := (cut pat s).map fun r => byteLength r.1

/-- The text from a place up to the next occurrence of a piece, and the place of that. -/
def textUntil (pat : List Char) (place : Nat) (s : List Char) :
    Reading (Option (List Char × Nat)) := do
  match placeOf? pat (← textFrom place s) with
  | none => pure none
  | some stop => do
    let text ← textBetween place (place + stop) s
    pure (some (text, place + stop))

/-- What stands between the first occurrence of one piece and the next one of another, cut out of
the text as a whole. -/
def enclosed (opening closing s : List Char) : Reading (Option (List Char)) :=
  match placeOf? opening s with
  | none => pure none
  | some start => Option.map Prod.fst <$> textUntil closing (start + byteLength opening) s

/-- What stands between the first occurrence of one piece and the next one of another, cut out of
the text behind the first one. -/
def enclosedBehind (opening closing s : List Char) : Reading (Option (List Char)) :=
  match placeOf? opening s with
  | none => pure none
  | some start => do
    let rest ← textFrom (start + byteLength opening) s
    match placeOf? closing rest with
    | none => pure none
    | some stop => some <$> textUpTo stop rest

/-- The same by parts of the text. -/
def between? (opening closing s : List Char) : Option (List Char) := do
  let (_, rest) ← cut opening s
  let (inner, _) ← cut closing rest
  some inner

theorem between?_bind {α : Type} (opening closing s : List Char) (f : List Char → Option α) :
    (between? opening closing s).bind f = (do
      let (_, rest) ← cut opening s
      let (inner, _) ← cut closing rest
      f inner) := by
  unfold between?
  cases cut opening s with
  | none => rfl
  | some r => cases h : cut closing r.2 <;> simp [h]

/-- A search leads to a place at which the text can be cut. -/
theorem textUntil_append (pat a b : List Char) :
    textUntil pat (byteLength a) (a ++ b) =
      pure ((cut pat b).map fun r => (r.1, byteLength (a ++ r.1))) := by
  rw [textUntil, textFrom_append, pure_bind, placeOf?]
  cases h : cut pat b with
  | none => rfl
  | some r =>
    rw [eq_append_of_cut h, List.append_assoc]
    simp only [Option.map_some, textBetween_append, pure_bind, byteLength_append]

theorem enclosed_eq (opening closing s : List Char) :
    enclosed opening closing s = pure (between? opening closing s) := by
  unfold enclosed between? placeOf?
  cases h : cut opening s with
  | none => rfl
  | some r =>
    have huntil := textUntil_append closing (r.1 ++ opening) r.2
    rw [← eq_append_of_cut h, byteLength_append] at huntil
    simp only [Option.map_some, huntil]
    cases h' : cut closing r.2 <;> simp [h']

theorem enclosedBehind_eq (opening closing s : List Char) :
    enclosedBehind opening closing s = pure (between? opening closing s) := by
  unfold enclosedBehind between? placeOf?
  cases h : cut opening s with
  | none => rfl
  | some r =>
    have hrest := textFrom_append (r.1 ++ opening) r.2
    rw [← eq_append_of_cut h, byteLength_append] at hrest
    simp only [Option.map_some, hrest, pure_bind]
    cases h' : cut closing r.2 with
    | none => simp [h']
    | some r' =>
      have hupTo := textUpTo_append r'.1 (closing ++ r'.2)
      rw [← List.append_assoc, ← eq_append_of_cut h'] at hupTo
      simp [h', hupTo]

/-- A search for a character is one for a piece of one character. -/
theorem cut_singleton (c : Char) (s : List Char) : cut [c] s = splitOnce c s := by
  induction s with
  | nil => rfl
  | cons d s ih =>
    unfold cut splitOnce
    rw [ih]
    by_cases h : d = c
    · subst h
      simp
    · simp [h, Ne.symm h]

end RemoteHost.Text
