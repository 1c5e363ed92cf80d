/-
RemoteHost/Text/Search.lean

Looking for a piece of text inside another.

`cut pat s` is the one search: it splits `s` at the first occurrence of `pat`.
Containment is written with it, and the lemmas on it say that a cut takes out
nothing but the piece, and that what is behind it is no longer than the text.
`replace` puts another text in the place of every occurrence.
-/

namespace RemoteHost.Text

/-- The text before and the text after the first occurrence of `pat`. -/
def cut (pat : List Char) : List Char → Option (List Char × List Char)
  | [] => if pat.isEmpty then some ([], []) else none
  | c :: s =>
    if pat.isPrefixOf (c :: s) then some ([], (c :: s).drop pat.length)
    else (cut pat s).map fun r => (c :: r.1, r.2)

/-- A cut only takes out the piece it looked for. -/
theorem eq_append_of_cut {pat s a b : List Char} (h : cut pat s = some (a, b)) :
    s = a ++ pat ++ b := by
  induction s generalizing a with
  | nil =>
    unfold cut at h
    split at h
    · rename_i hp
      simp only [Option.some.injEq, Prod.mk.injEq] at h
      obtain ⟨rfl, rfl⟩ := h
      simpa using hp.symm
    · exact absurd h (by simp)
  | cons c s ih =>
    unfold cut at h
    split at h
    · rename_i hp
      simp only [Option.some.injEq, Prod.mk.injEq] at h
      obtain ⟨rfl, rfl⟩ := h
      obtain ⟨t, ht⟩ := List.isPrefixOf_iff_prefix.1 hp
      rw [← ht]
      simp
    · obtain ⟨⟨a', b'⟩, h', e⟩ := Option.map_eq_some_iff.1 h
      simp only [Prod.mk.injEq] at e
      obtain ⟨rfl, rfl⟩ := e
      simp [ih h']

/-- What is behind a cut is no longer than the text. -/
theorem length_le_of_cut {pat s a b : List Char} (h : cut pat s = some (a, b)) :
    b.length ≤ s.length := by
  have := congrArg List.length (eq_append_of_cut h)
  simp only [List.length_append] at this
  omega

/-- The piece `pat` occurs in `s`. -/
def occurs (pat s : List Char) : Bool := (cut pat s).isSome

/-- The piece `pat` occurs in `s`. -/
def contains (s pat : String) : Bool := occurs pat.toList s.toList

/-- The text without its first piece `pat`, when it starts with it. -/
def dropPrefix? (s pat : String) : Option String :=
  if pat.toList.isPrefixOf s.toList then some (String.ofList (s.toList.drop pat.toList.length))
  else none

/-- The text starts with `pat`. -/
def startsWith (s pat : String) : Bool := pat.toList.isPrefixOf s.toList

/-- The text ends with `pat`. -/
def endsWith (s pat : String) : Bool := pat.toList.isSuffixOf s.toList

/-- The text with `new` in the place of every `pat`, where its first `skip` characters
belong to a piece that has been replaced. -/
def replaceChars (pat new : List Char) : Nat → List Char → List Char
  | _, [] => []
  | skip + 1, _ :: s => replaceChars pat new skip s
  | 0, c :: s =>
    if pat.isPrefixOf (c :: s) then new ++ replaceChars pat new (pat.length - 1) s
    else c :: replaceChars pat new 0 s

/-- The text with `new` in the place of every `pat`, which is not empty. -/
def replace (s pat new : String) : String :=
  String.ofList (replaceChars pat.toList new.toList 0 s.toList)

/-- The two sides of the first occurrence of the character `c`. -/
def splitOnce (c : Char) : List Char → Option (List Char × List Char)
  | [] => none
  | d :: s => if d = c then some ([], s) else (splitOnce c s).map fun r => (d :: r.1, r.2)

/-- What is behind the character is shorter than the text. -/
theorem length_lt_of_splitOnce {c : Char} {s a b : List Char}
    (h : splitOnce c s = some (a, b)) : b.length < s.length := by
  induction s generalizing a with
  | nil => simp [splitOnce] at h
  | cons d s ih =>
    unfold splitOnce at h
    split at h
    · simp only [Option.some.injEq, Prod.mk.injEq] at h
      simp [← h.2]
    · obtain ⟨⟨a', b'⟩, h', e⟩ := Option.map_eq_some_iff.1 h
      simp only [Prod.mk.injEq] at e
      have := ih (e.2 ▸ h')
      simp only [List.length_cons]
      omega

end RemoteHost.Text
