/-
RemoteHost/Proofs/Shell/SimpleCommand.lean

How a POSIX shell reads a text as one simple command (`simpleCommand`): the words it is
made of, or what keeps it from being made of words only.

The reader goes through the text one character at a time (`Reading.step`).  It knows
blanks, operators, the three ways of quoting, comments, and the characters that begin an
expansion; where it meets anything that is more than a word, it stops and says so.

Two kinds of text are read in full here:

* a text quoted as one word is read as that word, whatever it is (`read_quoteChars`);
* a text put between double quotes as it is, is read as one word with that text exactly
  when it is inert (`readAll_doubleQuoted_iff`).

The second one fails on every other text for lack of characters: a quote or an escape
that is taken away is never made up for (`Reading.weight`).
-/
import Mathlib.Data.List.Basic
import RemoteHost.Shell.Quote

namespace RemoteHost.Shell

/-! ### The reader -/

/-- What keeps a text from being one simple command of words only. -/
inductive Obstacle where
  /-- A command cannot hold this character. -/
  | nul
  /-- An operator, or the end of a line: the command ends there, or is redirected. -/
  | operator (c : Char)
  /-- A parameter, a command, a file name or a home directory is put in here. -/
  | expansion (c : Char)
  | comment
  /-- A quotation or an escape is not finished. -/
  | unclosed
  /-- The first word is a reserved one or sets a variable, or there is no word. -/
  | unnamed
  deriving DecidableEq, Repr

/-- How a character is read. -/
inductive Mode where
  | plain
  | escaped
  | single
  | double
  | doubleEscaped
  deriving DecidableEq, Repr

/-- Words that have been read, the one that is being read, if any, and how the next
character is read. -/
structure Reading where
  words : List (List Char)
  word? : Option (List Char)
  mode : Mode

/-- Blanks separate words. -/
def blanks : List Char := [' ', '\t']

def operators : List Char := ['\n', '|', '&', ';', '<', '>', '(', ')']

/-- Characters that begin an expansion outside of quotes. -/
def expansions : List Char := ['$', '\x60', '*', '?', '[']

/-- Characters that begin an expansion between double quotes. -/
def quotedExpansions : List Char := ['$', '\x60']

/-- Characters that a backslash between double quotes escapes; it drops the end of a line
altogether. -/
def escapable : List Char := ['$', '\x60', '"', '\\', '\n']

/-- First words that are not the name of a program. -/
def reservedWords : List String :=
  ["!", "\x7b", "\x7d", "case", "do", "done", "elif", "else", "esac", "fi", "for", "if", "in",
    "then", "until", "while"]

namespace Reading

/-- Before the first character. -/
def start : Reading := ⟨[], none, .plain⟩

/-- More characters for the word that is being read; it begins here if there is none. -/
def add (r : Reading) (s : List Char) (m : Mode) : Reading :=
  { r with word? := some (r.word?.getD [] ++ s), mode := m }

/-- All words, when the one that is being read ends here. -/
def allWords (r : Reading) : List (List Char) := r.words ++ r.word?.toList

/-- Read one character outside of quotes. -/
def plainStep (r : Reading) (c : Char) : Except Obstacle Reading :=
  if c ∈ blanks then .ok ⟨r.allWords, none, .plain⟩
  else if c ∈ operators then .error (.operator c)
  else if c ∈ expansions ∨ c = '~' ∧ r.word? = none then .error (.expansion c)
  else if c = '#' ∧ r.word? = none then .error .comment
  else if c = '\'' then .ok (r.add [] .single)
  else if c = '"' then .ok (r.add [] .double)
  else if c = '\\' then .ok { r with mode := .escaped }
  else .ok (r.add [c] .plain)

/-- Read the character behind a backslash.  A line that goes on is as if it had not ended:
no word begins there. -/
def escapedStep (r : Reading) (c : Char) : Except Obstacle Reading :=
  if c = '\n' then .ok { r with mode := .plain } else .ok (r.add [c] .plain)

/-- Read one character between single quotes. -/
def singleStep (r : Reading) (c : Char) : Except Obstacle Reading :=
  if c = '\'' then .ok (r.add [] .plain) else .ok (r.add [c] .single)

/-- Read one character between double quotes. -/
def doubleStep (r : Reading) (c : Char) : Except Obstacle Reading :=
  if c ∈ quotedExpansions then .error (.expansion c)
  else if c = '"' then .ok (r.add [] .plain)
  else if c = '\\' then .ok { r with mode := .doubleEscaped }
  else .ok (r.add [c] .double)

/-- Read the character behind a backslash between double quotes.  The backslash stays where
it escapes nothing. -/
def doubleEscapedStep (r : Reading) (c : Char) : Except Obstacle Reading :=
  if c = '\n' then .ok (r.add [] .double)
  else if c ∈ escapable then .ok (r.add [c] .double)
  else .ok (r.add ['\\', c] .double)

/-- Read one character. -/
def step (r : Reading) (c : Char) : Except Obstacle Reading :=
  match r.mode with
  | .plain => r.plainStep c
  | .escaped => r.escapedStep c
  | .single => r.singleStep c
  | .double => r.doubleStep c
  | .doubleEscaped => r.doubleEscapedStep c

/-- Read characters. -/
def read (r : Reading) (s : List Char) : Except Obstacle Reading := s.foldlM step r

/-- The words at the end of a text. -/
def finish (r : Reading) : Except Obstacle (List (List Char)) :=
  if r.mode = .plain then .ok r.allWords else .error .unclosed

/-- Read a text to its end. -/
def readAll (r : Reading) (s : List Char) : Except Obstacle (List (List Char)) :=
  r.read s >>= finish

end Reading

/-- Words, if the first one is the name of a program. -/
def named : List String → Except Obstacle (List String)
  | [] => .error .unnamed
  | w :: ws => if w ∈ reservedWords ∨ '=' ∈ w.toList then .error .unnamed else .ok (w :: ws)

/-- The words of a text that is one simple command. -/
def simpleCommand (text : String) : Except Obstacle (List String) := do
  if '\x00' ∈ text.toList then .error .nul
  else
    let words ← Reading.start.readAll text.toList
    named (words.map String.ofList)

/-- What is read is read in two steps that both go well. -/
theorem exists_of_bind_eq_ok {α β : Type} {x : Except Obstacle α} {f : α → Except Obstacle β}
    {b : β} (h : (x >>= f) = .ok b) : ∃ a, x = .ok a ∧ f a = .ok b := by
  cases x with
  | error e => cases h
  | ok a => exact ⟨a, rfl, h⟩

theorem named_eq_ok_iff {ws vs : List String} :
    named ws = .ok vs ↔ ws = vs ∧ ∃ v ∈ vs.head?, v ∉ reservedWords ∧ '=' ∉ v.toList := by
  cases ws with
  | nil =>
    apply iff_of_false
    · intro h
      cases h
    · rintro ⟨rfl, v, hv, -⟩
      cases hv
  | cons w ws =>
    rw [named]
    split
    case isTrue hw =>
      apply iff_of_false
      · intro h
        cases h
      · rintro ⟨rfl, v, hv, hreserved, hset⟩
        obtain rfl : w = v := Option.some.inj hv
        exact hw.elim hreserved hset
    case isFalse hw =>
      rw [not_or] at hw
      rw [Except.ok.injEq]
      constructor
      · rintro rfl
        exact ⟨rfl, w, rfl, hw⟩
      · exact And.left

/-- The words of a command, without the reader of names. -/
theorem simpleCommand_eq_ok_iff {text : String} {vs : List String} :
    simpleCommand text = .ok vs ↔
      '\x00' ∉ text.toList ∧ Reading.start.readAll text.toList = .ok (vs.map String.toList) ∧
        ∃ v ∈ vs.head?, v ∉ reservedWords ∧ '=' ∉ v.toList := by
  have hwords : ∀ ws : List (List Char), ws.map String.ofList = vs ↔ ws = vs.map String.toList := by
    intro ws
    constructor
    · rintro rfl
      simp [Function.comp_def]
    · rintro rfl
      simp [Function.comp_def]
  rw [simpleCommand]
  split
  case isTrue hnul =>
    apply iff_of_false
    · intro h
      cases h
    · intro h
      exact h.1 hnul
  case isFalse hnul =>
    constructor
    · intro h
      obtain ⟨ws, hread, hnamed⟩ := exists_of_bind_eq_ok h
      rw [named_eq_ok_iff, hwords] at hnamed
      obtain ⟨rfl, hname⟩ := hnamed
      exact ⟨hnul, hread, hname⟩
    · rintro ⟨-, hread, hname⟩
      rw [hread]
      exact named_eq_ok_iff.2 ⟨(hwords _).2 rfl, hname⟩

example : simpleCommand "tar -xvf 'my file'\\'s.vib" = .ok ["tar", "-xvf", "my file's.vib"] := by
  decide

/-! ### Reading on -/

namespace Reading

variable {r q : Reading} {ws : List (List Char)} {w s t : List Char} {c : Char}

@[simp] theorem read_nil (r : Reading) : r.read [] = .ok r := rfl

theorem read_cons (r : Reading) (c : Char) (s : List Char) :
    r.read (c :: s) = r.step c >>= (·.read s) := rfl

theorem read_cons_of_step (h : r.step c = .ok q) (s : List Char) :
    r.read (c :: s) = q.read s := by
  rw [read_cons, h]
  rfl

theorem read_append (r : Reading) (s t : List Char) :
    r.read (s ++ t) = r.read s >>= (·.read t) := List.foldlM_append

theorem read_append_of_read (h : r.read s = .ok q) (t : List Char) :
    r.read (s ++ t) = q.read t := by
  rw [read_append, h]
  rfl

theorem readAll_append_of_read (h : r.read s = .ok q) (t : List Char) :
    r.readAll (s ++ t) = q.readAll t := by
  rw [readAll, read_append_of_read h, readAll]

theorem readAll_cons_of_step (h : r.step c = .ok q) (s : List Char) :
    r.readAll (c :: s) = q.readAll s := by
  rw [readAll, read_cons_of_step h, readAll]

end Reading

/-! ### Words that are quoted -/

/-- The characters with a meaning of their own outside of quotes. -/
def specials : List Char := blanks ++ operators ++ expansions ++ ['~', '#', '\'', '"', '\\']

theorem not_mem_specials_of_isPlain {c : Char} (h : isPlain c) : c ∉ specials := by
  have hspecials : specials.all fun c => !isPlain c := by decide
  intro hc
  have hplain := List.all_eq_true.1 hspecials c hc
  rw [h] at hplain
  exact absurd hplain (by decide)

/-- What quoting adds to a text is quotes and backslashes. -/
theorem mem_quoteChars {c : Char} {s : List Char} (hquote : c ≠ '\'') (hback : c ≠ '\\') :
    c ∈ quoteChars s ↔ c ∈ s := by
  have hchar : ∀ d, c ∈ quoteChar d ↔ c = d := by
    intro d
    rw [quoteChar]
    split <;> simp [hquote, hback]
  rw [quoteChars]
  split
  · rfl
  · simp [hquote, hchar]

namespace Reading

variable {r q : Reading} {ws : List (List Char)} {w s t : List Char} {c : Char}

theorem step_of_isPlain (h : isPlain c) (ws : List (List Char)) (w? : Option (List Char)) :
    step ⟨ws, w?, .plain⟩ c = .ok ⟨ws, some (w?.getD [] ++ [c]), .plain⟩ := by
  have hc := not_mem_specials_of_isPlain h
  simp only [specials, List.mem_append, List.mem_cons, List.not_mem_nil, or_false, not_or] at hc
  obtain ⟨⟨⟨hblank, hoperator⟩, hexpansion⟩, htilde, hhash, hsingle, hdouble, hback⟩ := hc
  simp only [step, plainStep, add, hblank, hoperator, hexpansion, htilde, hhash, hsingle, hdouble,
    hback, false_and, or_self, if_false]

theorem read_of_all_isPlain (h : s.all isPlain) (ws : List (List Char)) (w : List Char) :
    read ⟨ws, some w, .plain⟩ s = .ok ⟨ws, some (w ++ s), .plain⟩ := by
  induction s generalizing w with
  | nil => rw [read_nil, List.append_nil]
  | cons c s ih =>
    rw [List.all_cons, Bool.and_eq_true] at h
    rw [read_cons_of_step (step_of_isPlain h.1 ws (some w)), Option.getD_some,
      List.append_cons w c s]
    exact ih h.2 (w ++ [c])

theorem read_quoteChar (ws : List (List Char)) (w : List Char) (c : Char) :
    read ⟨ws, some w, .single⟩ (quoteChar c) = .ok ⟨ws, some (w ++ [c]), .single⟩ := by
  rw [quoteChar]
  split
  case isTrue h =>
    -- out of the quotes, the character behind a backslash, and into the quotes again
    have hescaped : step ⟨ws, some (w ++ []), .escaped⟩ c =
        .ok ⟨ws, some (w ++ [] ++ [c]), .plain⟩ := by
      rcases h with rfl | rfl
      · rfl
      · rfl
    rw [read_cons_of_step (q := ⟨ws, some (w ++ []), .plain⟩) rfl,
      read_cons_of_step (q := ⟨ws, some (w ++ []), .escaped⟩) rfl, read_cons_of_step hescaped,
      read_cons_of_step (q := ⟨ws, some (w ++ [] ++ [c] ++ []), .single⟩) rfl, read_nil,
      List.append_nil, List.append_nil]
  case isFalse h =>
    rw [not_or] at h
    have hstep : step ⟨ws, some w, .single⟩ c = .ok ⟨ws, some (w ++ [c]), .single⟩ := by
      change singleStep _ c = _
      rw [singleStep, if_neg h.1]
      rfl
    rw [read_cons_of_step hstep, read_nil]

theorem read_flatMap_quoteChar (ws : List (List Char)) (w s : List Char) :
    read ⟨ws, some w, .single⟩ (s.flatMap quoteChar) = .ok ⟨ws, some (w ++ s), .single⟩ := by
  induction s generalizing w with
  | nil => rw [List.flatMap_nil, read_nil, List.append_nil]
  | cons c s ih =>
    rw [List.flatMap_cons, read_append_of_read (read_quoteChar ws w c), List.append_cons w c s]
    exact ih (w ++ [c])

/-- A quoted text is read as one word, which is the text. -/
theorem read_quoteChars (ws : List (List Char)) (s : List Char) :
    read ⟨ws, none, .plain⟩ (quoteChars s) = .ok ⟨ws, some s, .plain⟩ := by
  rw [quoteChars]
  split
  case isTrue h =>
    obtain ⟨hne, hplain⟩ := h
    obtain ⟨c, s, rfl⟩ := List.exists_cons_of_ne_nil hne
    rw [List.all_cons, Bool.and_eq_true] at hplain
    rw [read_cons_of_step (step_of_isPlain hplain.1 ws none)]
    exact read_of_all_isPlain hplain.2 ws [c]
  case isFalse =>
    have hopen : step ⟨ws, none, .plain⟩ '\'' = .ok ⟨ws, some [], .single⟩ := rfl
    have hclose : read ⟨ws, some s, .single⟩ ['\''] = .ok ⟨ws, some s, .plain⟩ := by
      rw [read_cons_of_step (q := ⟨ws, some (s ++ []), .plain⟩) rfl, read_nil, List.append_nil]
    rw [List.cons_append, read_cons_of_step hopen,
      read_append_of_read (read_flatMap_quoteChar ws [] s), List.nil_append, hclose]

end Reading

/-! ### Words between double quotes -/

/-- A text that stands for itself between double quotes: no character of it ends the quotes
or begins an expansion, and no backslash of it escapes what follows, be it the quote at the
end. -/
def inert : List Char → Bool
  | [] => true
  | ['\\'] => false
  | '\\' :: c :: s => c ∉ escapable && inert s
  | c :: s => c ∉ '"' :: quotedExpansions && inert s

namespace Reading

variable {r q : Reading} {ws vs : List (List Char)} {w s t : List Char} {c : Char}

/-- How many characters the words have. -/
def charCount (r : Reading) : Nat := r.allWords.flatten.length

theorem charCount_mk (ws : List (List Char)) (w? : Option (List Char)) (m : Mode) :
    charCount ⟨ws, w?, m⟩ = ws.flatten.length + (w?.getD []).length := by
  cases w? with
  | none => simp [charCount, allWords]
  | some w => simp [charCount, allWords]

/-- The backslash of an escape that has met nothing yet. -/
def pending : Mode → Nat
  | .escaped | .doubleEscaped => 1
  | _ => 0

/-- How many characters there are, in the words and pending. -/
def weight (r : Reading) : Nat := r.charCount + pending r.mode

@[simp] theorem weight_mode (r : Reading) (m : Mode) :
    weight ⟨r.words, r.word?, m⟩ = r.charCount + pending m := by
  rw [weight, charCount_mk, ← charCount_mk r.words r.word? r.mode]

@[simp] theorem weight_add (r : Reading) (s : List Char) (m : Mode) :
    (r.add s m).weight = r.charCount + s.length + pending m := by
  obtain ⟨ws, w?, _⟩ := r
  simp only [add, weight, charCount_mk, Option.getD_some, List.length_append, Nat.add_assoc]

@[simp] theorem weight_allWords (r : Reading) (m : Mode) :
    weight ⟨r.allWords, none, m⟩ = r.charCount + pending m := by
  rw [weight, charCount_mk, charCount, Option.getD_none, List.length_nil, Nat.add_zero]

/-- No character makes more than one. -/
theorem weight_step (h : r.step c = .ok q) : q.weight ≤ r.weight + 1 := by
  -- Two characters are made only of a backslash that escapes nothing, which was pending.
  have hr : r.weight = r.charCount + pending r.mode := rfl
  rw [step] at h
  split at h <;> rename_i hmode <;> rw [hr, hmode]
  · rw [plainStep] at h
    split_ifs at h <;> cases h <;> simp [pending]
  · rw [escapedStep] at h
    split_ifs at h <;> cases h <;> simp [pending]
    omega
  · rw [singleStep] at h
    split_ifs at h <;> cases h <;> simp [pending]
  · rw [doubleStep] at h
    split_ifs at h <;> cases h <;> simp [pending]
  · rw [doubleEscapedStep] at h
    split_ifs at h <;> cases h <;> simp [pending]
    omega

theorem weight_read (h : r.read s = .ok q) : q.weight ≤ r.weight + s.length := by
  induction s generalizing r with
  | nil =>
    cases h
    exact Nat.le_refl _
  | cons c s ih =>
    rw [read_cons] at h
    obtain ⟨r₁, hstep, hrest⟩ := exists_of_bind_eq_ok h
    have hone := weight_step hstep
    have hmore := ih hrest
    rw [List.length_cons]
    omega

/-- A double quote at the end of a text that can end there makes no character: it ends
a quotation, or it stands for itself behind a backslash that was counted. -/
theorem weight_of_closing (h : r.step '"' = .ok q) (hmode : q.mode = .plain) :
    q.weight ≤ r.weight := by
  rw [step] at h
  split at h <;> rename_i hr
  · cases h
    cases hmode
  · cases h
    rw [weight_add, weight, hr]
    exact Nat.le_refl _
  · cases h
    cases hmode
  · cases h
    rw [weight_add, weight, hr]
    exact Nat.le_refl _
  · cases h
    cases hmode

/-- Of a text with a double quote behind it no more is read than the text has characters. -/
theorem charCount_of_readAll (h : r.readAll (s ++ ['"']) = .ok vs) :
    vs.flatten.length ≤ r.weight + s.length := by
  rw [readAll, read_append] at h
  obtain ⟨r₂, hread, hfinish⟩ := exists_of_bind_eq_ok h
  obtain ⟨r₁, hs, hclose⟩ := exists_of_bind_eq_ok hread
  rw [read_cons] at hclose
  obtain ⟨r₃, hlast, hend⟩ := exists_of_bind_eq_ok hclose
  obtain rfl : r₃ = r₂ := Except.ok.inj hend
  rw [finish] at hfinish
  split_ifs at hfinish with hmode
  cases hfinish
  have hclosing := weight_of_closing hlast hmode
  have hweight := weight_read hs
  rw [weight, charCount] at hclosing
  omega

theorem step_double (hexp : c ∉ quotedExpansions) (hquote : c ≠ '"') (hback : c ≠ '\\')
    (ws : List (List Char)) (w : List Char) :
    step ⟨ws, some w, .double⟩ c = .ok ⟨ws, some (w ++ [c]), .double⟩ := by
  change doubleStep _ c = _
  rw [doubleStep, if_neg hexp, if_neg hquote, if_neg hback]
  rfl

theorem step_doubleEscaped (h : c ∉ escapable) (ws : List (List Char)) (w : List Char) :
    step ⟨ws, some w, .doubleEscaped⟩ c = .ok ⟨ws, some (w ++ ['\\', c]), .double⟩ := by
  have hline : c ≠ '\n' := by
    rintro rfl
    exact h (by decide)
  change doubleEscapedStep _ c = _
  rw [doubleEscapedStep, if_neg hline, if_neg h]
  rfl

/-- Behind a backslash between double quotes, a character that is escaped leaves itself
alone, or nothing. -/
theorem step_escapable (h : c ∈ escapable) (ws : List (List Char)) (w : List Char) :
    ∃ t : List Char, t.length ≤ 1 ∧
      step ⟨ws, some w, .doubleEscaped⟩ c = .ok ⟨ws, some (w ++ t), .double⟩ := by
  by_cases hline : c = '\n'
  · subst hline
    exact ⟨[], Nat.zero_le _, rfl⟩
  · refine ⟨[c], Nat.le_refl _, ?_⟩
    change doubleEscapedStep _ c = _
    rw [doubleEscapedStep, if_neg hline, if_pos h]
    rfl

theorem length_of_readAll {m : Mode} {v : List Char}
    (h : readAll ⟨ws, some w, m⟩ (s ++ ['"']) = .ok (ws ++ [v])) :
    v.length ≤ w.length + pending m + s.length := by
  have hcount := charCount_of_readAll h
  simp only [weight, charCount_mk, List.flatten_append, List.length_append, List.flatten_singleton,
    Option.getD_some] at hcount
  omega

theorem readAll_ne_of_escapable (h : c ∈ escapable) :
    readAll ⟨ws, some w, .doubleEscaped⟩ (c :: (s ++ ['"'])) ≠
      .ok (ws ++ [w ++ '\\' :: c :: s]) := by
  intro hread
  -- the backslash is lost, and nothing makes up for it
  obtain ⟨t, ht, hstep⟩ := step_escapable h ws w
  rw [readAll_cons_of_step hstep] at hread
  have hlength := length_of_readAll hread
  simp only [List.length_append, List.length_cons, pending] at hlength
  omega

theorem readAll_ne_of_quotedExpansion (h : c ∈ quotedExpansions) :
    readAll ⟨ws, some w, .double⟩ (c :: t) ≠ .ok vs := by
  intro hread
  have hstep : step ⟨ws, some w, .double⟩ c = .error (.expansion c) := if_pos h
  rw [readAll, read_cons, hstep] at hread
  cases hread

theorem readAll_ne_of_quote :
    readAll ⟨ws, some w, .double⟩ ('"' :: (s ++ ['"'])) ≠ .ok (ws ++ [w ++ '"' :: s]) := by
  intro hread
  -- what follows is read outside of the quotes, with one character less to make words of
  rw [readAll_cons_of_step (q := ⟨ws, some (w ++ []), .plain⟩) rfl] at hread
  have hlength := length_of_readAll hread
  simp only [List.length_append, List.length_cons, List.length_nil, pending] at hlength
  omega

/-- A text between double quotes, with the quote at the end, is read as one word with this
text exactly when it is inert. -/
theorem readAll_doubleQuoted_iff (ws : List (List Char)) (w s : List Char) :
    readAll ⟨ws, some w, .double⟩ (s ++ ['"']) = .ok (ws ++ [w ++ s]) ↔ inert s := by
  -- the recursion of `inert` takes a backslash together with what follows it
  induction s using inert.induct generalizing w with
  | case1 =>
    apply iff_of_true
    · rw [List.nil_append, readAll_cons_of_step (q := ⟨ws, some (w ++ []), .plain⟩) rfl]
      rfl
    · rfl
  | case2 =>
    -- the quote at the end is escaped, and no other one follows
    have hopen : readAll ⟨ws, some w, .double⟩ (['\\'] ++ ['"']) = .error .unclosed := rfl
    rw [hopen]
    apply iff_of_false
    · intro h
      cases h
    · decide
  | case3 c s ih =>
    have hback : step ⟨ws, some w, .double⟩ '\\' = .ok ⟨ws, some w, .doubleEscaped⟩ := rfl
    rw [List.cons_append, List.cons_append, readAll_cons_of_step hback, inert, Bool.and_eq_true,
      decide_eq_true_eq]
    by_cases hc : c ∈ escapable
    · exact iff_of_false (readAll_ne_of_escapable hc) fun h => h.1 hc
    · rw [readAll_cons_of_step (step_doubleEscaped hc ws w), ← ih (w ++ ['\\', c]),
        List.append_assoc]
      exact ⟨fun h => ⟨hc, h⟩, And.right⟩
  | case4 c s hlast hnext ih =>
    have hback : c ≠ '\\' := by
      rintro rfl
      cases s with
      | nil => exact hlast rfl rfl
      | cons d s => exact hnext d s rfl rfl
    rw [inert.eq_4 c s hlast hnext, Bool.and_eq_true, decide_eq_true_eq, List.mem_cons, not_or,
      List.cons_append]
    by_cases hquote : c = '"'
    · subst hquote
      exact iff_of_false readAll_ne_of_quote fun h => h.1.1 rfl
    by_cases hexp : c ∈ quotedExpansions
    · exact iff_of_false (readAll_ne_of_quotedExpansion hexp) fun h => h.1.2 hexp
    · rw [readAll_cons_of_step (step_double hexp hquote hback ws w), List.append_cons w c s,
        ih (w ++ [c])]
      exact ⟨fun h => ⟨⟨hquote, hexp⟩, h⟩, And.right⟩

end Reading

end RemoteHost.Shell
