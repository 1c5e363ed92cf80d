/-
RemoteHost/Proofs/Winrm/ShellEvents.lean

The life of shells, read off the calls that were made.

`shellEvents t` keeps of the calls `t` what matters to shells: one was opened, or was not,
a command was run in one, one was closed.  `openShells` is the bookkeeping of an observer
who sees only these events.

    Orderly cap s es s'

says that the events lead from a state with the shell `s`, if any, to one with the shell
`s'`: shells are opened only while none is open, only the open shell runs commands and is
closed, and it runs at most `cap` of them.  So in an orderly life that begins and ends
without a shell, every shell that is opened runs commands of its own, is closed once, and
is closed before the next one is opened (`Orderly.stay`).
-/
import RemoteHost.Winrm.FileCopy

namespace RemoteHost.Winrm

/-- What a call does to shells. -/
inductive ShellEvent where
  /-- A shell was opened. -/
  | opened (shell : String)
  /-- No shell was opened, though it was tried. -/
  | refused
  /-- A command was run in a shell. -/
  | ran (shell : String)
  /-- A shell was closed, or at least it was tried. -/
  | closed (shell : String)
  deriving DecidableEq, Repr

/-- What an exchange does to shells, if anything. -/
def ShellEvent.of? {σ : Type} : Exchange (ShellCall σ) ShellCall.Reply → Option ShellEvent
  | ⟨.openShell _, (.ok shell : Outcome String)⟩ => some (.opened shell)
  | ⟨.openShell _, (.error _ : Outcome String)⟩ => some .refused
  | ⟨.run _ shell _ _, _⟩ => some (.ran shell)
  | ⟨.runOrCancel _ shell _ _, _⟩ => some (.ran shell)
  | ⟨.closeShell _ shell, _⟩ => some (.closed shell)
  | ⟨.localFile _, _⟩ => none
  | ⟨.report _, _⟩ => none

/-- What some exchanges do to shells. -/
def shellEvents {σ : Type} (t : List (Exchange (ShellCall σ) ShellCall.Reply)) :
    List ShellEvent := t.filterMap ShellEvent.of?

@[simp] theorem shellEvents_append {σ : Type}
    (t₁ t₂ : List (Exchange (ShellCall σ) ShellCall.Reply)) :
    shellEvents (t₁ ++ t₂) = shellEvents t₁ ++ shellEvents t₂ := by
  simp [shellEvents]

/-- The open shells after an event, from those before it. -/
def ShellEvent.openAfter (shells : List String) : ShellEvent → List String
  | opened shell => shell :: shells
  | refused => shells
  | ran _ => shells
  | closed shell => shells.erase shell

/-- The shells that are open after some events, when none was before. -/
def openShells (es : List ShellEvent) : List String := es.foldl ShellEvent.openAfter []

/-! ### Orderly lives -/

open Copier (Lease)

/-- One event that leads from a shell to a shell, if any. -/
inductive Orderly.Step (cap : Nat) : Option Lease → ShellEvent → Option Lease → Prop
  | opened (shell : String) : Step cap none (.opened shell) (some { shell })
  | refused : Step cap none .refused none
  | ran {shell : String} {n : Nat} :
      n < cap → Step cap (some ⟨shell, n⟩) (.ran shell) (some ⟨shell, n + 1⟩)
  | closed {shell : String} {n : Nat} : Step cap (some ⟨shell, n⟩) (.closed shell) none

/-- Events that lead from a shell to a shell, if any. -/
inductive Orderly (cap : Nat) : Option Lease → List ShellEvent → Option Lease → Prop
  | nil (s : Option Lease) : Orderly cap s [] s
  | cons {s s' s'' : Option Lease} {e : ShellEvent} {es : List ShellEvent} :
      Orderly.Step cap s e s' → Orderly cap s' es s'' → Orderly cap s (e :: es) s''

namespace Orderly

variable {cap : Nat} {s s' s'' : Option Lease} {e : ShellEvent} {es es₁ es₂ : List ShellEvent}

theorem one (h : Step cap s e s') : Orderly cap s [e] s' := .cons h (.nil s')

theorem append (h₁ : Orderly cap s es₁ s') (h₂ : Orderly cap s' es₂ s'') :
    Orderly cap s (es₁ ++ es₂) s'' := by
  induction h₁ with
  | nil s => exact h₂
  | cons h _ ih => exact .cons h (ih h₂)

/-- Orderly events pass through a state wherever they are cut. -/
theorem cut (h : Orderly cap s (es₁ ++ es₂) s'') :
    ∃ s', Orderly cap s es₁ s' ∧ Orderly cap s' es₂ s'' := by
  induction es₁ generalizing s with
  | nil => exact ⟨s, .nil s, h⟩
  | cons e es₁ ih =>
    cases h with
    | cons hs h =>
      obtain ⟨s', h₁, h₂⟩ := ih h
      exact ⟨s', .cons hs h₁, h₂⟩

/-- Lives that begin and end without a shell may follow one another. -/
theorem flatten {lives : List (List ShellEvent)} (h : ∀ es ∈ lives, Orderly cap none es none) :
    Orderly cap none lives.flatten none := by
  induction lives with
  | nil => exact .nil none
  | cons es lives ih =>
    rw [List.flatten_cons]
    exact (h es (by simp)).append (ih fun es' h' => h es' (List.mem_cons_of_mem es h'))

/-! ### What an observer sees -/

/-- The shells that are open in a state: at most one. -/
def shells (s : Option Lease) : List String := (s.map (·.shell)).toList

theorem length_shells_le (s : Option Lease) : (shells s).length ≤ 1 := by
  cases s <;> simp [shells]

theorem Step.openAfter_eq (h : Step cap s e s') : e.openAfter (shells s) = shells s' := by
  cases h <;> simp [shells, ShellEvent.openAfter]

/-- The observer's books agree with the state. -/
theorem foldl_openAfter (h : Orderly cap s es s') :
    es.foldl ShellEvent.openAfter (shells s) = shells s' := by
  induction h with
  | nil s => rfl
  | cons h _ ih => rw [List.foldl_cons, h.openAfter_eq, ih]

theorem openShells_eq (h : Orderly cap none es s) : openShells es = shells s :=
  foldl_openAfter h

/-- At any time at most one shell is open. -/
theorem length_openShells_le (h : Orderly cap none (es₁ ++ es₂) s) :
    (openShells es₁).length ≤ 1 := by
  obtain ⟨s', h₁, -⟩ := h.cut
  rw [openShells_eq h₁]
  exact length_shells_le s'

/-- A command is run in the open shell. -/
theorem openShells_of_ran {shell : String} (h : Orderly cap none (es₁ ++ .ran shell :: es₂) s) :
    openShells es₁ = [shell] := by
  obtain ⟨s', h₁, h₂⟩ := h.cut
  rw [openShells_eq h₁]
  cases h₂ with
  | cons hs _ =>
    cases hs
    rfl

/-- It is the open shell that is closed. -/
theorem openShells_of_closed {shell : String}
    (h : Orderly cap none (es₁ ++ .closed shell :: es₂) s) : openShells es₁ = [shell] := by
  obtain ⟨s', h₁, h₂⟩ := h.cut
  rw [openShells_eq h₁]
  cases h₂ with
  | cons hs _ =>
    cases hs
    rfl

/-- From an open shell to none: first its commands, then it is closed. -/
theorem until_closed {l : Lease} (h : Orderly cap (some l) es none) :
    ∃ k rest, l.served + k ≤ max cap l.served ∧
      es = List.replicate k (.ran l.shell) ++ .closed l.shell :: rest ∧
      Orderly cap none rest none := by
  induction es generalizing l with
  | nil => cases h
  | cons e es ih =>
    cases h with
    | cons hs h =>
      -- The shell that is open runs one more command or is closed; it cannot be opened.
      cases hs with
      | @ran shell n hn =>
        obtain ⟨k, rest, hk, rfl, hr⟩ := ih h
        exact ⟨k + 1, rest, by simp only at hk ⊢; omega, rfl, hr⟩
      | @closed shell n => exact ⟨0, es, by simp only; omega, rfl, h⟩

/-- The stay of a shell: it is opened, runs at most `cap` commands and is closed, with
nothing in between. -/
theorem stay {shell : String} (h : Orderly cap none (es₁ ++ .opened shell :: es₂) none) :
    ∃ k rest, k ≤ cap ∧ es₂ = List.replicate k (.ran shell) ++ .closed shell :: rest := by
  obtain ⟨s', -, h₂⟩ := h.cut
  cases h₂ with
  | cons hs h₂ =>
    cases hs
    obtain ⟨k, rest, hk, rfl, -⟩ := until_closed h₂
    exact ⟨k, rest, by simpa using hk, rfl⟩

/-- The open shell counts as one that is yet to be closed. -/
theorem count_opened_add (shell : String) (h : Orderly cap s es s') :
    es.count (.opened shell) + (shells s).count shell =
      es.count (.closed shell) + (shells s').count shell := by
  induction h with
  | nil s => simp
  | cons hs _ ih =>
    cases hs <;> simp_all [shells, List.count_cons]
    omega

/-- A shell is closed as often as it is opened. -/
theorem count_closed_eq (shell : String) (h : Orderly cap none es none) :
    es.count (.closed shell) = es.count (.opened shell) := by
  have := count_opened_add shell h
  simpa [shells] using this.symm

end Orderly

end RemoteHost.Winrm
