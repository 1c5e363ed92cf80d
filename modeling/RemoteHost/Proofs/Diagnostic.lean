/-
RemoteHost/Proofs/Diagnostic.lean

Failures on their way to the user.

Callers put words in front of a failure's message and leave the rest of it as it is
(`Failure.within`).  At the end it is shown in two ways, as a text and as the detail of a diagnostic;
both have the message, and both have the output behind it where anything is left of the output when
it is trimmed (`Failure.presented`).
-/
import RemoteHost.Diagnostic
import RemoteHost.Proofs.Text.Blank

namespace RemoteHost

open Text

namespace Failure

variable {e : Failure} {piece o : String}

/-! ### Words in front -/

/-- The failure with the words of several callers in front, those of the last caller first. -/
def within (words : List String) (e : Failure) : Failure := words.foldr context e

theorem within_append (words words' : List String) (e : Failure) :
    e.within (words ++ words') = (e.within words').within words := List.foldr_append

@[simp] theorem within_kind (words : List String) (e : Failure) :
    (e.within words).kind = e.kind := by
  induction words with
  | nil => rfl
  | cons w words ih => exact ih

@[simp] theorem within_output (words : List String) (e : Failure) :
    (e.within words).output = e.output := by
  induction words with
  | nil => rfl
  | cons w words ih => exact ih

theorem within_message (words : List String) (e : Failure) :
    (e.within words).message = String.join (words.map (· ++ ": ")) ++ e.message := by
  induction words with
  | nil => exact (String.empty_append ..).symm
  | cons w words ih =>
    rw [List.map_cons, String.join_cons, String.append_assoc, ← ih]
    rfl

/-- A piece of the message stays in it, whatever is put in front. -/
theorem contains_within_message (h : contains e.message piece) (words : List String) :
    contains (e.within words).message piece := by
  refine contains_trans ?_ h
  rw [contains, occurs_iff, within_message, String.toList_append]
  exact (List.suffix_append _ _).isInfix

/-! ### Showing failures -/

theorem shownOutput_of_output (h : e.output = some o) (ho : trim o ≠ "") :
    e.shownOutput = some (trim o) := by
  rw [shownOutput, h, Option.bind_some, trimmed?_of_ne ho]

theorem shownOutput_of_blank (h : ∀ o, e.output = some o → trim o = "") :
    e.shownOutput = none := by
  rw [shownOutput]
  cases ho : e.output with
  | none => rfl
  | some o => rw [Option.bind_some, trimmed?_of_eq (h o ho)]

/-- What is shown of a failure, as the detail of its diagnostic and as its text. -/
structure Presented (e : Failure) : Prop where
  /-- The output is shown if anything is left of it when it is trimmed. -/
  with_output : ∀ o, e.output = some o → trim o ≠ "" →
    (Diagnostic.ofFailure e).detail = e.message ++ "\n\n" ++ trim o ∧
      e.display = "[" ++ e.kind.name ++ "] " ++ e.message ++ "\noutput:\n" ++ trim o
  /-- Otherwise nothing is added to the message. -/
  without_output : (∀ o, e.output = some o → trim o = "") →
    (Diagnostic.ofFailure e).detail = e.message ∧
      e.display = "[" ++ e.kind.name ++ "] " ++ e.message

theorem presented (e : Failure) : e.Presented where
  with_output o ho hne := by
    have hshown := shownOutput_of_output ho hne
    constructor
    · simp only [Diagnostic.ofFailure, hshown, String.append_assoc]
    · simp only [display, hshown, String.append_assoc]
  without_output h := by
    have hshown := shownOutput_of_blank h
    constructor
    · rw [Diagnostic.ofFailure, hshown]
      exact String.append_empty
    · rw [display, hshown]
      exact String.append_empty

end Failure

end RemoteHost
