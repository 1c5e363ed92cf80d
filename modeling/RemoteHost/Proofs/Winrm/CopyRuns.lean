/-
RemoteHost/Proofs/Winrm/CopyRuns.lean

What a copier does, step by step.

A copier may fail to open a shell, to run a script in it or to close it, at any call.  Each
of its steps is inverted here once: what a run of the step can look like, with every way to
fail (`Leasing`, `runs_runStep`, `runs_release`).  What is proved of copies rests on these
and not on the definitions behind them.
-/
import RemoteHost.Proofs.Dialogue
import RemoteHost.Winrm.FileCopy

namespace RemoteHost.Winrm.Copier

open Dialogue FileCopy

variable {σ : Type} {c : Copier σ}

/-- The calls of an operation in shells, with their replies. -/
abbrev Calls (σ : Type) := List (Exchange (ShellCall σ) ShellCall.Reply)

/-! ### What the steps of a copier do -/

/-- Ways to get a shell for a command: the calls, and the outcome. -/
inductive Leasing (c : Copier σ) : Option Lease → Calls σ → Outcome Lease → Prop
  /-- The shell that is held may serve another command. -/
  | kept {l : Lease} (h : l.served < c.commandsPerShell) : Leasing c (some l) [] (.ok l)
  /-- None is held, and a new one is opened. -/
  | opened (shell : String) :
      Leasing c none [⟨.openShell c.service, .ok shell⟩] (.ok { shell })
  | notOpened (e : Failure) : Leasing c none [⟨.openShell c.service, .error e⟩] (.error e)
  /-- The shell that is held has served enough, and cannot be closed. -/
  | stuck {l : Lease} (h : ¬ l.served < c.commandsPerShell) (e : Failure) :
      Leasing c (some l) [⟨.closeShell c.service l.shell, .error e⟩] (.error e)
  /-- It is closed, and a new one is opened. -/
  | rotated {l : Lease} (h : ¬ l.served < c.commandsPerShell) (shell : String) :
      Leasing c (some l)
        [⟨.closeShell c.service l.shell, .ok ()⟩, ⟨.openShell c.service, .ok shell⟩]
        (.ok { shell })
  | notRotated {l : Lease} (h : ¬ l.served < c.commandsPerShell) (e : Failure) :
      Leasing c (some l)
        [⟨.closeShell c.service l.shell, .ok ()⟩, ⟨.openShell c.service, .error e⟩] (.error e)

theorem runs_newLease {t : Calls σ} {r : Outcome Lease} (h : Runs c.newLease t r) :
    ∃ reply : Outcome String, t = [⟨.openShell c.service, reply⟩] ∧
      r = reply.map fun shell => { shell } := by
  obtain ⟨reply, t', rfl, h₁⟩ := runs_call.1 h
  obtain ⟨rfl, rfl⟩ := runs_done.1 h₁
  exact ⟨reply, rfl, rfl⟩

theorem runs_lease {held : Option Lease} {t : Calls σ} {r : Outcome Lease}
    (h : Runs (c.lease held) t r) : Leasing c held t r := by
  cases held with
  | none =>
    obtain ⟨reply, rfl, rfl⟩ := runs_newLease h
    cases reply with
    | ok shell => exact .opened shell
    | error e => exact .notOpened e
  | some l =>
    by_cases hl : l.served < c.commandsPerShell
    · rw [lease, if_pos hl] at h
      obtain ⟨rfl, rfl⟩ := runs_done.1 h
      exact .kept hl
    · rw [lease, if_neg hl] at h
      obtain ⟨reply, t', rfl, h₁⟩ := runs_call.1 h
      cases reply with
      | error e =>
        obtain ⟨rfl, rfl⟩ := runs_done.1 h₁
        exact .stuck hl e
      | ok u =>
        obtain ⟨reply, rfl, rfl⟩ := runs_newLease h₁
        cases reply with
        | ok shell => exact .rotated hl shell
        | error e => exact .notRotated hl e

/-- A call that runs a script in a shell, with the reply. -/
def ran (c : Copier σ) (shell : String) (s : Step) (reply : Outcome ShellOutput) :
    Exchange (ShellCall σ) ShellCall.Reply :=
  ⟨.run c.service shell PowerShell.program (PowerShell.arguments s.script), reply⟩

/-- A script is run in the shell that was got for it, or not at all. -/
theorem runs_runStep {held : Option Lease} {s : Step} {t : Calls σ}
    {r : Outcome String × Option Lease} (h : Runs (c.runStep held s) t r) :
    (∃ e, Leasing c held t (.error e) ∧ r = (.error e, none)) ∨
      ∃ l t' reply, Leasing c held t' (.ok l) ∧
        t = t' ++ [c.ran l.shell s reply] ∧
        r = (Except.bind reply s.conclude, some { l with served := l.served + 1 }) := by
  obtain ⟨t₁, t₂, o, rfl, h₁, h₂⟩ := runs_bind.1 h
  have hl := runs_lease h₁
  cases o with
  | error e =>
    obtain ⟨rfl, rfl⟩ := runs_done.1 h₂
    rw [List.append_nil]
    exact .inl ⟨e, hl, rfl⟩
  | ok l =>
    obtain ⟨reply, t', rfl, h₃⟩ := runs_call.1 h₂
    obtain ⟨rfl, rfl⟩ := runs_done.1 h₃
    exact .inr ⟨l, t₁, reply, hl, rfl, rfl⟩

/-- The first one of some scripts is not run, or it fails, or the others follow. -/
theorem runs_runSteps_cons {held : Option Lease} {output : String} {s : Step}
    {steps : List Step} {t : Calls σ} {r : Outcome String × Option Lease}
    (h : Runs (c.runSteps held output (s :: steps)) t r) :
    (∃ e, Leasing c held t (.error e) ∧ r = (.error e, none)) ∨
      ∃ l t₁ reply t₂, Leasing c held t₁ (.ok l) ∧ t = t₁ ++ c.ran l.shell s reply :: t₂ ∧
        ((∃ e, Except.bind reply s.conclude = .error e ∧ t₂ = [] ∧ r.1 = .error e) ∨
          ∃ text, Except.bind reply s.conclude = .ok text ∧
            Runs (c.runSteps (some { l with served := l.served + 1 }) text steps) t₂ r) := by
  obtain ⟨t', t₂, ⟨o, held'⟩, rfl, h₁, h₂⟩ := runs_bind.1 h
  rcases runs_runStep h₁ with ⟨e, hl, hr⟩ | ⟨l, t₁, reply, hl, rfl, hr⟩
  · obtain ⟨rfl, rfl⟩ := Prod.mk.inj hr
    obtain ⟨rfl, rfl⟩ := runs_done.1 h₂
    rw [List.append_nil]
    exact .inl ⟨e, hl, rfl⟩
  · obtain ⟨ho, rfl⟩ := Prod.mk.inj hr
    refine .inr ⟨l, t₁, reply, t₂, hl, List.append_assoc _ _ _, ?_⟩
    cases o with
    | error e =>
      obtain ⟨rfl, rfl⟩ := runs_done.1 h₂
      exact .inl ⟨e, ho.symm, rfl, rfl⟩
    | ok text => exact .inr ⟨text, ho.symm, h₂⟩

/-- The shell that is held is closed, and a failure to close it reported. -/
theorem runs_release {held : Option Lease} {t : Calls σ} {held' : Option Lease}
    (h : Runs (c.release held) t held') :
    held' = none ∧
      ((held = none ∧ t = []) ∨ ∃ l, held = some l ∧
        (t = [⟨.closeShell c.service l.shell, .ok ()⟩] ∨
          ∃ e r, t = [⟨.closeShell c.service l.shell, .error e⟩, ⟨.report r, ()⟩])) := by
  cases held with
  | none =>
    obtain ⟨rfl, rfl⟩ := runs_done.1 h
    exact ⟨rfl, .inl ⟨rfl, rfl⟩⟩
  | some l =>
    obtain ⟨reply, t', rfl, h₁⟩ := runs_call.1 h
    cases reply with
    | ok u =>
      obtain ⟨rfl, rfl⟩ := runs_done.1 h₁
      exact ⟨rfl, .inr ⟨l, rfl, .inl rfl⟩⟩
    | error e =>
      obtain ⟨u, t'', rfl, h₂⟩ := runs_call.1 h₁
      obtain ⟨rfl, rfl⟩ := runs_done.1 h₂
      exact ⟨rfl, .inr ⟨l, rfl, .inr ⟨e, _, rfl⟩⟩⟩

theorem runs_copyHolding {held : Option Lease} {data : Bytes} {destination : String}
    {t : Calls σ} {r : Outcome Nat × Option Lease}
    (h : Runs (c.copyHolding held data destination) t r) :
    ∃ t₁ t₂ o held', t = t₁ ++ t₂ ∧
      Runs (c.runSteps held "" (plan c.chunkSize data destination)) t₁ (o, held') ∧
      Runs (c.release held') t₂ none ∧ r = (o.bind (checkSize data.length destination), none) := by
  obtain ⟨t₁, t', ⟨o, held'⟩, rfl, h₁, h₂⟩ := runs_bind.1 h
  obtain ⟨t₂, t'', held'', rfl, h₃, h₄⟩ := runs_bind.1 h₂
  obtain ⟨rfl, rfl⟩ := runs_done.1 h₄
  -- Letting go leaves no shell, whether it could be closed or not.
  obtain ⟨rfl, -⟩ := runs_release h₃
  exact ⟨t₁, t₂, o, held', by simp, h₁, h₃, rfl⟩

/-! ### Copies never break off -/

theorem returns_newLease : Returns c.newLease := .ask fun _ => .done _

theorem returns_lease (held : Option Lease) : Returns (c.lease held) := by
  cases held with
  | none => exact returns_newLease
  | some l =>
    by_cases hl : l.served < c.commandsPerShell
    · rw [lease, if_pos hl]
      exact .done _
    · rw [lease, if_neg hl]
      refine .ask fun reply => ?_
      cases reply with
      | error e => exact .done _
      | ok u => exact returns_newLease

theorem returns_runStep (held : Option Lease) (s : Step) : Returns (c.runStep held s) := by
  refine (returns_lease held).bind fun o => ?_
  cases o with
  | error e => exact .done _
  | ok l => exact .ask fun _ => .done _

theorem returns_runSteps (held : Option Lease) (output : String) (steps : List Step) :
    Returns (c.runSteps held output steps) := by
  induction steps generalizing held output with
  | nil => exact .done _
  | cons s steps ih =>
    refine (returns_runStep held s).bind fun r => ?_
    obtain ⟨o, held'⟩ := r
    cases o with
    | error e => exact .done _
    | ok output' => exact ih held' output'

theorem returns_release (held : Option Lease) : Returns (c.release held) := by
  cases held with
  | none => exact .done _
  | some l =>
    refine .ask fun reply => ?_
    cases reply with
    | ok u => exact .done _
    | error e => exact .ask fun _ => .done _

theorem returns_copyHolding (held : Option Lease) (data : Bytes) (destination : String) :
    Returns (c.copyHolding held data destination) :=
  (returns_runSteps held "" _).bind fun r => (returns_release r.2).bind fun _ => .done _

end RemoteHost.Winrm.Copier
