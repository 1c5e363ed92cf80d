/-
RemoteHost/Proofs/Winrm/CopyShells.lean

The shells of a copier live an orderly life, whatever the outside answers.

Each step from one script to the next keeps to the rules of `Orderly`, with the shell that
the copier holds as the state (`orderly_runStep`), so a whole run does (`orderly_runSteps`),
and at its end the copier lets go of what it holds (`orderly_copyHolding`).

`Copier.plays` are the copies that one copier makes in turn, each beginning with the shell
that the one before left behind and against the outside as it left it.
-/
import RemoteHost.Proofs.Winrm.CopyRuns
import RemoteHost.Proofs.Winrm.ShellEvents

namespace RemoteHost.Winrm.Copier

open Dialogue FileCopy

variable {σ ω : Type} {c : Copier σ}

/-! ### One copy -/

/-- A shell that is got for a command may serve it. -/
theorem Leasing.orderly_ok {held : Option Lease} {t : Calls σ} {l : Lease}
    (h : Leasing c held t (.ok l)) :
    Orderly c.commandsPerShell held (shellEvents t) (some l) ∧
      l.served < c.commandsPerShell := by
  cases h with
  | kept h => exact ⟨.nil _, h⟩
  | opened shell => exact ⟨.one (.opened shell), c.commandsPerShell_pos⟩
  | rotated h shell => exact ⟨.cons .closed (.one (.opened shell)), c.commandsPerShell_pos⟩

theorem Leasing.orderly_error {held : Option Lease} {t : Calls σ} {e : Failure}
    (h : Leasing c held t (.error e)) :
    Orderly c.commandsPerShell held (shellEvents t) none := by
  cases h with
  | notOpened e => exact .one .refused
  | stuck h e => exact .one .closed
  | notRotated h e => exact .cons .closed (.one .refused)

theorem orderly_runStep {held : Option Lease} {s : Step} {t : Calls σ}
    {r : Outcome String × Option Lease} (h : Runs (c.runStep held s) t r) :
    Orderly c.commandsPerShell held (shellEvents t) r.2 := by
  rcases runs_runStep h with ⟨e, hl, rfl⟩ | ⟨l, t', reply, hl, rfl, rfl⟩
  · exact hl.orderly_error
  · obtain ⟨ho, hs⟩ := hl.orderly_ok
    rw [shellEvents_append]
    exact ho.append (.one (.ran hs))

theorem orderly_runSteps {held : Option Lease} {output : String} {steps : List Step}
    {t : Calls σ} {r : Outcome String × Option Lease}
    (h : Runs (c.runSteps held output steps) t r) :
    Orderly c.commandsPerShell held (shellEvents t) r.2 := by
  induction steps generalizing held output t with
  | nil =>
    obtain ⟨rfl, rfl⟩ := runs_done.1 h
    exact .nil held
  | cons s steps ih =>
    obtain ⟨t₁, t₂, ⟨o, held'⟩, rfl, h₁, h₂⟩ := runs_bind.1 h
    have ho := orderly_runStep h₁
    rw [shellEvents_append]
    cases o with
    | error e =>
      obtain ⟨rfl, rfl⟩ := runs_done.1 h₂
      exact ho.append (.nil held')
    | ok output' => exact ho.append (ih h₂)

theorem orderly_release {held held' : Option Lease} {t : Calls σ}
    (h : Runs (c.release held) t held') :
    Orderly c.commandsPerShell held (shellEvents t) none := by
  rcases runs_release h with ⟨-, ⟨rfl, rfl⟩ | ⟨l, rfl, rfl | ⟨e, r, rfl⟩⟩⟩
  · exact .nil none
  · exact .one .closed
  · exact .one .closed

/-- A copy ends without a shell, and all is in order until then. -/
theorem orderly_copyHolding {held : Option Lease} {data : Bytes} {destination : String}
    {t : Calls σ} {r : Outcome Nat × Option Lease}
    (h : Runs (c.copyHolding held data destination) t r) :
    Orderly c.commandsPerShell held (shellEvents t) none ∧ r.2 = none := by
  obtain ⟨t₁, t₂, o, held', rfl, h₁, h₂, rfl⟩ := runs_copyHolding h
  rw [shellEvents_append]
  exact ⟨(orderly_runSteps h₁).append (orderly_release h₂), rfl⟩

/-! ### Copies in turn -/

/-- What comes of a copy. -/
abbrev CopyPlayed (σ ω : Type) :=
  Played (ShellCall σ) ShellCall.Reply ω (Outcome Nat × Option Lease)

/-- The copies of some files that one copier makes in turn. -/
def plays (c : Copier σ) (answer : (x : ShellCall σ) → ω → x.Reply × ω) :
    Option Lease → List (Bytes × String) → ω → List (CopyPlayed σ ω)
  | _, [], _ => []
  | held, (data, destination) :: files, w =>
    let p := (c.copyHolding held data destination).play answer w
    p :: match p.result? with
      | some (_, held) => c.plays answer held files p.state
      | none => []

variable (answer : (x : ShellCall σ) → ω → x.Reply × ω)

/-- Each of the copies comes to its end and leaves no shell behind. -/
theorem plays_end (files : List (Bytes × String)) (w : ω) :
    (c.plays answer none files w).length = files.length ∧
      ∀ p ∈ c.plays answer none files w, (∃ r, p.result? = some (r, none)) ∧
        Orderly c.commandsPerShell none (shellEvents p.exchanges) none := by
  induction files generalizing w with
  | nil => exact ⟨rfl, fun p hp => absurd hp (by simp [plays])⟩
  | cons file files ih =>
    obtain ⟨data, destination⟩ := file
    obtain ⟨⟨r, held⟩, hr⟩ :=
      (returns_copyHolding (c := c) none data destination).play answer w
    obtain ⟨ho, rfl⟩ := orderly_copyHolding (runs_of_play hr)
    simp only [plays, hr, List.length_cons, List.mem_cons, forall_eq_or_imp]
    obtain ⟨hlen, hall⟩ := ih ((c.copyHolding none data destination).play answer w).state
    exact ⟨by rw [hlen], ⟨⟨r, rfl⟩, ho⟩, hall⟩

/-- What the copies that a copier makes in turn do to shells. -/
def eventsOf (copies : List (CopyPlayed σ ω)) : List ShellEvent :=
  (copies.map fun p => shellEvents p.exchanges).flatten

theorem orderly_plays (files : List (Bytes × String)) (w : ω) :
    Orderly c.commandsPerShell none (eventsOf (c.plays answer none files w)) none := by
  refine .flatten fun es hes => ?_
  obtain ⟨p, hp, rfl⟩ := List.mem_map.1 hes
  exact ((plays_end answer files w).2 p hp).2

/-- **Shells are opened and closed in turn.**  A copier copies some files one after the
other, against any outside.  Every copy comes to its end, with no shell left.  In each copy
a shell that was opened runs at most as many commands as it may, with nothing in between,
and is then closed; and it is closed as often as it is opened.  Over all the copies
together, at any time at most one shell is open, and only the open one runs commands or is
closed. -/
theorem plays_shells_in_turn (c : Copier σ) (files : List (Bytes × String)) (w : ω) :
    let copies := c.plays answer none files w
    copies.length = files.length ∧
    (∀ p ∈ copies, ∃ r, p.result? = some (r, none)) ∧
    (∀ p ∈ copies, ∀ before shell after,
      shellEvents p.exchanges = before ++ .opened shell :: after →
        ∃ k rest, k ≤ c.commandsPerShell ∧
          after = List.replicate k (.ran shell) ++ .closed shell :: rest) ∧
    (∀ p ∈ copies, ∀ shell,
      (shellEvents p.exchanges).count (.closed shell) =
        (shellEvents p.exchanges).count (.opened shell)) ∧
    (∀ before after, eventsOf copies = before ++ after → (openShells before).length ≤ 1) ∧
    (∀ before shell after, eventsOf copies = before ++ .ran shell :: after →
      openShells before = [shell]) ∧
    (∀ before shell after, eventsOf copies = before ++ .closed shell :: after →
      openShells before = [shell]) := by
  obtain ⟨hlen, hall⟩ := plays_end (c := c) answer files w
  have ho := orderly_plays (c := c) answer files w
  refine ⟨hlen, fun p hp => (hall p hp).1, ?_, ?_, ?_, ?_, ?_⟩
  · intro p hp before shell after hes
    exact Orderly.stay (hes ▸ (hall p hp).2)
  · intro p hp shell
    exact (hall p hp).2.count_closed_eq shell
  · intro before after hes
    exact Orderly.length_openShells_le (hes ▸ ho)
  · intro before shell after hes
    exact Orderly.openShells_of_ran (hes ▸ ho)
  · intro before shell after hes
    exact Orderly.openShells_of_closed (hes ▸ ho)

end RemoteHost.Winrm.Copier
