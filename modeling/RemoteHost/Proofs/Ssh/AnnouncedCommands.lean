/-
RemoteHost/Proofs/Ssh/AnnouncedCommands.lean

No command reaches a host unlogged.

A command is logged when it is about to be sent, in its exact words, and nothing comes between the
entry and the command (`Announces`).  Calls put together from parts of which that is true are again
such (`Announces.append`), so it is enough to look at each operation by itself
(`Performed.announces`).  Which commands an operation sends is known beforehand, too: the one that
it is carried out by, if it has one and the session has a connection (`Performed.commandsIn_eq`).

Other entries may stand in the log as well, among them the raw output of a listing, which can have
any words; so it is the entry right before a command that counts, not whether there is one.
-/
import Mathlib.Data.List.Basic
import RemoteHost.Proofs.Ssh.SessionLife

namespace RemoteHost.Ssh

open Dialogue

/-! ### Commands among calls -/

/-- The command that a call sends, with the connection that it goes over. -/
def Call.command? : Call → Option (Nat × String)
  | execute n command | start n command => some (n, command)
  | dial _ _ | sendFile _ _ _ _ | close _ | probe _ _ | sleep _ | now | record _ | report _ => none

/-- A call that goes over no connection sends no command. -/
theorem Call.command?_of_isQuiet {c : Call} (h : c.isQuiet) : c.command? = none := by
  cases c with
  | execute n command => cases h
  | start n command => cases h
  | _ => rfl

/-- The commands that are sent in some calls, in order. -/
def commandsIn (t : Calls) : List (Nat × String) := t.filterMap (·.call.command?)

@[simp] theorem commandsIn_append (t₁ t₂ : Calls) :
    commandsIn (t₁ ++ t₂) = commandsIn t₁ ++ commandsIn t₂ := List.filterMap_append

theorem commandsIn_eq_nil {t : Calls} (h : ∀ x ∈ t, x.call.command? = none) : commandsIn t = [] :=
  List.filterMap_eq_nil_iff.2 h

/-- Each command that is sent has its entry in the log right before it. -/
def Announces (t : Calls) : Prop :=
  ∀ earlier x later n command, t = earlier ++ x :: later → x.call.command? = some (n, command) →
    ∃ earlier', earlier = earlier' ++ [announced command]

variable {t t₁ t₂ : Calls}

theorem announces_of_no_command (h : ∀ x ∈ t, x.call.command? = none) : Announces t := by
  rintro earlier x later n command rfl hx
  rw [h x (List.mem_append_right _ List.mem_cons_self)] at hx
  cases hx

theorem announces_pair {x : Exchange Call Call.Reply} {n : Nat} {command : String}
    (hx : x.call.command? = some (n, command)) : Announces [announced command, x] := by
  intro earlier y later m command' heq hy
  match earlier, heq with
  | [], heq =>
    obtain ⟨rfl, -⟩ := List.cons.inj heq
    cases hy
  | [entry], heq =>
    obtain ⟨hentry, heq⟩ := List.cons.inj heq
    obtain ⟨rfl, -⟩ := List.cons.inj heq
    rw [← hentry]
    obtain ⟨rfl, rfl⟩ := Prod.mk.inj (Option.some.inj (hx.symm.trans hy))
    exact ⟨[], rfl⟩
  | _ :: _ :: earlier, heq =>
    have hlength := congrArg List.length heq
    simp only [List.length_cons, List.length_nil, List.length_append] at hlength
    omega

/-- Each part can be looked at by itself: what comes before a command in its part comes before it
in the whole. -/
theorem Announces.append (h₁ : Announces t₁) (h₂ : Announces t₂) : Announces (t₁ ++ t₂) := by
  intro earlier x later n command heq hx
  rcases List.append_eq_append_iff.1 heq with ⟨front, rfl, h⟩ | ⟨rest, h, hlater⟩
  · obtain ⟨front', rfl⟩ := h₂ front x later n command h hx
    exact ⟨t₁ ++ front', (List.append_assoc ..).symm⟩
  · cases rest with
    | nil =>
      -- The command would be the first call of the second part.
      obtain ⟨front, hnil⟩ := h₂ [] x later n command hlater.symm hx
      cases front <;> cases hnil
    | cons y rest =>
      obtain ⟨rfl, -⟩ := List.cons.inj hlater
      exact h₁ earlier x rest n command h hx

theorem announces_flatMap {α : Type} {f : α → Calls} {xs : List α}
    (h : ∀ x ∈ xs, Announces (f x)) : Announces (xs.flatMap f) := by
  induction xs with
  | nil => exact announces_of_no_command fun x hx => absurd hx List.not_mem_nil
  | cons x xs ih =>
    obtain ⟨hx, hxs⟩ := List.forall_mem_cons.1 h
    exact hx.append (ih hxs)

namespace Session

variable {s : Session}

/-! ### The command of an operation -/

/-- The command that carries out an operation, if there is one. -/
def Operation.command? (s : Session) : Operation → Option String
  | .run command => some command
  | .runIn directory command => some (inDirectory directory command)
  | .list path _ => some (listCommand path)
  | .untar archive directory => some (inDirectory directory (untarCommand archive))
  | .upload _ _ _ => none
  | .waitReachable => none
  | .reboot => some s.rebootCommand
  | .esxi request => request.command.toOption

/-- The commands that an operation sends: the one that carries it out, over the live connection. -/
def commandsOf (s : Session) (o : Operation) : List (Nat × String) :=
  s.connection.toList.flatMap fun n => (o.command? s).toList.map (n, ·)

theorem no_command_of_listingLog {logOutput : Bool} {r : Outcome String} :
    ∀ x ∈ listingLog logOutput r, x.call.command? = none := by
  cases r with
  | error e => exact fun x hx => absurd hx List.not_mem_nil
  | ok output =>
    cases logOutput with
    | false => exact fun x hx => absurd hx List.not_mem_nil
    | true =>
      intro x hx
      rw [List.mem_singleton.1 hx]
      rfl

theorem no_command_of_modeLog {mode destination : String} :
    ∀ x ∈ modeLog mode destination, x.call.command? = none := by
  intro x hx
  unfold modeLog at hx
  split at hx
  · rw [List.mem_singleton.1 hx]
    rfl
  · cases hx

theorem no_command_of_reported {records : List LogRecord} :
    ∀ x ∈ records.map reported, x.call.command? = none := by
  intro x hx
  obtain ⟨r, -, rfl⟩ := List.mem_map.1 hx
  rfl

theorem no_command_of_wait {found? : Option (Outcome Nat)} (h : Course s.waitReachable t found?) :
    ∀ x ∈ t, x.call.command? = none :=
  fun x hx => Call.command?_of_isQuiet (quiet_of_waitReachable h x hx)

/-- A file is sent without any command. -/
theorem Uploaded.no_command {payload destination mode : String} {r : Outcome Unit}
    (h : Uploaded s payload destination mode t r) : ∀ x ∈ t, x.call.command? = none := by
  cases h with
  | undecodable hdata => exact fun x hx => absurd hx List.not_mem_nil
  | unreadableMode hdata hmode => exact no_command_of_modeLog
  | unconnected hdata hmode hlive => exact no_command_of_modeLog
  | sent hdata hmode hlive reply =>
    refine List.forall_mem_append.2 ⟨no_command_of_modeLog, fun x hx => ?_⟩
    rw [List.mem_singleton.1 hx]
    rfl

/-- A command is announced and, over a live connection, sent once. -/
theorem Ran.announces {command : String} {r : Outcome String} (h : Ran s command t r) :
    Announces t ∧ commandsIn t = s.connection.toList.map (·, command) := by
  cases h with
  | unconnected hlive =>
    rw [hlive]
    refine ⟨announces_of_no_command fun x hx => ?_, rfl⟩
    rw [List.mem_singleton.1 hx]
    rfl
  | sent hlive reply =>
    rw [hlive]
    exact ⟨announces_pair rfl, rfl⟩

/-- The same with calls behind it that send nothing. -/
theorem Ran.announces_append {command : String} {r : Outcome String} (h : Ran s command t₁ r)
    (h₂ : ∀ x ∈ t₂, x.call.command? = none) :
    Announces (t₁ ++ t₂) ∧ commandsIn (t₁ ++ t₂) = s.connection.toList.map (·, command) := by
  obtain ⟨hannounces, hcommands⟩ := h.announces
  refine ⟨hannounces.append (announces_of_no_command h₂), ?_⟩
  rw [commandsIn_append, hcommands, commandsIn_eq_nil h₂, List.append_nil]

/-- A reboot announces its command and, over a live connection, starts it once. -/
theorem Rebooted.announces {r? : Option (Outcome Unit × Session)} (h : Rebooted s t r?) :
    Announces t ∧ commandsIn t = s.connection.toList.map (·, s.rebootCommand) := by
  -- What comes after the start of the command sends none.
  have hdown : ∀ {n : Nat} (closing : Outcome Unit) {rest : Calls},
      (∀ x ∈ rest, x.call.command? = none) →
      Announces (s.goingDown n closing ++ rest) ∧
        commandsIn (s.goingDown n closing ++ rest) = [(n, s.rebootCommand)] := by
    intro n closing rest hrest
    have hsplit : s.goingDown n closing ++ rest =
        [announced s.rebootCommand, ⟨.start n s.rebootCommand, (.ok () : Outcome Unit)⟩] ++
          (⟨.close n, closing⟩ :: ⟨.sleep s.polling.graceSecs, ()⟩ :: rest) := rfl
    have hnone : ∀ x ∈ (⟨.close n, closing⟩ :: ⟨.sleep s.polling.graceSecs, ()⟩ :: rest : Calls),
        x.call.command? = none :=
      List.forall_mem_cons.2 ⟨rfl, List.forall_mem_cons.2 ⟨rfl, hrest⟩⟩
    rw [hsplit, commandsIn_append, commandsIn_eq_nil hnone]
    exact ⟨(announces_pair rfl).append (announces_of_no_command hnone), rfl⟩
  cases h with
  | unconnected hlive =>
    rw [hlive]
    exact ⟨announces_of_no_command fun x hx => absurd hx List.not_mem_nil, rfl⟩
  | unstarted hlive e =>
    rw [hlive]
    exact ⟨announces_pair rfl, rfl⟩
  | brokenOff hlive closing hwait =>
    rw [hlive]
    exact hdown closing (no_command_of_wait hwait)
  | timedOut hlive closing hwait =>
    rw [hlive]
    exact hdown closing (no_command_of_wait hwait)
  | refused hlive closing hwait e =>
    rw [hlive, List.append_assoc]
    refine hdown closing (List.forall_mem_append.2 ⟨no_command_of_wait hwait, ?_⟩)
    exact List.forall_mem_cons.2 ⟨rfl, List.forall_mem_cons.2 ⟨rfl, List.forall_mem_singleton.2 rfl⟩⟩
  | back hlive closing hwait =>
    rw [hlive, List.append_assoc]
    refine hdown closing (List.forall_mem_append.2 ⟨no_command_of_wait hwait, ?_⟩)
    exact List.forall_mem_cons.2 ⟨rfl, List.forall_mem_singleton.2 rfl⟩

/-- An operation announces the command that carries it out and, over a live connection, sends it
once. -/
theorem Performed.announces {o : Operation} {r? : Option (Outcome Result × Session)}
    (h : Performed s o t r?) : Announces t ∧ commandsIn t = s.commandsOf o := by
  have hone : ∀ {command : String}, o.command? s = some command →
      s.commandsOf o = s.connection.toList.map (·, command) := by
    intro command hcommand
    rw [commandsOf, hcommand]
    cases s.connection <;> rfl
  have hnone : o.command? s = none → (∀ x ∈ t, x.call.command? = none) →
      Announces t ∧ commandsIn t = s.commandsOf o := by
    intro hcommand ht
    refine ⟨announces_of_no_command ht, ?_⟩
    rw [commandsIn_eq_nil ht, commandsOf, hcommand]
    cases s.connection <;> rfl
  cases h with
  | run h =>
    rw [hone rfl]
    exact h.announces
  | runIn h =>
    rw [hone rfl]
    exact h.announces
  | list h =>
    rw [hone rfl]
    exact h.announces_append no_command_of_listingLog
  | untar h =>
    rw [hone rfl]
    exact h.announces
  | upload h => exact hnone rfl h.no_command
  | waitReachable h => exact hnone rfl (no_command_of_wait h)
  | reboot h =>
    rw [hone rfl]
    exact h.announces
  | @unasked request e hcommand =>
    refine hnone ?_ fun x hx => absurd hx List.not_mem_nil
    rw [Operation.command?, hcommand]
    rfl
  | @asked request command t r hcommand h =>
    rw [@hone command (by rw [Operation.command?, hcommand]; rfl)]
    exact h.announces_append no_command_of_reported

/-! ### Operations in turn -/

/-- **Every command is announced.**  Whatever the outside answers and whether or not the session has
a connection, in any sequence of operations each command that is run or started comes right after
its entry in the log of commands, in the very words that are sent.

The commands that reach the host are those that carry out the operations, in order, each sent once
over the connection that the operation finds the session with. -/
theorem command_follows_its_entry {ω : Type} (answer : (c : Call) → ω → c.Reply × ω) (w : ω)
    (s : Session) (os : List Operation) :
    let t := (play answer (s.performAll os) w).exchanges
    (∀ earlier x later n command, t = earlier ++ x :: later →
      (x.call = .execute n command ∨ x.call = .start n command) →
        ∃ earlier', earlier =
          earlier' ++ [⟨.record ⟨.info, "running command: " ++ command⟩, ()⟩]) ∧
    commandsIn t =
      (performances answer s w os).flatMap fun p => p.session.commandsOf p.operation := by
  intro t
  have ht : t = (performances answer s w os).flatMap (·.calls) := exchanges_performAll answer w os
  have hperformed : ∀ p ∈ performances answer s w os,
      Announces p.calls ∧ commandsIn p.calls = p.session.commandsOf p.operation := by
    intro p hp
    obtain ⟨earlier, later, hps⟩ := List.append_of_mem hp
    exact (performances_cut answer hps).1.announces
  have hannounces : Announces t := by
    rw [ht]
    exact announces_flatMap fun p hp => (hperformed p hp).1
  refine ⟨?_, ?_⟩
  · intro earlier x later n command heq hx
    refine hannounces earlier x later n command heq ?_
    rcases hx with hx | hx <;> rw [hx] <;> rfl
  · rw [ht, commandsIn, List.filterMap_flatMap]
    exact List.flatMap_congr fun p hp => (hperformed p hp).2

end Session

end RemoteHost.Ssh
