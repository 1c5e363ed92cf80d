/-
RemoteHost/Proofs/Winrm/CarriedScripts.lean

What reaches PowerShell is what was given.

Both the commands of a client and the scripts of a copy go to PowerShell as one argument, in base64
of UTF-16.  That this can be read back, and from no other argument, is in `Proofs.PowerShell`.
Here it is followed through the operations of a client: each of them runs its command, if it has one
and there is a shell to run it in (`commandsOf_perform`), and a sequence of operations runs these
commands in turn (`commandsOf_performAll`).  With what is known of copies, it follows that nothing
is run but what was given (`script_arrives_as_given`).
-/
import RemoteHost.Proofs.PowerShell.CommandLine
import RemoteHost.Proofs.Winrm.ClientShells
import RemoteHost.Proofs.Winrm.CopyPlan

namespace RemoteHost.Winrm

open Dialogue PowerShell FileCopy Copier

variable {σ : Type}

/-! ### Scripts that are run -/

/-- How some scripts are run. -/
def runsOf (scripts : List String) : List (String × List String) :=
  scripts.map fun script => (program, arguments script)

/-- What is read of scripts that are run are these scripts, each behind what all begin with. -/
theorem textOf?_runsOf (scripts : List String) :
    (runsOf scripts).map textOf? = scripts.map fun script => some (preamble ++ script) := by
  rw [runsOf, List.map_map]
  refine List.map_congr_left fun script _ => ?_
  rw [Function.comp_apply, textOf?_arguments]

theorem FileCopy.map_command (steps : List FileCopy.Step) :
    steps.map Step.command = runsOf (steps.map Step.script) := by
  rw [runsOf, List.map_map]
  rfl

namespace Client

variable {c c' : Client σ} {t : Calls σ} {command : String}

/-! ### The commands of operations -/

/-- The command of an operation, if it has one. -/
def Operation.command? : Operation σ → Option String
  | execute command | executeOrCancel command => some command
  | configure _ | openOver _ | destroy => none

/-- The command that was run by an operation with this result: its own, unless there was no shell
to run it in. -/
def ranBy? : Operation σ × Outcome Result → Option String
  | (o, .error e) => if e.kind = .notConnected then none else o.command?
  | (o, .ok _) => o.command?

/-- An operation without a command runs none. -/
theorem ranBy?_of_none {o : Operation σ} (h : o.command? = none) (r : Outcome Result) :
    ranBy? (o, r) = none := by
  cases r with
  | ok result => exact h
  | error e =>
    rw [ranBy?, h]
    exact ite_self none

/-- A command that fails otherwise than for want of a shell was run. -/
theorem ranBy?_of_some {o : Operation σ} (h : o.command? = some command) {r : Outcome String}
    (hr : ∀ e, r = .error e → e.kind ≠ .notConnected) :
    ranBy? (o, r.map .output) = some command := by
  cases r with
  | ok output => exact h
  | error e => exact (if_neg (hr e rfl)).trans h

/-! ### What an operation runs -/

theorem commandsOf_destroy {r : Outcome Unit} (h : Runs c.destroy t (r, c')) :
    commandsOf t = [] := by
  obtain ⟨-, ⟨-, rfl, -⟩ | ⟨o, -, rfl⟩⟩ := runs_destroy h
  · rfl
  · rfl

theorem commandsOf_openOver {service : σ} {r : Outcome Unit}
    (h : Runs (c.openOver service) t (r, c')) : commandsOf t = [] := by
  obtain ⟨closing, t₁, t₂, t₃, reply, rfl, h₁, h₂, h₃⟩ := runs_openOver h
  have hreport : commandsOf t₂ = [] := by
    rcases h₂ with rfl | ⟨record, rfl⟩ <;> rfl
  rw [commandsOf_append, commandsOf_append, commandsOf_destroy h₁, hreport]
  rcases h₃ with ⟨id, -, rfl, -, -⟩ | ⟨e, -, rfl, -, -⟩ <;> rfl

theorem commandsOf_reportAll {log : List LogRecord}
    (h : Runs (reportAll log : ShellTalk σ Unit) t ()) : commandsOf t = [] := by
  induction log generalizing t with
  | nil =>
    obtain ⟨rfl, -⟩ := runs_done.1 h
    rfl
  | cons r log ih =>
    obtain ⟨u, t', rfl, h₁⟩ := runs_call.1 h
    show commandsOf t' = []
    exact ih h₁

theorem commandsOf_keep {o r : Outcome String} (h : Runs (c.keep o) t (r, c')) :
    commandsOf t = [] ∧ r = o := by
  obtain ⟨rfl, ⟨output, -, rfl, -⟩ | ⟨e, record, -, rfl, -⟩⟩ := runs_keep h
  · exact ⟨rfl, rfl⟩
  · exact ⟨rfl, rfl⟩

/-- A command that was run does not fail for want of a shell. -/
theorem ranBy?_of_conclude {o : Operation σ} (h : o.command? = some command)
    {reply : Outcome ShellOutput} {r : Outcome String} (hr : r = c.conclude command reply) :
    ranBy? (o, r.map .output) = some command := by
  refine ranBy?_of_some h fun e he => ?_
  rw [kind_of_conclude (hr.symm.trans he)]
  decide

theorem commandsOf_execute {r : Outcome String} (h : Runs (c.execute command) t (r, c')) :
    commandsOf t = runsOf (ranBy? (Operation.execute (σ := σ) command, r.map .output)).toList := by
  rcases runs_execute h with ⟨-, rfl, rfl, -⟩ | ⟨o, reply, t', -, rfl, h₁⟩
  · rfl
  · obtain ⟨hkeep, hr⟩ := commandsOf_keep h₁
    rw [ranBy?_of_conclude rfl hr]
    exact congrArg ((program, arguments command) :: ·) hkeep

theorem commandsOf_executeOrCancel {r : Outcome String}
    (h : Runs (c.executeOrCancel command) t (r, c')) :
    commandsOf t =
      runsOf (ranBy? (Operation.executeOrCancel (σ := σ) command, r.map .output)).toList := by
  rcases runs_executeOrCancel h with ⟨-, rfl, rfl, -⟩ | ⟨o, reply, t', -, rfl, h₁⟩
  · rfl
  · rcases h₁ with ⟨-, rfl, rfl, -⟩ | ⟨reply', -, h₂⟩
    · -- a cancelled command was handed over all the same
      rfl
    · obtain ⟨hkeep, hr⟩ := commandsOf_keep h₂
      rw [ranBy?_of_conclude rfl hr]
      exact congrArg ((program, arguments command) :: ·) hkeep

/-- An operation runs its command if there is a shell, and nothing else. -/
theorem commandsOf_perform {o : Operation σ} {r : Outcome Result}
    (h : Runs (c.perform o) t (r, c')) : commandsOf t = runsOf (ranBy? (o, r)).toList := by
  cases o with
  | configure context =>
    obtain ⟨t₁, t₂, u, rfl, h₁, h₂⟩ := runs_bind.1 h
    obtain ⟨rfl, -⟩ := runs_done.1 h₂
    rw [List.append_nil, commandsOf_reportAll h₁, ranBy?_of_none rfl]
    rfl
  | openOver service =>
    obtain ⟨r', h₁, rfl⟩ := runs_finished h
    rw [commandsOf_openOver h₁, ranBy?_of_none rfl]
    rfl
  | execute command =>
    obtain ⟨r', h₁, rfl⟩ := runs_printed h
    exact commandsOf_execute h₁
  | executeOrCancel command =>
    obtain ⟨r', h₁, rfl⟩ := runs_printed h
    exact commandsOf_executeOrCancel h₁
  | destroy =>
    obtain ⟨r', h₁, rfl⟩ := runs_finished h
    rw [commandsOf_destroy h₁, ranBy?_of_none rfl]
    rfl

/-- Operations in a row run their commands in turn. -/
theorem commandsOf_performAll {os : List (Operation σ)} {rs : List (Outcome Result)}
    (h : Runs (c.performAll os) t (rs, c')) :
    rs.length = os.length ∧ commandsOf t = runsOf ((os.zip rs).filterMap ranBy?) := by
  induction os generalizing c t rs with
  | nil =>
    obtain ⟨rfl, hr⟩ := runs_done.1 h
    obtain ⟨rfl, -⟩ := Prod.mk.inj hr
    exact ⟨rfl, rfl⟩
  | cons o os ih =>
    obtain ⟨t₁, t', ⟨r, c₁⟩, rfl, h₁, h₂⟩ := runs_bind.1 h
    obtain ⟨t₂, t₃, ⟨rs', c₂⟩, rfl, h₃, h₄⟩ := runs_bind.1 h₂
    obtain ⟨rfl, hr⟩ := runs_done.1 h₄
    obtain ⟨rfl, rfl⟩ := Prod.mk.inj hr
    obtain ⟨hlength, hrest⟩ := ih h₃
    refine ⟨congrArg (· + 1) hlength, ?_⟩
    rw [commandsOf_append, commandsOf_append, commandsOf_perform h₁, hrest, List.zip_cons_cons]
    cases hran : ranBy? (o, r) with
    | none =>
      rw [List.filterMap_cons_none hran]
      exact List.append_nil _
    | some command =>
      rw [List.filterMap_cons_some hran]
      exact congrArg ((program, arguments command) :: ·) (List.append_nil _)

end Client

open Client

/-- **What is run is what was given.**  The last of the arguments that run a script is in base64;
its bytes are read as UTF-16, the low byte first, and then as a text, which is what every script
begins with and then the script.  No other command stands for that text, no other script has these
arguments, and in a line of the program and the arguments each of them is one word.

Whatever the outside answers, operations of a client run in turn the commands that they were given,
but for those that found no shell; and a copy runs a first part of the scripts of its plan.  The
texts that are read of them are these commands and scripts. -/
theorem script_arrives_as_given {ω : Type} (answer : (x : ShellCall σ) → ω → x.Reply × ω) (w : ω)
    (script : String) :
    (∃ last bytes units, (arguments script).getLast? = some last ∧
      Base64.decode (Utf8.encode last) = .ok bytes ∧ Utf16.unitsOfBytes? bytes = some units ∧
      Utf16.ofUnits? units = some (preamble ++ script).toList) ∧
    (∀ command, textOf? command = some (preamble ++ script) ↔
      command = (program, arguments script)) ∧
    (∀ other, arguments other = arguments script → other = script) ∧
    Text.words (commandLine (program, arguments script)) = program :: arguments script ∧
    (∀ (c : Client σ) os,
      let played := (c.performAll os).play answer w
      ∃ results c', played.result? = some (results, c') ∧ results.length = os.length ∧
        (commandsOf played.exchanges).map textOf? =
          ((os.zip results).filterMap ranBy?).map fun command => some (preamble ++ command)) ∧
    ∀ (copier : Copier σ) data destination,
      (commandsOf ((copier.copy data destination).play answer w).exchanges).map textOf? <+:
        ((plan copier.chunkSize data destination).map Step.script).map
          fun script => some (preamble ++ script) := by
  refine ⟨?_, fun command => textOf?_eq_some_iff, fun other h => arguments_injective h,
    words_commandLine script, ?_, ?_⟩
  · refine ⟨encodedText (preamble ++ script), Utf16.encode (preamble ++ script),
      Utf16.units (preamble ++ script).toList, ?_, Base64.decode_eq_ok_iff.2 rfl,
      Utf16.unitsOfBytes?_flatMap fun u hu => Utf16.lt_of_mem_units hu, Utf16.ofUnits?_units _⟩
    rw [arguments_eq, List.getLast?_concat]
  · intro c os played
    obtain ⟨⟨results, c'⟩, hresult⟩ := (c.returns_performAll os).play answer w
    obtain ⟨hlength, hcommands⟩ := commandsOf_performAll (runs_of_play hresult)
    refine ⟨results, c', hresult, hlength, ?_⟩
    rw [hcommands, textOf?_runsOf]
  · intro copier data destination
    obtain ⟨r, hr⟩ := (returns_copy (c := copier) data destination).play answer w
    have hcommands := commandsOf_copy_prefix (runs_of_play hr)
    rw [← textOf?_runsOf, ← FileCopy.map_command]
    exact hcommands.map textOf?

end RemoteHost.Winrm
