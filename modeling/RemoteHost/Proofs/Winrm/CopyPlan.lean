/-
RemoteHost/Proofs/Winrm/CopyPlan.lean

A copy follows its plan.

The plan of a copy holds the data in full: the chunks that its scripts append are the data
cut into pieces (`payloads_plan`, `flatten_chunks`).  Whatever the outside answers, the
scripts that are run are a first part of the plan, each once and in order
(`commandsOf_prefix`).  All of them are run just where no call before the last one fails
(`runs_runSteps_ok`, `runs_runSteps_error`), and then the shells are counted: each runs as
many as it may (`openings_runSteps`).  So a copy succeeds just where it is `Completed`
(`eq_ok_iff_completed`).
-/
import RemoteHost.Proofs.PowerShell
import RemoteHost.Proofs.Text.Search
import RemoteHost.Proofs.Winrm.CopyShells

namespace RemoteHost

/-! ### Chunks -/

section Chunks

variable {α : Type}

@[simp] theorem length_pieces (size n : Nat) (xs : List α) : (pieces size n xs).length = n := by
  induction n generalizing xs with
  | zero => rfl
  | succ n ih => simp [pieces, ih]

/-- Enough pieces hold all of a list. -/
theorem flatten_pieces {size n : Nat} {xs : List α} (h : xs.length ≤ n * size) :
    (pieces size n xs).flatten = xs := by
  induction n generalizing xs with
  | zero =>
    rw [Nat.zero_mul, Nat.le_zero, List.length_eq_zero_iff] at h
    rw [h]
    rfl
  | succ n ih =>
    have hd : (xs.drop size).length ≤ n * size := by
      rw [List.length_drop]
      rw [Nat.succ_mul] at h
      omega
    rw [pieces, List.flatten_cons, ih hd, List.take_append_drop]

theorem length_le_of_mem_pieces {size n : Nat} {xs piece : List α}
    (h : piece ∈ pieces size n xs) : piece.length ≤ size := by
  induction n generalizing xs with
  | zero => cases h
  | succ n ih =>
    rw [pieces, List.mem_cons] at h
    rcases h with rfl | h
    · exact List.length_take_le _ _
    · exact ih h

theorem length_chunks (size : Nat) (xs : List α) :
    (chunks size xs).length = (xs.length + size - 1) / size := length_pieces _ _ _

theorem flatten_chunks {size : Nat} (h : 0 < size) (xs : List α) :
    (chunks size xs).flatten = xs := by
  refine flatten_pieces ?_
  have hlt := Nat.lt_div_mul_add h (a := xs.length + size - 1)
  omega

/-- What is no longer than a chunk is the only chunk of itself. -/
theorem chunks_eq_singleton {size : Nat} {xs : List α} (hne : xs ≠ []) (h : xs.length ≤ size) :
    chunks size xs = [xs] := by
  have hpos : 0 < xs.length := List.length_pos_iff.2 hne
  have hone : (xs.length + size - 1) / size = 1 := by
    rw [show xs.length + size - 1 = (xs.length - 1) + size by omega,
      Nat.add_div_right _ (by omega), Nat.div_eq_of_lt (by omega)]
  rw [chunks, hone, pieces, pieces, List.take_of_length_le h]

end Chunks

namespace Winrm

/-! ### The plan -/

namespace FileCopy

/-- What the script of a chunk begins with. -/
def appendOpening : String := "$bytes = [System.Convert]::FromBase64String('"

/-- The bytes that a script appends: those that stand in base64 between the first quotes. -/
def payload? (script : String) : Option Bytes := do
  let rest ← Text.dropPrefix? script appendOpening
  let (text, _) ← Text.splitOnce '\'' rest.toList
  Base64.decode? (Utf8.encodeChars text)

theorem quote_not_mem_encodeChars (bytes : Bytes) : '\'' ∉ Base64.encodeChars bytes :=
  Base64.not_mem_encodeChars (by decide) (by decide) bytes

theorem payload?_opening (bytes : Bytes) (rest : String) :
    payload? (appendOpening ++ (Base64.encode bytes ++ ("'" ++ rest))) = some bytes := by
  have hq : (Base64.encode bytes ++ ("'" ++ rest)).toList =
      Base64.encodeChars bytes ++ '\'' :: rest.toList := by
    rw [String.toList_append, String.toList_append, Base64.toList_encode]
    rfl
  simp only [payload?, Text.dropPrefix?_append, Option.bind_eq_bind, Option.bind_some, hq,
    Text.splitOnce_append (quote_not_mem_encodeChars bytes), Base64.decode?_encodeChars]

/-- The script of a chunk appends the chunk. -/
theorem payload?_append (destination : String) (chunk : Bytes × Nat) :
    payload? (append destination chunk).script = some chunk.1 := by
  have hq : ("'); [System.IO.File]::AppendAllBytes(" : String) =
      "'" ++ "); [System.IO.File]::AppendAllBytes(" := by
    rw [← String.toList_inj, String.toList_append]
    rfl
  have hs : (append destination chunk).script = appendOpening ++ (Base64.encode chunk.1 ++
      ("'" ++ ("); [System.IO.File]::AppendAllBytes(" ++
        (PowerShell.quote destination ++ ", $bytes)")))) := by
    unfold append
    simp only [appendOpening, hq, String.append_assoc]
  rw [hs, payload?_opening]

theorem payload?_eq_none {script : String}
    (h : appendOpening.toList.isPrefixOf script.toList = false) : payload? script = none := by
  simp only [payload?, Text.dropPrefix?, h, Bool.false_eq_true, if_false, Option.bind_eq_bind,
    Option.bind_none]

theorem payload?_prepare (destination : String) : payload? (prepare destination).script = none := by
  refine payload?_eq_none ?_
  unfold prepare
  simp only [String.toList_append, List.append_assoc]
  rfl

theorem payload?_verify (destination : String) : payload? (verify destination).script = none := by
  refine payload?_eq_none ?_
  unfold verify
  simp only [String.toList_append, List.append_assoc]
  rfl

/-- The data is appended in full, chunk by chunk. -/
theorem payloads_plan (chunkSize : Nat) (data : Bytes) (destination : String) :
    (plan chunkSize data destination).filterMap (payload? ·.script) = chunks chunkSize data := by
  have h : ∀ (k : Nat) (cs : List Bytes),
      ((cs.zipIdx k).map (append destination)).filterMap (payload? ·.script) = cs := by
    intro k cs
    induction cs generalizing k with
    | nil => rfl
    | cons chunk cs ih =>
      rw [List.zipIdx_cons, List.map_cons, List.filterMap_cons, payload?_append]
      simp only [ih]
  simp only [plan, List.cons_append, List.filterMap_cons, payload?_prepare, List.filterMap_append,
    h, payload?_verify, List.filterMap_nil, List.append_nil]

theorem length_plan (chunkSize : Nat) (data : Bytes) (destination : String) :
    (plan chunkSize data destination).length = (chunks chunkSize data).length + 2 := by
  simp [plan]

/-- How a step is run. -/
def Step.command (s : Step) : String × List String :=
  (PowerShell.program, PowerShell.arguments s.script)

/-- The size that an output reports. -/
def reportedSize (output : String) : Option Nat :=
  (Text.natValue 10 (Text.trimChars output.toList)).filter (· < UInt64.size)

theorem checkSize_eq_ok {size n : Nat} {destination output : String} :
    checkSize size destination output = .ok n ↔ reportedSize output = some n ∧ n = size := by
  unfold checkSize reportedSize
  split
  · next h => simp [h]
  · next m h =>
    rw [h, Option.some.injEq]
    split
    · next e =>
      rw [Except.ok.injEq, e]
      exact ⟨fun h => ⟨h, h.symm⟩, fun h => h.1⟩
    · next e =>
      constructor
      · intro h
        cases h
      · rintro ⟨rfl, h⟩
        exact absurd h e

/-- A script succeeds where the command does and writes nothing to the error stream. -/
theorem bind_conclude_eq_ok {reply : Outcome ShellOutput} {s : Step} {text : String} :
    Except.bind reply s.conclude = .ok text ↔
      ∃ out, reply = .ok out ∧ Text.allBlank out.stderr ∧ out.stdout = text := by
  cases reply with
  | error e => simp [Except.bind]
  | ok out =>
    show s.conclude out = .ok text ↔ _
    unfold Step.conclude
    split
    · next h => simp [h]
    · next h => simp [h]

end FileCopy

namespace Copier

open Dialogue FileCopy

variable {σ : Type} {c : Copier σ}

/-! ### The calls of a copy -/

/-- The program and the arguments that a call runs, if any. -/
def commandOf? : Exchange (ShellCall σ) ShellCall.Reply → Option (String × List String)
  | ⟨.run _ _ program arguments, _⟩ => some (program, arguments)
  | ⟨.runOrCancel _ _ program arguments, _⟩ => some (program, arguments)
  | _ => none

/-- What some calls run, in order. -/
def commandsOf (t : Calls σ) : List (String × List String) := t.filterMap commandOf?

@[simp] theorem commandsOf_append (t₁ t₂ : Calls σ) :
    commandsOf (t₁ ++ t₂) = commandsOf t₁ ++ commandsOf t₂ := by
  simp [commandsOf]

/-- The call did what it was made for: a shell was opened or closed, a command was run and
wrote nothing to the error stream. -/
def Succeeded : Exchange (ShellCall σ) ShellCall.Reply → Prop
  | ⟨.openShell _, (reply : Outcome String)⟩ => ∃ shell, reply = .ok shell
  | ⟨.run _ _ _ _, (reply : Outcome ShellOutput)⟩ =>
    ∃ out, reply = .ok out ∧ Text.allBlank out.stderr
  | ⟨.closeShell _ _, (reply : Outcome Unit)⟩ => reply = .ok ()
  | _ => True

/-- How many shells are opened. -/
def openings (t : Calls σ) : Nat :=
  (shellEvents t).countP fun | .opened _ => true | _ => false

@[simp] theorem openings_append (t₁ t₂ : Calls σ) :
    openings (t₁ ++ t₂) = openings t₁ + openings t₂ := by
  simp [openings]

/-- How many more commands the shell that is held may serve. -/
def room (c : Copier σ) : Option Lease → Nat
  | none => 0
  | some l => c.commandsPerShell - l.served

theorem Leasing.commandsOf_eq {held : Option Lease} {t : Calls σ} {o : Outcome Lease}
    (h : Leasing c held t o) : commandsOf t = [] := by
  cases h <;> rfl

theorem Leasing.succeeded {held : Option Lease} {t : Calls σ} {l : Lease}
    (h : Leasing c held t (.ok l)) : ∀ x ∈ t, Succeeded x := by
  cases h with
  | kept h => simp
  | opened shell => simp [Succeeded]
  | rotated h shell => simp [Succeeded]

/-- A new shell is opened just where the one that is held has no room. -/
theorem Leasing.openings_eq {held : Option Lease} {t : Calls σ} {l : Lease}
    (h : Leasing c held t (.ok l)) :
    (openings t = 0 ∧ 0 < c.room held ∧ c.room held = c.room (some l)) ∨
      (openings t = 1 ∧ c.room held = 0 ∧ c.room (some l) = c.commandsPerShell) := by
  cases h with
  | kept h => exact .inl ⟨rfl, Nat.sub_pos_of_lt h, rfl⟩
  | opened shell => exact .inr ⟨rfl, rfl, rfl⟩
  | @rotated l h shell =>
    have hr : c.commandsPerShell - l.served = 0 := by omega
    exact .inr ⟨rfl, hr, rfl⟩

theorem runs_release_calls {held held' : Option Lease} {t : Calls σ}
    (h : Runs (c.release held) t held') : commandsOf t = [] ∧ openings t = 0 := by
  rcases runs_release h with ⟨-, ⟨rfl, rfl⟩ | ⟨l, rfl, rfl | ⟨e, r, rfl⟩⟩⟩
  · exact ⟨rfl, rfl⟩
  · exact ⟨rfl, rfl⟩
  · exact ⟨rfl, rfl⟩

/-- What a script is run with, before and after other calls. -/
theorem commandsOf_ran (t₁ t₂ : Calls σ) (shell : String) (s : Step)
    (reply : Outcome ShellOutput) :
    commandsOf (t₁ ++ c.ran shell s reply :: t₂) =
      commandsOf t₁ ++ s.command :: commandsOf t₂ := by
  rw [commandsOf_append]
  rfl

/-- The scripts that are run are the first ones of those there are. -/
theorem commandsOf_prefix {held : Option Lease} {output : String} {steps : List Step}
    {t : Calls σ} {r : Outcome String × Option Lease}
    (h : Runs (c.runSteps held output steps) t r) :
    commandsOf t <+: steps.map Step.command := by
  induction steps generalizing held output t with
  | nil =>
    obtain ⟨rfl, rfl⟩ := runs_done.1 h
    exact List.prefix_rfl
  | cons s steps ih =>
    rw [List.map_cons]
    rcases runs_runSteps_cons h with ⟨e, hl, -⟩ | ⟨l, t₁, reply, t₂, hl, rfl, hend⟩
    · rw [hl.commandsOf_eq]
      exact List.nil_prefix
    · rw [commandsOf_ran, hl.commandsOf_eq, List.nil_append, List.prefix_cons_inj]
      rcases hend with ⟨e, -, rfl, -⟩ | ⟨text, -, h₂⟩
      · exact List.nil_prefix
      · exact ih h₂

/-- Where all scripts come to an end, no call failed and each script was run; the result
is the output of the last one. -/
theorem runs_runSteps_ok {held held' : Option Lease} {output text : String} {steps : List Step}
    {s : Step} {t : Calls σ}
    (h : Runs (c.runSteps held output (steps ++ [s])) t (.ok text, held')) :
    ∃ before shell out, t = before ++ [c.ran shell s (.ok out)] ∧
      commandsOf before = steps.map Step.command ∧ (∀ x ∈ before, Succeeded x) ∧
      Text.allBlank out.stderr ∧ out.stdout = text := by
  induction steps generalizing held output t with
  | nil =>
    rcases runs_runSteps_cons h with ⟨e, -, hr⟩ | ⟨l, t₁, reply, t₂, hl, rfl, hend⟩
    · cases hr
    · rcases hend with ⟨e, -, -, hr⟩ | ⟨text', ho, h₂⟩
      · cases hr
      · obtain ⟨rfl, hr⟩ := runs_done.1 h₂
        cases hr
        obtain ⟨out, rfl, hb, rfl⟩ := bind_conclude_eq_ok.1 ho
        exact ⟨t₁, l.shell, out, rfl, hl.commandsOf_eq, hl.succeeded, hb, rfl⟩
  | cons s' steps ih =>
    rcases runs_runSteps_cons h with ⟨e, -, hr⟩ | ⟨l, t₁, reply, t₂, hl, rfl, hend⟩
    · cases hr
    · rcases hend with ⟨e, -, -, hr⟩ | ⟨text', ho, h₂⟩
      · cases hr
      · obtain ⟨before, shell, out, rfl, hc, hs, hb, ho'⟩ := ih h₂
        obtain ⟨out', rfl, hb', -⟩ := bind_conclude_eq_ok.1 ho
        refine ⟨t₁ ++ c.ran l.shell s' (.ok out') :: before, shell, out, ?_, ?_, ?_, hb, ho'⟩
        · rw [List.append_assoc, List.cons_append]
        · rw [commandsOf_ran, hl.commandsOf_eq, hc]
          rfl
        · intro x hx
          rcases List.mem_append.1 hx with hx | hx
          · exact hl.succeeded x hx
          · rcases List.mem_cons.1 hx with rfl | hx
            · exact ⟨out', rfl, hb'⟩
            · exact hs x hx

/-- Where they come to no end, a script failed or some scripts were never run. -/
theorem runs_runSteps_error {held held' : Option Lease} {output : String} {e : Failure}
    {steps : List Step} {t : Calls σ}
    (h : Runs (c.runSteps held output steps) t (.error e, held')) :
    (∃ x ∈ t, commandOf? x ≠ none ∧ ¬ Succeeded x) ∨
      (commandsOf t).length < steps.length := by
  induction steps generalizing held output t with
  | nil => cases (runs_done.1 h).2
  | cons s steps ih =>
    rcases runs_runSteps_cons h with ⟨e', hl, -⟩ | ⟨l, t₁, reply, t₂, hl, rfl, hend⟩
    · right
      rw [hl.commandsOf_eq]
      exact Nat.succ_pos _
    · have hmem : c.ran l.shell s reply ∈ t₁ ++ c.ran l.shell s reply :: t₂ :=
        List.mem_append_right t₁ List.mem_cons_self
      rcases hend with ⟨e', ho, -, -⟩ | ⟨text, ho, h₂⟩
      · left
        refine ⟨c.ran l.shell s reply, hmem, Option.some_ne_none _, ?_⟩
        -- A script that succeeded would have gone on with its output.
        rintro ⟨out, rfl, hb⟩
        rw [bind_conclude_eq_ok.2 ⟨out, rfl, hb, rfl⟩] at ho
        cases ho
      · rcases ih h₂ with ⟨x, hx, hc, hs⟩ | hlt
        · exact .inl ⟨x, List.mem_append_right _ (List.mem_cons_of_mem _ hx), hc, hs⟩
        · right
          rw [commandsOf_ran, hl.commandsOf_eq, List.nil_append, List.length_cons,
            List.length_cons]
          exact Nat.succ_lt_succ hlt

theorem one_add_ceilDiv {cap : Nat} (h : 0 < cap) (n : Nat) :
    1 + (n - (cap - 1) + cap - 1) / cap = (n + 1 + cap - 1) / cap := by
  have hr : (n + 1 + cap - 1) / cap = n / cap + 1 := by
    rw [show n + 1 + cap - 1 = n + cap by omega, Nat.add_div_right n h]
  rw [hr, Nat.add_comm]
  congr 1
  by_cases hn : n < cap
  · rw [Nat.div_eq_of_lt (by omega), Nat.div_eq_of_lt hn]
  · rw [show n - (cap - 1) + cap - 1 = n by omega]

/-- Each shell serves as many scripts as it may before the next one is opened. -/
theorem openings_runSteps {held held' : Option Lease} {output text : String}
    {steps : List Step} {t : Calls σ}
    (h : Runs (c.runSteps held output steps) t (.ok text, held')) :
    openings t = (steps.length - c.room held + c.commandsPerShell - 1) / c.commandsPerShell := by
  have hpos := c.commandsPerShell_pos
  induction steps generalizing held output t with
  | nil =>
    obtain ⟨rfl, -⟩ := runs_done.1 h
    rw [List.length_nil, Nat.zero_sub, Nat.zero_add]
    exact (Nat.div_eq_of_lt (by omega)).symm
  | cons s steps ih =>
    rcases runs_runSteps_cons h with ⟨e, -, hr⟩ | ⟨l, t₁, reply, t₂, hl, rfl, hend⟩
    · cases hr
    · rcases hend with ⟨e, -, -, hr⟩ | ⟨text', -, h₂⟩
      · cases hr
      · have hroom : c.room (some { l with served := l.served + 1 }) = c.room (some l) - 1 :=
          Nat.sub_succ _ _
        have hrun : openings (c.ran l.shell s reply :: t₂) = openings t₂ := rfl
        rw [openings_append, hrun, ih h₂, hroom, List.length_cons]
        rcases hl.openings_eq with ⟨h₀, h₁, h₂⟩ | ⟨h₀, h₁, h₂⟩
        · rw [h₀, ← h₂, Nat.zero_add]
          congr 1
          omega
        · -- Without room the step opens a shell, and leaves room for all but one.
          rw [h₀, h₁, h₂, Nat.sub_zero]
          exact one_add_ceilDiv hpos steps.length

/-! ### The outcome of a copy -/

/-- All scripts of the plan were run: every call before the last script succeeded, and the
last one reported a size, which is that of the data. -/
def Completed (c : Copier σ) (data : Bytes) (destination : String) (n : Nat) (t : Calls σ) :
    Prop :=
  commandsOf t = (plan c.chunkSize data destination).map Step.command ∧
  ∃ before shell out after,
    t = before ++ ⟨.run c.service shell PowerShell.program
      (PowerShell.arguments (verify destination).script), .ok out⟩ :: after ∧
    commandsOf after = [] ∧ (∀ x ∈ before, Succeeded x) ∧ Text.allBlank out.stderr ∧
    reportedSize out.stdout = some n ∧ n = data.length

theorem runs_copy {data : Bytes} {destination : String} {t : Calls σ} {r : Outcome Nat}
    (h : Runs (c.copy data destination) t r) :
    ∃ t₁ t₂ o held, t = t₁ ++ t₂ ∧
      Runs (c.runSteps none "" (plan c.chunkSize data destination)) t₁ (o, held) ∧
      Runs (c.release held) t₂ none ∧ r = o.bind (checkSize data.length destination) := by
  obtain ⟨t', t'', r', rfl, h₁, h₂⟩ := runs_bind.1 h
  obtain ⟨rfl, rfl⟩ := runs_done.1 h₂
  obtain ⟨t₁, t₂, o, held, rfl, h₃, h₄, rfl⟩ := runs_copyHolding h₁
  exact ⟨t₁, t₂, o, held, List.append_nil _, h₃, h₄, rfl⟩

theorem returns_copy (data : Bytes) (destination : String) :
    Returns (c.copy data destination) :=
  (returns_copyHolding none data destination).bind fun _ => .done _

/-- The last call that runs something is the last one wherever the calls are cut. -/
theorem getLast?_commands (before : Calls σ) {after : Calls σ}
    (x : Exchange (ShellCall σ) ShellCall.Reply) (hx : (commandOf? x).isSome)
    (ha : commandsOf after = []) :
    ((before ++ x :: after).filter fun y => (commandOf? y).isSome).getLast? = some x := by
  have hf : (after.filter fun y => (commandOf? y).isSome) = [] := by
    rw [List.filter_eq_nil_iff]
    intro y hy
    have := List.filterMap_eq_nil_iff.1 ha y hy
    simp [this]
  rw [List.filter_append, List.filter_cons, if_pos hx, hf, List.getLast?_concat]

/-- Where all scripts come to an end, the size that the last one reports decides. -/
theorem completed_iff {data : Bytes} {destination : String} {n : Nat} {t t₂ : Calls σ}
    {text : String} {held : Option Lease}
    (h : Runs (c.runSteps none "" (plan c.chunkSize data destination)) t (.ok text, held))
    (ht₂ : commandsOf t₂ = []) :
    Completed c data destination n (t ++ t₂) ↔
      checkSize data.length destination text = .ok n := by
  obtain ⟨before, shell, out, rfl, hc, hs, hb, rfl⟩ := runs_runSteps_ok h
  rw [checkSize_eq_ok]
  constructor
  · rintro ⟨-, before', shell', out', after, ht, ha, -, -, hn, hd⟩
    -- The last script is one and the same call, so its output is.
    have hlast := getLast?_commands before (c.ran shell (verify destination) (.ok out)) rfl ht₂
    rw [List.append_assoc, List.singleton_append] at ht
    rw [ht, getLast?_commands _ _ rfl ha, Option.some.injEq] at hlast
    cases hlast
    exact ⟨hn, hd⟩
  · rintro ⟨hn, hd⟩
    refine ⟨?_, before, shell, out, t₂, List.append_assoc _ _ _, ht₂, hs, hb, hn, hd⟩
    rw [commandsOf_append, commandsOf_ran, hc, ht₂, List.append_nil, plan, List.map_append]
    rfl

/-- Where they come to no end, the copy was not completed. -/
theorem not_completed {data : Bytes} {destination : String} {n : Nat} {t t₂ : Calls σ}
    {e : Failure} {held : Option Lease}
    (h : Runs (c.runSteps none "" (plan c.chunkSize data destination)) t (.error e, held))
    (ht₂ : commandsOf t₂ = []) : ¬ Completed c data destination n (t ++ t₂) := by
  rintro ⟨hcs, before, shell, out, after, ht, ha, hs, hb, -, -⟩
  rcases runs_runSteps_error h with ⟨x, hx, hxc, hxs⟩ | hlt
  · -- A script that failed would stand before the last one, be it, or stand behind it.
    have hmem := List.mem_append_left t₂ hx
    rw [ht, List.mem_append, List.mem_cons] at hmem
    rcases hmem with hmem | rfl | hmem
    · exact hxs (hs x hmem)
    · exact hxs ⟨out, rfl, hb⟩
    · exact hxc (List.filterMap_eq_nil_iff.1 ha x hmem)
  · rw [commandsOf_append, ht₂, List.append_nil] at hcs
    rw [hcs, List.length_map] at hlt
    exact Nat.lt_irrefl _ hlt

/-- A copy succeeds just where it was completed. -/
theorem eq_ok_iff_completed {data : Bytes} {destination : String} {n : Nat} {t : Calls σ}
    {r : Outcome Nat} (h : Runs (c.copy data destination) t r) :
    r = .ok n ↔ Completed c data destination n t := by
  obtain ⟨t₁, t₂, o, held, rfl, h₁, h₂, rfl⟩ := runs_copy h
  have ht₂ := (runs_release_calls h₂).1
  cases o with
  | ok text => exact (completed_iff h₁ ht₂).symm
  | error e =>
    refine iff_of_false ?_ (not_completed h₁ ht₂)
    intro h
    cases h

/-- The scripts are run from the first one on, whatever the outside answers. -/
theorem commandsOf_copy_prefix {data : Bytes} {destination : String} {t : Calls σ} {r : Outcome Nat}
    (h : Runs (c.copy data destination) t r) :
    commandsOf t <+: (plan c.chunkSize data destination).map Step.command := by
  obtain ⟨t₁, t₂, o, held, rfl, h₁, h₂, -⟩ := runs_copy h
  rw [commandsOf_append, (runs_release_calls h₂).1, List.append_nil]
  exact commandsOf_prefix h₁

/-- A copy that succeeds opens as many shells as its scripts need. -/
theorem openings_copy {data : Bytes} {destination : String} {t : Calls σ} {n : Nat}
    (h : Runs (c.copy data destination) t (.ok n)) :
    openings t = ((chunks c.chunkSize data).length + 2 + c.commandsPerShell - 1) /
      c.commandsPerShell := by
  obtain ⟨t₁, t₂, o, held, rfl, h₁, h₂, hr⟩ := runs_copy h
  cases o with
  | error e => cases hr
  | ok text =>
    rw [openings_append, (runs_release_calls h₂).2, openings_runSteps h₁, length_plan]
    rfl

end Copier

end Winrm

end RemoteHost
