/-
RemoteHost/Proofs/Winrm/CopyRemote.lean

What a copy leaves on a host that does what the scripts say.

A host is `Faithful` at a path when it opens and closes shells and, in a shell that is open,
carries out what PowerShell reads in the text of a command (`Tells`): a script that makes the file
leaves it empty, one that appends bytes adds them, one that measures reports how many there are.
Where the scripts of a copy tell about a path, the chunks come together in order
(`yields_appends`), so the file at this path is the data in the end and the copy succeeds
(`yields_copy`).

The path that they tell about is the destination just where that is straight
(`straight_of_tells`).  Another destination may be read as another path, and its scripts then write
another file and leave its own as it is (`files_of_play`, `doubled_curly_quote_names_other_file`).
`copy_follows_plan` puts together what holds of a copy against any outside and against faithful
ones.
-/
import RemoteHost.Proofs.Text.Blank
import RemoteHost.Proofs.Text.Numeral
import RemoteHost.Proofs.Winrm.CopyScripts

namespace RemoteHost.Winrm

open Dialogue PowerShell FileCopy

variable {σ ω : Type}

/-! ### What scripts tell a host -/

namespace FileCopy

namespace Effect

/-- The literals before the first path. -/
def before : Effect → List (String × String)
  | create | measure => [opening]
  | append bytes =>
    [opening, ("; $bytes = [System.Convert]::FromBase64String(", Base64.encode bytes)]

/-- The text before the first path. -/
def lead : Effect → String
  | create => "; $parent = Split-Path -Parent "
  | append _ => "); [System.IO.File]::AppendAllBytes("
  | measure => "; (Get-Item "

theorem form_eq (path : String) (e : Effect) :
    ∃ rest last, e.form path = ⟨e.before ++ (e.lead, path) :: rest, last⟩ := by
  cases e <;> exact ⟨_, _, rfl⟩

theorem straight_before (e : Effect) : ∀ f ∈ e.before, Straight f.2 := by
  cases e <;> simp [before, straight_opening, straight_encode]

/-- What stands before the first path tells what the script does. -/
theorem eq_of_before {e e' : Effect} {value path : String} {rest : List (String × String)}
    (h : e.before ++ [(e.lead, value)] <+: e'.before ++ (e'.lead, path) :: rest) : e' = e := by
  cases e <;> cases e' <;> simp [before, lead, Base64.encode_injective.eq_iff] at h ⊢
  · exact h.1.symm

/-- The file afterwards, by what it was before. -/
def after : Effect → Option Bytes → Option Bytes
  | create, _ => some []
  | append bytes, file => file.map (· ++ bytes)
  | measure, file => file

/-- What is written to the output, where the file has these bytes. -/
def Prints : Effect → Bytes → String → Prop
  | create, _, _ | append _, _, _ => True
  | measure, bytes, text => Text.trim text = toString bytes.length

end Effect

/-- Whatever path is read in a script, it is read as one that does what it is meant to do. -/
theorem effect_of_read {destination path : String} {e e' : Effect}
    (h : read? (e.form destination).render = some (e'.form path)) : e' = e := by
  obtain ⟨rest, last, hform⟩ := e.form_eq destination
  obtain ⟨rest', last', hform'⟩ := e'.form_eq path
  have hplain := isPlain_form destination e
  rw [hform] at h hplain
  -- the path may be read as anything, but not the text before it
  obtain ⟨value, hvalue⟩ := fills_of_read?_render hplain e.straight_before h
  rw [hform'] at hvalue
  exact Effect.eq_of_before hvalue

/-- The text that the command gives to PowerShell is read as the script that does this to the file
at the path. -/
def Tells (path : String) (command : String × List String) (e : Effect) : Prop :=
  ∃ text, textOf? command = some text ∧ read? text = some (e.form path)

theorem tells_command_iff {path : String} {s : Step} {e : Effect} :
    Tells path s.command e ↔ read? (preamble ++ s.script) = some (e.form path) := by
  have htext : textOf? s.command = some (preamble ++ s.script) := textOf?_arguments s.script
  constructor
  · rintro ⟨text, h, hread⟩
    rw [htext] at h
    rwa [Option.some.inj h]
  · intro hread
    exact ⟨_, htext, hread⟩

/-- The scripts of a copy tell about the path that is read in the literal of the destination. -/
theorem forall₂_tells {destination path : String} (h : literal? destination = some path)
    (chunkSize : Nat) (data : Bytes) :
    List.Forall₂ (Tells path) ((plan chunkSize data destination).map Step.command)
      (effects (chunks chunkSize data)) := by
  rw [List.forall₂_map_left_iff]
  refine (forall₂_render chunkSize data destination).imp fun s e hrender => ?_
  rw [tells_command_iff, hrender]
  exact read?_form h e

/-- No script tells about the destination itself if that is not straight. -/
theorem straight_of_tells {chunkSize : Nat} {data : Bytes} {destination : String}
    {command : String × List String} {e : Effect}
    (hmem : command ∈ (plan chunkSize data destination).map Step.command)
    (h : Tells destination command e) : Straight destination := by
  have hrenders : ∀ s ∈ plan chunkSize data destination,
      ∃ e', preamble ++ s.script = (Effect.form destination e').render :=
    ((List.forall₂_and_left _ _).1 ((forall₂_render chunkSize data destination).imp
      fun _ e hrender => ⟨⟨e, hrender⟩, hrender⟩)).1
  obtain ⟨s, hs, rfl⟩ := List.mem_map.1 hmem
  obtain ⟨e', hrender⟩ := hrenders s hs
  rw [tells_command_iff, hrender] at h
  -- the script could only be read as one that does the same
  rw [effect_of_read h] at h
  exact read?_form_iff.1 h

end FileCopy

/-! ### Faithful hosts -/

/-- What is looked at on a host: the file at a path, and which shells are open. -/
structure View (ω : Type) where
  file : ω → Option Bytes
  isOpen : ω → String → Prop

/-- The outside opens and closes shells and, in those that are open, carries out what it is told
about a file: nothing is written to the error stream, and the file is what the script makes of
it. -/
structure Faithful (answer : (x : ShellCall σ) → ω → x.Reply × ω) (service : σ) (path : String)
    (view : View ω) : Prop where
  opens : ∀ w, ∃ shell,
    (answer (.openShell service) w).1 = (.ok shell : Outcome String) ∧
      view.isOpen (answer (.openShell service) w).2 shell ∧
      view.file (answer (.openShell service) w).2 = view.file w
  closes : ∀ w shell, view.isOpen w shell →
    (answer (.closeShell service shell) w).1 = (.ok () : Outcome Unit) ∧
      view.file (answer (.closeShell service shell) w).2 = view.file w
  runs : ∀ w shell command e bytes, view.isOpen w shell → Tells path command e →
    e.after (view.file w) = some bytes →
    ∃ out, (answer (.run service shell command.1 command.2) w).1 =
        (.ok out : Outcome ShellOutput) ∧
      Text.allBlank out.stderr ∧ e.Prints bytes out.stdout ∧
      view.isOpen (answer (.run service shell command.1 command.2) w).2 shell ∧
      view.file (answer (.run service shell command.1 command.2) w).2 = some bytes

/-- A host with files, and with shells that are numbered as they are opened. -/
structure FileHost where
  files : String → Option Bytes := fun _ => none
  shells : List String := []
  opened : Nat := 0

namespace FileHost

/-- The host as it is seen at a path. -/
def view (path : String) : View FileHost where
  file host := host.files path
  isOpen host shell := shell ∈ host.shells

theorem file_view (path : String) (host : FileHost) :
    (view path).file host = host.files path := rfl

/-- Replace a file, or make it. -/
def write (host : FileHost) (path : String) (bytes : Bytes) : FileHost :=
  { host with files := fun p => if p = path then some bytes else host.files p }

/-- Do something to the file at a path.  What is appended to no file makes one. -/
def execute (host : FileHost) (path : String) : Effect → ShellOutput × FileHost
  | .create => ({}, host.write path [])
  | .append bytes => ({}, host.write path ((host.files path).getD [] ++ bytes))
  | .measure =>
    match host.files path with
    | some bytes => ({ stdout := toString bytes.length ++ "\r\n" }, host)
    | none => ({ stderr := "no such item" }, host)

/-- The path and what is done there, for the parts of a script of a copy. -/
def told? (p : Parts) : Option (String × Effect) :=
  Option.filter (fun x => x.2.form x.1 = p)
    (match p.fills.map Prod.snd with
    | [_, path] => some (path, .measure)
    | [_, text, path] =>
      (Base64.decode? (Utf8.encode text)).map fun bytes => (path, .append bytes)
    | [_, path, _, _, _] => some (path, .create)
    | _ => none)

theorem told?_eq_some_iff {p : Parts} {path : String} {e : Effect} :
    told? p = some (path, e) ↔ p = e.form path := by
  constructor
  · intro h
    have hform := (Option.filter_eq_some_iff.1 h).2
    exact (of_decide_eq_true hform).symm
  · rintro rfl
    cases e with
    | create => simp [told?, Effect.form, prepareForm]
    | append bytes =>
      simp [told?, Effect.form, appendForm, Base64.decode?_eq_some_iff.2 rfl]
    | measure => simp [told?, Effect.form, verifyForm]

/-- What a command tells the host. -/
def understand (command : String × List String) : Option (String × Effect) :=
  ((textOf? command).bind read?).bind told?

theorem understand_eq_some_iff {command : String × List String} {path : String} {e : Effect} :
    understand command = some (path, e) ↔ Tells path command e := by
  simp only [understand, Tells, Option.bind_assoc, Option.bind_eq_some_iff, told?_eq_some_iff]
  constructor
  · rintro ⟨text, htext, p, hread, rfl⟩
    exact ⟨text, htext, hread⟩
  · rintro ⟨text, htext, hread⟩
    exact ⟨text, htext, _, hread, rfl⟩

/-- The failure of a call for a shell that is not open. -/
def noShell : Failure := { kind := .commandFailed, message := "no such shell" }

/-- What the host answers.  It runs nothing but scripts. -/
def answer (σ : Type) : (x : ShellCall σ) → FileHost → x.Reply × FileHost
  | .openShell _, host =>
    (.ok ("shell-" ++ toString host.opened),
      { host with
        shells := ("shell-" ++ toString host.opened) :: host.shells
        opened := host.opened + 1 })
  | .run _ shell program arguments, host =>
    if shell ∈ host.shells then
      match understand (program, arguments) with
      | some (path, e) => (.ok (host.execute path e).1, (host.execute path e).2)
      | none => (.ok { stderr := "not understood" }, host)
    else (.error noShell, host)
  | .runOrCancel _ _ _ _, host => (none, host)
  | .closeShell _ shell, host =>
    if shell ∈ host.shells then (.ok (), { host with shells := host.shells.erase shell })
    else (.error noShell, host)
  | .localFile _, host => (.error "no such file", host)
  | .report _, host => ((), host)

@[simp] theorem files_write_self (host : FileHost) (path : String) (bytes : Bytes) :
    (host.write path bytes).files path = some bytes := if_pos rfl

theorem files_write_of_ne {path other : String} (h : other ≠ path) (host : FileHost)
    (bytes : Bytes) : (host.write path bytes).files other = host.files other := if_neg h

theorem trim_report (n : Nat) : Text.trim (toString n ++ "\r\n") = toString n := by
  have hdigits : ∀ c ∈ Nat.toDigits 10 n, ¬ Text.isBlank c := by
    intro c hc
    have hd := Nat.isDigit_of_mem_toDigits (by decide) (by decide) hc
    rw [Char.isDigit_iff_toNat] at hd
    simp only [Text.isBlank]
    grind
  have hend : ∀ c ∈ ['\r', '\n'], Text.isBlank c := by
    rw [← List.all_eq_true]
    rfl
  have h := Text.trimChars_append_append (a := []) (by simp) hdigits hend
  rw [Text.trim, String.toList_append, Nat.toString_eq_ofList_toDigits, String.toList_ofList]
  exact congrArg String.ofList h

/-- What is done to a file ends well where it can be done. -/
theorem execute_of_after {host : FileHost} {path : String} {e : Effect} {bytes : Bytes}
    (h : e.after (host.files path) = some bytes) :
    Text.allBlank (host.execute path e).1.stderr ∧ e.Prints bytes (host.execute path e).1.stdout ∧
      (host.execute path e).2.files path = some bytes ∧
      (host.execute path e).2.shells = host.shells := by
  cases e with
  | create =>
    cases h
    exact ⟨rfl, trivial, files_write_self host path [], rfl⟩
  | append more =>
    obtain ⟨old, hold, rfl⟩ := Option.map_eq_some_iff.1 h
    refine ⟨rfl, trivial, ?_, rfl⟩
    rw [execute, hold]
    exact files_write_self host path _
  | measure =>
    have hfile : host.files path = some bytes := h
    simp only [execute, hfile]
    exact ⟨rfl, trim_report bytes.length, trivial, trivial⟩

theorem answer_run_of_tells {host : FileHost} {shell path : String}
    {command : String × List String} {e : Effect} (hopen : shell ∈ host.shells)
    (h : Tells path command e) (service : σ) :
    answer σ (.run service shell command.1 command.2) host =
      (.ok (host.execute path e).1, (host.execute path e).2) := by
  simp only [answer, if_pos hopen, understand_eq_some_iff.2 h]

/-- The host does what scripts say, whatever path they tell about. -/
theorem faithful (service : σ) (path : String) :
    Faithful (answer σ) service path (view path) where
  opens host := ⟨_, rfl, List.mem_cons_self, rfl⟩
  closes host shell hopen := by
    simp only [answer, view] at hopen ⊢
    rw [if_pos hopen]
    exact ⟨rfl, rfl⟩
  runs host shell command e bytes hopen htells hafter := by
    obtain ⟨hstderr, hstdout, hfile, hshells⟩ := execute_of_after hafter
    rw [answer_run_of_tells hopen htells]
    refine ⟨_, rfl, hstderr, hstdout, ?_, hfile⟩
    simp only [view, hshells]
    exact hopen

/-- What is done to another file leaves this one as it is. -/
theorem files_execute_of_ne {path other : String} (h : other ≠ path) (host : FileHost)
    (e : Effect) : (host.execute path e).2.files other = host.files other := by
  cases e with
  | create => exact files_write_of_ne h host []
  | append bytes => exact files_write_of_ne h host _
  | measure =>
    rw [execute]
    split <;> rfl

/-- A call leaves a file as it is, unless it runs a command that is about it. -/
theorem files_answer {path : String} {x : Exchange (ShellCall σ) ShellCall.Reply}
    (h : ∀ command ∈ Copier.commandsOf [x], ∀ e, ¬ Tells path command e) (host : FileHost) :
    (answer σ x.call host).2.files path = host.files path := by
  obtain ⟨call, reply⟩ := x
  cases call with
  | run service shell program arguments =>
    have hother := h (program, arguments) List.mem_cons_self
    simp only [answer]
    split
    · split
      · next other e htells =>
        rw [understand_eq_some_iff] at htells
        refine files_execute_of_ne ?_ host e
        rintro rfl
        exact hother e htells
      · rfl
    · rfl
  | closeShell service shell =>
    simp only [answer]
    split <;> rfl
  | openShell _ => rfl
  | runOrCancel _ _ _ _ => rfl
  | localFile _ => rfl
  | report _ => rfl

/-- A file that no command is about stays as it is. -/
theorem files_after {path : String} {t : Copier.Calls σ}
    (h : ∀ command ∈ Copier.commandsOf t, ∀ e, ¬ Tells path command e) (host : FileHost) :
    (Dialogue.after (answer σ) host t).files path = host.files path := by
  induction t generalizing host with
  | nil => rfl
  | cons x t ih =>
    have hsplit : Copier.commandsOf (x :: t) = Copier.commandsOf [x] ++ Copier.commandsOf t :=
      Copier.commandsOf_append [x] t
    rw [hsplit] at h
    rw [Dialogue.after_cons, ih fun command hc => h command (List.mem_append_right _ hc),
      files_answer fun command hc => h command (List.mem_append_left _ hc)]

end FileHost

/-! ### A copy on a faithful host -/

namespace Copier

variable {c : Copier σ} {answer : (x : ShellCall σ) → ω → x.Reply × ω} {path : String}
  {view : View ω}

theorem yields_newLease (hf : Faithful answer c.service path view) (w : ω) :
    Yields answer c.newLease w fun o w' =>
      ∃ l, o = .ok l ∧ view.isOpen w' l.shell ∧ view.file w' = view.file w := by
  obtain ⟨shell, hreply, hopen, hfile⟩ := hf.opens w
  refine .ask (.done ⟨{ shell }, ?_, hopen, hfile⟩)
  rw [hreply]
  rfl

/-- The shell that a command gets is open. -/
theorem yields_lease (hf : Faithful answer c.service path view) {held : Option Lease} {w : ω}
    (hheld : ∀ l ∈ held, view.isOpen w l.shell) :
    Yields answer (c.lease held) w fun o w' =>
      ∃ l, o = .ok l ∧ view.isOpen w' l.shell ∧ view.file w' = view.file w := by
  cases held with
  | none => exact yields_newLease hf w
  | some l =>
    have hopen := hheld l rfl
    by_cases hl : l.served < c.commandsPerShell
    · rw [lease, if_pos hl]
      exact .done ⟨l, rfl, hopen, rfl⟩
    · rw [lease, if_neg hl]
      obtain ⟨hreply, hfile⟩ := hf.closes w l.shell hopen
      refine .ask ?_
      rw [hreply, ← hfile]
      exact yields_newLease hf _

/-- A script that can be carried out is. -/
theorem yields_runStep (hf : Faithful answer c.service path view) {held : Option Lease} {w : ω}
    {s : Step} {e : Effect} {bytes : Bytes} (hheld : ∀ l ∈ held, view.isOpen w l.shell)
    (htells : Tells path s.command e) (hafter : e.after (view.file w) = some bytes) :
    Yields answer (c.runStep held s) w fun r w' =>
      ∃ text l, r = (.ok text, some l) ∧ view.isOpen w' l.shell ∧ view.file w' = some bytes ∧
        e.Prints bytes text := by
  refine (yields_lease hf hheld).bind ?_
  rintro _ w' ⟨l, rfl, hopen, hfile⟩
  rw [← hfile] at hafter
  obtain ⟨out, hreply, hstderr, hprints, hopen', hfile'⟩ :=
    hf.runs w' l.shell s.command e bytes hopen htells hafter
  refine .ask (.done ⟨out.stdout, { l with served := l.served + 1 }, ?_, hopen', hfile', hprints⟩)
  rw [← (bind_conclude_eq_ok (s := s)).2 ⟨out, hreply, hstderr, rfl⟩]
  rfl

/-- A script that can be carried out is followed by the others. -/
theorem yields_runSteps_cons (hf : Faithful answer c.service path view) {held : Option Lease}
    {w : ω} {s : Step} {steps : List Step} {e : Effect} {bytes : Bytes} (output : String)
    (hheld : ∀ l ∈ held, view.isOpen w l.shell) (htells : Tells path s.command e)
    (hafter : e.after (view.file w) = some bytes) {Q : Outcome String × Option Lease → ω → Prop}
    (hsteps : ∀ text l w', view.isOpen w' l.shell → view.file w' = some bytes →
      e.Prints bytes text → Yields answer (c.runSteps (some l) text steps) w' Q) :
    Yields answer (c.runSteps held output (s :: steps)) w Q := by
  refine (yields_runStep hf hheld htells hafter).bind ?_
  rintro _ w' ⟨text, l, rfl, hopen, hfile, hprints⟩
  exact hsteps text l w' hopen hfile hprints

/-- The chunks are appended to what the file has, and then their size is reported. -/
theorem yields_appends (hf : Faithful answer c.service path view) {cs : List Bytes}
    {steps : List Step} {l : Lease} {w : ω} {old : Bytes} (output : String)
    (htells : List.Forall₂ (fun s e => Tells path s.command e) steps
      (cs.map .append ++ [.measure]))
    (hopen : view.isOpen w l.shell) (hfile : view.file w = some old) :
    Yields answer (c.runSteps (some l) output steps) w fun r w' =>
      view.file w' = some (old ++ cs.flatten) ∧
        ∃ text l', r = (.ok text, some l') ∧ view.isOpen w' l'.shell ∧
          Text.trim text = toString (old ++ cs.flatten).length := by
  -- The file grows from one script to the next, so `old` stands for what it has so far.
  induction cs generalizing steps l w old output with
  | nil =>
    rw [List.flatten_nil, List.append_nil]
    cases htells with
    | cons hmeasure hnone =>
      cases hnone
      refine yields_runSteps_cons hf output (by simpa using hopen) hmeasure hfile ?_
      intro text l' w' hopen' hfile' hprints
      exact .done ⟨hfile', text, l', rfl, hopen', hprints⟩
  | cons chunk cs ih =>
    rw [List.flatten_cons, ← List.append_assoc]
    cases htells with
    | cons happend hrest =>
      have hafter : Effect.after (.append chunk) (view.file w) = some (old ++ chunk) := by
        rw [hfile]
        rfl
      refine yields_runSteps_cons hf output (by simpa using hopen) happend hafter ?_
      intro text l' w' hopen' hfile' _
      exact ih text hrest hopen' hfile'

theorem yields_release (hf : Faithful answer c.service path view) {held : Option Lease} {w : ω}
    (hheld : ∀ l ∈ held, view.isOpen w l.shell) :
    Yields answer (c.release held) w fun _ w' => view.file w' = view.file w := by
  cases held with
  | none => exact .done rfl
  | some l =>
    obtain ⟨hreply, hfile⟩ := hf.closes w l.shell (hheld l rfl)
    refine .ask ?_
    rw [hreply]
    exact .done hfile

theorem checkSize_of_report {data : Bytes} {destination text : String}
    (hlen : data.length < UInt64.size) (h : Text.trim text = toString data.length) :
    checkSize data.length destination text = .ok data.length := by
  rw [checkSize_eq_ok, reportedSize, ← Text.toList_trim, h, Nat.toString_eq_ofList_toDigits,
    String.toList_ofList, Text.natValue_toDigits]
  simp [hlen]

/-- Where the scripts tell about a path, the file there is the data in the end, and its size is the
result. -/
theorem yields_copy {destination : String} (hf : Faithful answer c.service path view) {data : Bytes}
    (hlen : data.length < UInt64.size)
    (htells : List.Forall₂ (Tells path) ((plan c.chunkSize data destination).map Step.command)
      (effects (chunks c.chunkSize data))) (w : ω) :
    Yields answer (c.copy data destination) w fun r w' =>
      r = .ok data.length ∧ view.file w' = some data := by
  rw [List.forall₂_map_left_iff] at htells
  have hsteps : Yields answer (c.runSteps none "" (plan c.chunkSize data destination)) w
      fun r w' => view.file w' = some data ∧
        ∃ text l, r = (.ok text, some l) ∧ view.isOpen w' l.shell ∧
          Text.trim text = toString data.length := by
    cases htells with
    | cons hcreate hrest =>
      refine yields_runSteps_cons hf "" (by simp) hcreate rfl ?_
      intro text l w' hopen hfile _
      have h := yields_appends hf text hrest hopen hfile
      rwa [List.nil_append, flatten_chunks c.chunkSize_pos] at h
  have hholding : Yields answer (c.copyHolding none data destination) w fun r w' =>
      r.1 = .ok data.length ∧ view.file w' = some data := by
    refine hsteps.bind ?_
    rintro _ w' ⟨hfile, text, l, rfl, hopen, hsize⟩
    refine (yields_release hf (by simpa using hopen)).bind ?_
    intro held w'' hfile'
    exact .done ⟨checkSize_of_report hlen hsize, hfile'.trans hfile⟩
  refine hholding.bind ?_
  rintro ⟨r, held⟩ w' h
  exact .done h

/-- On a host with files the destination stays as it is, if it is not straight. -/
theorem files_of_play (c : Copier σ) (data : Bytes) {destination : String}
    (h : ¬ Straight destination) (host : FileHost) :
    ((c.copy data destination).play (FileHost.answer σ) host).state.files destination =
      host.files destination := by
  obtain ⟨r, hr⟩ := (returns_copy (c := c) data destination).play (FileHost.answer σ) host
  have hcommands := commandsOf_copy_prefix (runs_of_play hr)
  rw [(answered_play (FileHost.answer σ) (c.copy data destination) host).2]
  refine FileHost.files_after (fun command hmem e htells => h ?_) host
  exact straight_of_tells (hcommands.subset hmem) htells

/-- The copy succeeds, the file that is looked at is the data in the end, and no more shells are
opened than its scripts need. -/
def Writes (c : Copier σ) (data : Bytes) (destination : String)
    (answer : (x : ShellCall σ) → ω → x.Reply × ω) (w : ω) (view : View ω) : Prop :=
  let played := (c.copy data destination).play answer w
  played.result? = some (.ok data.length) ∧ view.file played.state = some data ∧
    openings played.exchanges =
      ((data.length + c.chunkSize - 1) / c.chunkSize + 2 + c.commandsPerShell - 1) /
        c.commandsPerShell

theorem writes_of_tells {destination : String} (hf : Faithful answer c.service path view)
    {data : Bytes} (hlen : data.length < UInt64.size)
    (htells : List.Forall₂ (Tells path) ((plan c.chunkSize data destination).map Step.command)
      (effects (chunks c.chunkSize data))) (w : ω) :
    c.Writes data destination answer w view := by
  obtain ⟨r, hr, rfl, hfile⟩ := yields_copy hf hlen htells w
  refine ⟨hr, hfile, ?_⟩
  rw [openings_copy (runs_of_play hr), length_chunks]

/-- **A copy follows its plan.**  The plan makes a file, appends chunk by chunk what is the
data put together, and reads the size back; each script is handed over so that it decodes
to itself.  Against any outside a copy comes to its end and runs a first part of the plan,
each script once and in order; it succeeds with a size just where all of the plan was run,
nothing failed until then and the size that was read is the data's.

If PowerShell reads the scripts as the ones for a path, then against a host that is faithful
there the copy succeeds, the file is the data, and no more shells are opened than are needed.
So it is with the destination itself and every host that is faithful there exactly when the
destination has none of the quoting characters U+2018 to U+201B. -/
theorem copy_follows_plan (c : Copier σ) (data : Bytes) (destination : String)
    (answer : (x : ShellCall σ) → ω → x.Reply × ω) (w : ω) :
    let played := (c.copy data destination).play answer w
    let steps := plan c.chunkSize data destination
    ∃ cs : List Bytes,
      cs.flatten = data ∧ cs.length = (data.length + c.chunkSize - 1) / c.chunkSize ∧
      (∀ chunk ∈ cs, chunk.length ≤ c.chunkSize) ∧
      steps = prepare destination :: cs.zipIdx.map (append destination) ++ [verify destination] ∧
      steps.filterMap (payload? ·.script) = cs ∧
      (∀ s ∈ steps, script? s.command.2 = some s.script) ∧
      commandsOf played.exchanges <+: steps.map Step.command ∧
      (∃ r, played.result? = some r) ∧
      (∀ n, played.result? = some (.ok n) ↔
        Completed c data destination n played.exchanges) ∧
      (data.length < UInt64.size →
        (∀ path view, List.Forall₂ (Tells path) (steps.map Step.command) (effects cs) →
          Faithful answer c.service path view → c.Writes data destination answer w view) ∧
        ((∀ (ω' : Type) (answer' : (x : ShellCall σ) → ω' → x.Reply × ω') (w' : ω')
            (view' : View ω'), Faithful answer' c.service destination view' →
            c.Writes data destination answer' w' view') ↔ Straight destination)) := by
  obtain ⟨r, hr⟩ := (returns_copy (c := c) data destination).play answer w
  have hruns := runs_of_play hr
  refine ⟨chunks c.chunkSize data, flatten_chunks c.chunkSize_pos data, length_chunks _ data,
    fun chunk h => length_le_of_mem_pieces h, rfl, payloads_plan _ data destination,
    fun s _ => script?_arguments s.script, commandsOf_copy_prefix hruns, ⟨r, hr⟩, ?_, ?_⟩
  · intro n
    rw [hr, Option.some.injEq]
    exact eq_ok_iff_completed hruns
  · intro hlen
    refine ⟨fun path view htells hf => writes_of_tells hf hlen htells w, ?_, ?_⟩
    · intro hwrites
      by_contra hcurly
      -- a host without files is left without the destination
      obtain ⟨-, hfile, -⟩ := hwrites FileHost (FileHost.answer σ) {} (FileHost.view destination)
        (FileHost.faithful c.service destination)
      rw [FileHost.file_view, files_of_play c data hcurly] at hfile
      cases hfile
    · intro hstraight ω' answer' w' view' hf
      have htells := forall₂_tells (literal?_of_straight hstraight) c.chunkSize data
      exact writes_of_tells hf hlen htells w'

/-- Three bytes in two chunks take four scripts, which two shells run. -/
theorem copy_follows_plan_three_bytes :
    let c : Copier Unit := { service := (), chunkSize := 2, commandsPerShell := 2 }
    let destination := "C:\\it's\\a.txt"
    let played := (c.copy [1, 2, 3] destination).play (FileHost.answer Unit) {}
    Straight destination ∧
      Faithful (FileHost.answer Unit) () destination (FileHost.view destination) ∧
      played.result? = some (.ok 3) ∧ played.state.files destination = some [1, 2, 3] ∧
      openings played.exchanges = 2 := by
  intro c destination
  have hstraight : Straight destination := by decide
  have hfaithful := FileHost.faithful () destination
  obtain ⟨cs, -, -, -, -, -, -, -, -, -, hwrites⟩ :=
    copy_follows_plan c [1, 2, 3] destination (FileHost.answer Unit) {}
  obtain ⟨-, hexact⟩ := hwrites (by decide)
  obtain ⟨hresult, hfile, hopenings⟩ :=
    hexact.2 hstraight FileHost (FileHost.answer Unit) {} (FileHost.view destination) hfaithful
  rw [FileHost.file_view] at hfile
  exact ⟨hstraight, hfaithful, hresult, hfile,
    hopenings.trans (show ((3 + 2 - 1) / 2 + 2 + 2 - 1) / 2 = 2 by decide)⟩

/-- Two curly quotes in a row are read as one of them: the copy succeeds, and another file was
written. -/
theorem doubled_curly_quote_names_other_file :
    let destination := "C:/it\u2019\u2019s"
    let other := "C:/it\u2019s"
    let played := ((Copier.ofService ()).copy [0] destination).play (FileHost.answer Unit) {}
    (∀ path, Faithful (FileHost.answer Unit) () path (FileHost.view path)) ∧
      played.result? = some (.ok 1) ∧ played.state.files destination = none ∧
      played.state.files other = some [0] := by
  intro destination other
  have hother : literal? destination = some other := by decide
  have hcurly : ¬ Straight destination := by decide
  obtain ⟨hresult, hfile, -⟩ :=
    writes_of_tells (c := Copier.ofService ()) (FileHost.faithful () other)
      (show [(0 : UInt8)].length < UInt64.size by decide) (forall₂_tells hother _ [0]) {}
  rw [FileHost.file_view] at hfile
  exact ⟨FileHost.faithful (), hresult, files_of_play _ [0] hcurly {}, hfile⟩

end Copier

end RemoteHost.Winrm
