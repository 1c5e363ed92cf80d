/-
RemoteHost/Proofs/Winrm/CopyScripts.lean

The path of the destination in the scripts of a copy.

A script of a copy is made of fixed text and of literals between single quotes (`forms`):
the path wherever the file is meant, and the data of a chunk.  There is one form for each
thing that a script does to its file (`Effect.form`).  What is run for it is the script and
what every script begins with, and PowerShell reads that as it is meant exactly when the
path has none of the quoting characters U+2018 to U+201B (`copy_scripts_read_iff`).  These
are not written twice as the apostrophe is: one of them ends the literal, and what follows
it in the path is read as part of the script (`curly_quote_ends_literal`).  Where the path
is still read as one literal, the script is the one for the path that is read (`read?_form`).
-/
import Mathlib.Data.List.Forall2
import RemoteHost.Proofs.PowerShell.Literals
import RemoteHost.Proofs.Winrm.CopyPlan

namespace RemoteHost.Winrm

open PowerShell

namespace FileCopy

/-! ### What the scripts are made of -/

/-- What every script begins with, up to the text behind it. -/
def opening : String × String := ("$ProgressPreference = ", "SilentlyContinue")

/-- The script that makes an empty file. -/
def prepareForm (destination : String) : Parts where
  fills :=
    [opening, ("; $parent = Split-Path -Parent ", destination),
      ("; if ($parent -and -not (Test-Path $parent)) \x7b New-Item -ItemType Directory " ++
        "-Path $parent -Force | Out-Null \x7d; if (Test-Path ", destination),
      (") \x7b Remove-Item ", destination),
      (" -Force \x7d; New-Item -ItemType File -Path ", destination)]
  last := " -Force | Out-Null"

/-- The script that appends a chunk. -/
def appendForm (destination : String) (chunk : Bytes) : Parts where
  fills :=
    [opening, ("; $bytes = [System.Convert]::FromBase64String(", Base64.encode chunk),
      ("); [System.IO.File]::AppendAllBytes(", destination)]
  last := ", $bytes)"

/-- The script that reads the size. -/
def verifyForm (destination : String) : Parts where
  fills := [opening, ("; (Get-Item ", destination)]
  last := ").Length"

/-- The scripts of a copy, in order. -/
def forms (chunkSize : Nat) (data : Bytes) (destination : String) : List Parts :=
  prepareForm destination :: (chunks chunkSize data).map (appendForm destination) ++
    [verifyForm destination]

/-- What a script of a copy does to the file that it is about. -/
inductive Effect where
  /-- There is an empty file, whatever was there. -/
  | create
  | append (bytes : Bytes)
  /-- The size is reported. -/
  | measure
  deriving DecidableEq, Repr

/-- The script that does this to the file at a path. -/
def Effect.form (path : String) : Effect → Parts
  | create => prepareForm path
  | append bytes => appendForm path bytes
  | measure => verifyForm path

/-- What the scripts of a copy do with these chunks, in order. -/
def effects (cs : List Bytes) : List Effect := .create :: cs.map .append ++ [.measure]

theorem forms_eq (chunkSize : Nat) (data : Bytes) (destination : String) :
    forms chunkSize data destination =
      (effects (chunks chunkSize data)).map (Effect.form destination) := by
  rw [forms, effects, List.map_append, List.map_cons, List.map_map]
  rfl

/-- What can stand between literals does not depend on their values. -/
theorem isPlain_of_texts {p q : Parts} (h : p.texts = q.texts) (hq : q.isPlain) : p.isPlain := by
  rwa [Parts.isPlain, h]

/-- Nothing that stands between the literals of a script can be taken for a part of one. -/
theorem isPlain_form (path : String) (e : Effect) : (e.form path).isPlain := by
  have hplain :
      [Effect.create, .append [], .measure].all fun e => (e.form "").isPlain := by
    decide +kernel
  simp only [List.all_cons, List.all_nil, Bool.and_eq_true, and_true] at hplain
  obtain ⟨hcreate, happend, hmeasure⟩ := hplain
  cases e with
  | create => exact isPlain_of_texts rfl hcreate
  | append bytes => exact isPlain_of_texts rfl happend
  | measure => exact isPlain_of_texts rfl hmeasure

/-- What every script begins with goes on into the first text of the script itself. -/
theorem render_opening {t u : String} (h : u = "; " ++ t) (v : String)
    (fills : List (String × String)) (last : String) :
    preamble ++ Parts.render ⟨(t, v) :: fills, last⟩ =
      Parts.render ⟨opening :: (u, v) :: fills, last⟩ := by
  have hpreamble : preamble = opening.1 ++ (quote opening.2 ++ "; ") := by decide +kernel
  rw [hpreamble, h, render_cons, render_cons, render_cons, String.append_assoc,
    String.append_assoc, String.append_assoc]

theorem render_prepareForm (destination : String) :
    preamble ++ (prepare destination).script = (prepareForm destination).render := by
  have happend : ∀ a b c d e f q : String,
      a ++ q ++ b ++ c ++ q ++ d ++ q ++ e ++ q ++ f =
        a ++ (q ++ ((b ++ c) ++ (q ++ (d ++ (q ++ (e ++ (q ++ f))))))) := by
    intros
    simp only [String.append_assoc]
  have hscript : (prepare destination).script =
      Parts.render ⟨("$parent = Split-Path -Parent ", destination) ::
        (prepareForm destination).fills.drop 2, " -Force | Out-Null"⟩ :=
    happend _ _ _ _ _ _ (quote destination)
  rw [hscript]
  apply render_opening
  simp only [String.reduceAppend]

theorem render_appendForm (destination : String) (chunk : Bytes × Nat) :
    preamble ++ (append destination chunk).script = (appendForm destination chunk.1).render := by
  have hopen : ("$bytes = [System.Convert]::FromBase64String('" : String) =
      "$bytes = [System.Convert]::FromBase64String(" ++ "'" := by
    simp only [String.reduceAppend]
  have hclose : ("'); [System.IO.File]::AppendAllBytes(" : String) =
      "'" ++ "); [System.IO.File]::AppendAllBytes(" := by
    simp only [String.reduceAppend]
  have hchunk : quote (Base64.encode chunk.1) = "'" ++ Base64.encode chunk.1 ++ "'" := by
    apply quote_eq
    rw [Base64.toList_encode]
    exact quote_not_mem_encodeChars chunk.1
  have happend : ∀ a b c d k q : String,
      (a ++ k) ++ b ++ (k ++ c) ++ q ++ d = a ++ ((k ++ b ++ k) ++ (c ++ (q ++ d))) := by
    intros
    simp only [String.append_assoc]
  have hscript : (append destination chunk).script =
      Parts.render ⟨[("$bytes = [System.Convert]::FromBase64String(", Base64.encode chunk.1),
        ("); [System.IO.File]::AppendAllBytes(", destination)], ", $bytes)"⟩ := by
    show "$bytes = [System.Convert]::FromBase64String('" ++ Base64.encode chunk.1 ++
        "'); [System.IO.File]::AppendAllBytes(" ++ quote destination ++ ", $bytes)" =
      "$bytes = [System.Convert]::FromBase64String(" ++ (quote (Base64.encode chunk.1) ++
        ("); [System.IO.File]::AppendAllBytes(" ++ (quote destination ++ ", $bytes)")))
    rw [hchunk, hopen, hclose]
    exact happend _ _ _ _ _ (quote destination)
  rw [hscript]
  apply render_opening
  simp only [String.reduceAppend]

theorem render_verifyForm (destination : String) :
    preamble ++ (verify destination).script = (verifyForm destination).render := by
  have hscript : (verify destination).script =
      Parts.render ⟨[("(Get-Item ", destination)], ").Length"⟩ :=
    String.append_assoc ..
  rw [hscript]
  apply render_opening
  simp only [String.reduceAppend]

/-- The texts of the plan, script by script. -/
theorem forall₂_render (chunkSize : Nat) (data : Bytes) (destination : String) :
    List.Forall₂ (fun s e => preamble ++ s.script = (Effect.form destination e).render)
      (plan chunkSize data destination) (effects (chunks chunkSize data)) := by
  have happend : ∀ (cs : List Bytes) (k : Nat),
      List.Forall₂ (fun s e => preamble ++ s.script = (Effect.form destination e).render)
        ((cs.zipIdx k).map (append destination)) (cs.map .append) := by
    intro cs k
    induction cs generalizing k with
    | nil => exact .nil
    | cons chunk cs ih => exact .cons (render_appendForm destination (chunk, k)) (ih (k + 1))
  rw [plan, effects]
  apply List.rel_append
  · exact .cons (render_prepareForm destination) (happend _ 0)
  · exact .cons (render_verifyForm destination) .nil

/-! ### What is read in them -/

theorem straight_opening : Straight opening.2 := by decide

theorem straight_encode (bytes : Bytes) : Straight (Base64.encode bytes) := by
  intro c hc hcurly
  rw [Base64.toList_encode] at hc
  have hascii := Base64.ascii_of_mem_encodeChars hc
  have hcurlies : curlyQuotes.all fun c => decide (128 ≤ c.toNat) := by decide
  have hcode := of_decide_eq_true (List.all_eq_true.1 hcurlies c hcurly)
  omega

/-- A script is read as the one for the path that is read in a literal. -/
theorem read?_form {destination path : String} (h : literal? destination = some path)
    (e : Effect) : read? (e.form destination).render = some (e.form path) := by
  have hopening : ReadAs opening opening := readAs_self straight_opening
  have hpath : ∀ text, ReadAs (text, destination) (text, path) := fun _ => ⟨rfl, h⟩
  have hplain := isPlain_form destination e
  cases e with
  | create =>
    exact readAll_render hplain (.cons hopening <| .cons (hpath _) <| .cons (hpath _) <|
      .cons (hpath _) <| .cons (hpath _) .nil) []
  | append bytes =>
    have hbytes : ∀ text, ReadAs (text, Base64.encode bytes) (text, Base64.encode bytes) :=
      fun _ => readAs_self (straight_encode bytes)
    exact readAll_render hplain (.cons hopening (.cons (hbytes _) (.cons (hpath _) .nil))) []
  | measure => exact readAll_render hplain (.cons hopening (.cons (hpath _) .nil)) []

/-- A script is read as it is meant just where the path is straight. -/
theorem read?_form_iff {path : String} {e : Effect} :
    read? (e.form path).render = some (e.form path) ↔ Straight path := by
  rw [read?_render_iff (isPlain_form path e)]
  cases e with
  | create => simp [Effect.form, prepareForm, straight_opening]
  | append bytes => simp [Effect.form, appendForm, straight_opening, straight_encode]
  | measure => simp [Effect.form, verifyForm, straight_opening]

/-- What PowerShell reads in the script that is handed over to it. -/
def readCommand? (command : String × List String) : Option Parts :=
  if command.1 = program then (script? command.2).bind fun script => read? (preamble ++ script)
  else none

theorem readCommand?_command (s : Step) :
    readCommand? s.command = read? (preamble ++ s.script) := by
  rw [readCommand?, Step.command, if_pos rfl, script?_arguments, Option.bind_some]

theorem forall₂_plan (chunkSize : Nat) (data : Bytes) (destination : String) :
    List.Forall₂ (fun command form => readCommand? command = some form ↔ Straight destination)
      ((plan chunkSize data destination).map Step.command) (forms chunkSize data destination) := by
  rw [forms_eq, List.forall₂_map_left_iff, List.forall₂_map_right_iff]
  refine (forall₂_render chunkSize data destination).imp fun s e h => ?_
  rw [readCommand?_command, h]
  exact read?_form_iff

/-- A curly quote in a path ends the literal, and what follows is a part of the script. -/
theorem curly_quote_ends_literal :
    readCommand? (prepare "C:/it\u2019s").command ≠ some (prepareForm "C:/it\u2019s") ∧
    readCommand? (verify "C:/it\u2019s").command = none ∧
    readCommand? (verify "x\u2019; Remove-Item C:/data; \u2019").command =
      some ⟨[opening, ("; (Get-Item ", "x"), ("; Remove-Item C:/data; ", "")], ").Length"⟩ := by
  refine ⟨?_, ?_, ?_⟩
  · intro h
    rw [readCommand?_command, render_prepareForm] at h
    have hstraight := read?_form_iff (e := .create).1 h
    revert hstraight
    decide
  · rw [readCommand?_command]
    decide +kernel
  · rw [readCommand?_command]
    decide +kernel

end FileCopy

namespace Copier

open FileCopy

variable {σ ω : Type}

/-- **Paths in scripts.**  What PowerShell reads in the scripts of a copy are, one by one, the
forms that are meant, with the path of the destination as the value of a literal wherever
it stands, exactly when the path has no quoting character but the apostrophe.  Whatever the
outside answers, no other scripts are run. -/
theorem copy_scripts_read_iff (c : Copier σ) (data : Bytes) (destination : String)
    (answer : (x : ShellCall σ) → ω → x.Reply × ω) (w : ω) :
    let commands := (plan c.chunkSize data destination).map Step.command
    List.Forall₂ (fun command form => readCommand? command = some form ↔ Straight destination)
        commands (forms c.chunkSize data destination) ∧
      commandsOf ((c.copy data destination).play answer w).exchanges <+: commands := by
  intro commands
  obtain ⟨r, hr⟩ := (returns_copy (c := c) data destination).play answer w
  constructor
  · exact forall₂_plan c.chunkSize data destination
  · exact commandsOf_copy_prefix (Dialogue.runs_of_play hr)

end Copier

end RemoteHost.Winrm
