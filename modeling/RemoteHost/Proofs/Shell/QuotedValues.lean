/-
RemoteHost/Proofs/Shell/QuotedValues.lean

Commands with one value in them, as a shell reads them.

A directory, an archive, a package file and a package's name each go into a command as one quoted
value.  What stands before the value is read as words after which another one may begin (`Opens`),
and what stands behind it ends a word and is read as further ones (`Closes`).  Between two such
texts any value without NUL is read as one word, which is the value (`simpleCommand_quote`).

So no directory or package can be called anything that changes the words around it
(`quoted_value_is_one_word`): the flag that leaves out the check of signatures is among the words
of an installation only if the caller wants it there.
-/
import RemoteHost.Proofs.Shell.SimpleCommand
import RemoteHost.Proofs.Ssh.RebootCourse
import RemoteHost.Proofs.Text.Case

namespace RemoteHost.Shell

/-! ### Texts around a value -/

/-- The text is read as these words, and another one may begin behind it. -/
def Opens (lead : String) (words : List String) : Prop :=
  '\x00' ∉ lead.toList ∧
    Reading.start.read lead.toList = .ok ⟨words.map String.toList, none, .plain⟩ ∧
    ∃ v ∈ words.head?, v ∉ reservedWords ∧ '=' ∉ v.toList

/-- The text ends the word before it and is read as these words. -/
def Closes (trail : String) (words : List String) : Prop :=
  '\x00' ∉ trail.toList ∧ ∀ ws w,
    Reading.readAll ⟨ws, some w, .plain⟩ trail.toList = .ok (ws ++ w :: words.map String.toList)

theorem closes_nil : Closes "" [] := ⟨by decide, fun _ _ => rfl⟩

/-- Between an opening and a closing text, a quoted value is read as one word. -/
theorem simpleCommand_quote {lead trail value : String} {before behind : List String}
    (hlead : Opens lead before) (htrail : Closes trail behind) (hnul : '\x00' ∉ value.toList) :
    simpleCommand (lead ++ quote value ++ trail) = .ok (before ++ value :: behind) := by
  obtain ⟨hleadNul, hread, v, hv, hname⟩ := hlead
  obtain ⟨htrailNul, hend⟩ := htrail
  have htext : (lead ++ quote value ++ trail).toList =
      lead.toList ++ (quoteChars value.toList ++ trail.toList) := by
    rw [String.toList_append, String.toList_append, toList_quote, List.append_assoc]
  rw [simpleCommand_eq_ok_iff, htext]
  refine ⟨?_, ?_, v, ?_, hname⟩
  · rw [List.mem_append, List.mem_append, mem_quoteChars (by decide) (by decide), not_or, not_or]
    exact ⟨hleadNul, hnul, htrailNul⟩
  · rw [Reading.readAll_append_of_read hread,
      Reading.readAll_append_of_read (Reading.read_quoteChars _ _), hend, List.map_append,
      List.map_cons]
  · rw [List.head?_append, Option.mem_def.1 hv]
    rfl

/-! ### Depots -/

/-- The path ends in `.zip`, with each letter in either case. -/
def EndsInZip (path : String) : Prop :=
  ∃ stem, ∃ z ∈ ['z', 'Z'], ∃ i ∈ ['i', 'I'], ∃ p ∈ ['p', 'P'],
    path.toList = stem ++ ['.', z, i, p]

theorem isDepot_iff (path : String) : Esxi.Command.isDepot path ↔ EndsInZip path := by
  have hz (c : Char) : Text.lowerAscii c = 'z' ↔ c ∈ ['z', 'Z'] := by
    rw [Text.lowerAscii_eq_letter_iff (u := 'Z') (by decide) (by decide)]
    simp
  have hi (c : Char) : Text.lowerAscii c = 'i' ↔ c ∈ ['i', 'I'] := by
    rw [Text.lowerAscii_eq_letter_iff (u := 'I') (by decide) (by decide)]
    simp
  have hp (c : Char) : Text.lowerAscii c = 'p' ↔ c ∈ ['p', 'P'] := by
    rw [Text.lowerAscii_eq_letter_iff (u := 'P') (by decide) (by decide)]
    simp
  have hdot (c : Char) : Text.lowerAscii c = '.' ↔ c = '.' :=
    Text.lowerAscii_eq_other_iff (by decide) (by decide)
  rw [Esxi.Command.isDepot, Text.endsWith, List.isSuffixOf_iff_suffix, Text.toList_toLowerAscii]
  constructor
  · rintro ⟨stem, h⟩
    obtain ⟨stem, last, hpath, -, hlast⟩ := List.map_eq_append_iff.1 h.symm
    obtain ⟨a, last, rfl, ha, hlast⟩ := List.map_eq_cons_iff.1 hlast
    obtain ⟨z, last, rfl, hz', hlast⟩ := List.map_eq_cons_iff.1 hlast
    obtain ⟨i, last, rfl, hi', hlast⟩ := List.map_eq_cons_iff.1 hlast
    obtain ⟨p, last, rfl, hp', hlast⟩ := List.map_eq_cons_iff.1 hlast
    obtain rfl := List.map_eq_nil_iff.1 hlast
    obtain rfl := (hdot a).1 ha
    exact ⟨stem, z, (hz z).1 hz', i, (hi i).1 hi', p, (hp p).1 hp', hpath⟩
  · rintro ⟨stem, z, hz', i, hi', p, hp', hpath⟩
    refine ⟨stem.map Text.lowerAscii, ?_⟩
    rw [hpath, List.map_append]
    simp only [List.map_cons, List.map_nil, (hz z).2 hz', (hi i).2 hi', (hp p).2 hp',
      (hdot '.').2 rfl]
    rfl

/-! ### The commands -/

/-- The words of an installation, up to the path. -/
def installWords (path : String) : List String :=
  ["esxcli", "software", "vib", "install", if Esxi.Command.isDepot path then "-d" else "-v"]

theorem opens_install (path : String) :
    Opens ("esxcli software vib install " ++ (if Esxi.Command.isDepot path then "-d" else "-v") ++
      " ") (installWords path) := by
  unfold installWords
  split
  · exact ⟨by decide, rfl, "esxcli", rfl, by decide, by decide⟩
  · exact ⟨by decide, rfl, "esxcli", rfl, by decide, by decide⟩

theorem simpleCommand_install {path : String} (verify : Bool) (hnul : '\x00' ∉ path.toList) :
    simpleCommand (Esxi.Command.install path verify) =
      .ok (installWords path ++ path :: if verify then [] else ["--no-sig-check"]) := by
  cases verify with
  | true => exact simpleCommand_quote (opens_install path) closes_nil hnul
  | false =>
    refine simpleCommand_quote (opens_install path) ⟨by decide, fun ws w => ?_⟩ hnul
    show Except.ok (ws ++ [w] ++ ["--no-sig-check".toList]) = _
    rw [List.append_assoc]
    rfl

theorem simpleCommand_remove {name : String} (hnul : '\x00' ∉ name.toList) :
    simpleCommand (Esxi.Command.remove name) =
      .ok ["esxcli", "software", "vib", "remove", "-n", name] := by
  have hopens : Opens "esxcli software vib remove -n "
      ["esxcli", "software", "vib", "remove", "-n"] :=
    ⟨by decide, rfl, "esxcli", rfl, by decide, by decide⟩
  have h := simpleCommand_quote hopens closes_nil hnul
  rwa [String.append_empty] at h

theorem simpleCommand_listCommand {path : String} (hnul : '\x00' ∉ path.toList) :
    simpleCommand (Ssh.Session.listCommand path) = .ok ["ls", "-1", path] := by
  have hopens : Opens "ls -1 " ["ls", "-1"] := ⟨by decide, rfl, "ls", rfl, by decide, by decide⟩
  have h := simpleCommand_quote hopens closes_nil hnul
  rwa [String.append_empty] at h

theorem simpleCommand_untarCommand {archive : String} (hnul : '\x00' ∉ archive.toList) :
    simpleCommand (Ssh.Session.untarCommand archive) = .ok ["tar", "-xvf", archive] := by
  have hopens : Opens "tar -xvf " ["tar", "-xvf"] :=
    ⟨by decide, rfl, "tar", rfl, by decide, by decide⟩
  have h := simpleCommand_quote hopens closes_nil hnul
  rwa [String.append_empty] at h

/-! ### What a session runs -/

open Ssh Dialogue

/-- The commands that are run in some calls, in order, each with its connection. -/
def executed (t : Calls) : List (Nat × String) :=
  t.filterMap fun x =>
    match x.call with
    | .execute n command => some (n, command)
    | _ => none

variable {s : Session} {t : Calls} {path archive directory : String}

/-- A command is run once over a live connection, and not at all without one. -/
theorem executed_of_ran {command : String} {r : Outcome String} (h : s.Ran command t r) :
    executed t = s.connection.toList.map (·, command) := by
  cases h with
  | unconnected hlive =>
    rw [hlive]
    rfl
  | sent hlive reply =>
    rw [hlive]
    rfl

theorem executed_of_course_list {logOutput : Bool} {r? : Option (Outcome (List String))}
    (h : Course (s.list path logOutput) t r?) :
    executed t = s.connection.toList.map (·, Session.listCommand path) := by
  obtain ⟨t₁, r, rfl, hran, -⟩ := Session.course_list h
  have hlog : executed (Session.listingLog logOutput r) = [] := by
    cases r with
    | error e => rfl
    | ok output => cases logOutput <;> rfl
  have happend : executed (t₁ ++ Session.listingLog logOutput r) =
      executed t₁ ++ executed (Session.listingLog logOutput r) := List.filterMap_append
  rw [happend, hlog, List.append_nil]
  exact executed_of_ran hran

theorem executed_of_course_untar {r? : Option (Outcome (List String))}
    (h : Course (s.untar archive directory) t r?) :
    executed t = s.connection.toList.map
      (·, "cd " ++ directory ++ " && " ++ Session.untarCommand archive) := by
  obtain ⟨r, hran, -⟩ := Session.course_untar h
  exact executed_of_ran hran

/-- **A quoted value is one word.**  Whatever a directory, an archive or a package is called, a
shell reads the command it is put into as the words that are meant, with the name as one of them.
A listing runs this command and nothing else; to unpack an archive, it is run in a directory.  A
file to install counts as a depot exactly when it ends in `.zip`, and the check of signatures is
left out exactly when the caller says so. -/
theorem quoted_value_is_one_word (value : String) (hnul : '\x00' ∉ value.toList) :
    (∀ (s : Session) (logOutput : Bool) (t : Calls) (r? : Option (Outcome (List String))),
      Course (s.list value logOutput) t r? → ∃ command,
        executed t = s.connection.toList.map (·, command) ∧
          simpleCommand command = .ok ["ls", "-1", value]) ∧
    (∀ (s : Session) (directory : String) (t : Calls) (r? : Option (Outcome (List String))),
      Course (s.untar value directory) t r? → ∃ command,
        executed t = s.connection.toList.map (·, "cd " ++ directory ++ " && " ++ command) ∧
          simpleCommand command = .ok ["tar", "-xvf", value]) ∧
    simpleCommand (Esxi.Command.remove value) =
      .ok ["esxcli", "software", "vib", "remove", "-n", value] ∧
    ∃ flag,
      (∀ verify, simpleCommand (Esxi.Command.install value verify) =
        .ok (["esxcli", "software", "vib", "install", flag, value] ++
          if verify then [] else ["--no-sig-check"])) ∧
      (flag = "-d" ↔ EndsInZip value) ∧ (flag = "-v" ↔ ¬ EndsInZip value) := by
  refine ⟨?_, ?_, simpleCommand_remove hnul, ?_⟩
  · intro s logOutput t r? h
    exact ⟨_, executed_of_course_list h, simpleCommand_listCommand hnul⟩
  · intro s directory t r? h
    exact ⟨_, executed_of_course_untar h, simpleCommand_untarCommand hnul⟩
  · refine ⟨_, fun verify => simpleCommand_install verify hnul, ?_⟩
    rw [← isDepot_iff]
    cases Esxi.Command.isDepot value with
    | true => exact ⟨by decide, by decide⟩
    | false => exact ⟨by decide, by decide⟩

/-- A name that is put together to end its word, to run a command and to leave out the check of
signatures does none of this. -/
theorem quoted_value_is_one_word_hostile :
    let name := "x.vib' --no-sig-check; reboot #$(reboot)!.Zip"
    '\x00' ∉ name.toList ∧
      simpleCommand (Esxi.Command.remove name) =
        .ok ["esxcli", "software", "vib", "remove", "-n", name] ∧
      (∃ command, executed
          ((Session.patient.list name true).play (Session.slowProbes 0) 0).exchanges =
          [(1, command)] ∧ simpleCommand command = .ok ["ls", "-1", name]) ∧
      ∃ command, executed
          ((Session.patient.untar name "~").play (Session.slowProbes 0) 0).exchanges =
          [(1, "cd " ++ "~" ++ " && " ++ command)] ∧
        simpleCommand command = .ok ["tar", "-xvf", name] := by
  intro name
  have hnul : '\x00' ∉ name.toList := by decide
  obtain ⟨hlist, huntar, hremove, -⟩ := quoted_value_is_one_word name hnul
  exact ⟨hnul, hremove, hlist _ _ _ _ (course_of_play _ _ _), huntar _ _ _ _ (course_of_play _ _ _)⟩

end RemoteHost.Shell
