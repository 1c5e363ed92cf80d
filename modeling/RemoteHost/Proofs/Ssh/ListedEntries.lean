/-
RemoteHost/Proofs/Ssh/ListedEntries.lean

The entries that a command lists.

Listing a directory and unpacking an archive run a command and take the lines of its output that
are not blank (`Performed.listed`).  How the host lays these lines out does not matter: which line
ends it writes, and what padding it puts around them (`entries_ignore_layout`).
-/
import RemoteHost.Proofs.Ssh.SessionRuns
import RemoteHost.Proofs.Text.Lines

namespace RemoteHost.Ssh

open Dialogue Text

namespace Session

variable {s : Session} {t : Calls} {n : Nat} {command : String} {o : Operation}

/-- The command whose output an operation takes for a list of entries. -/
def Operation.listing? : Operation → Option String
  | list path _ => some (listCommand path)
  | untar archive directory => some (inDirectory directory (untarCommand archive))
  | run _ | runIn _ _ | upload _ _ _ | waitReachable | reboot | esxi _ => none

/-- What is listed over a live connection are the lines of the output that are not blank. -/
theorem Performed.listed {r? : Option (Outcome Result × Session)} (h : Performed s o t r?)
    (hlive : s.connection = some n) (hlisting : o.listing? = some command) :
    ∃ (reply : Outcome CommandResult) (rest : Calls),
      t = announced command :: ⟨.execute n command, reply⟩ :: rest ∧
      ∀ r, reply = .ok r → r.status = 0 →
        r? = some (.ok (.entries (nonEmptyLines r.output)), s) := by
  have houtcome : ∀ {reply : Outcome CommandResult} {r : CommandResult}, reply = .ok r →
      r.status = 0 → s.outcomeOf command reply = .ok r.output := by
    rintro _ r rfl hstatus
    exact if_pos hstatus
  cases h with
  | list hran =>
    cases hlisting
    obtain ⟨reply, rfl, rfl⟩ := hran.sent_over hlive
    refine ⟨reply, _, rfl, fun r hr hstatus => ?_⟩
    rw [houtcome hr hstatus]
    rfl
  | untar hran =>
    cases hlisting
    obtain ⟨reply, rfl, rfl⟩ := hran.sent_over hlive
    refine ⟨reply, _, rfl, fun r hr hstatus => ?_⟩
    rw [houtcome hr hstatus]
    rfl
  | _ => cases hlisting

/-- **Only the lines count.**  Some lines without line feeds are given padding of any blanks on both
sides and put together with line ends of either kind.  Then the lines of this text are the given
ones without the blanks at their ends, in order, and its lines that are not blank are those of them
that are not.

So it is with a command that lists entries.  Over a live connection it is sent, and if it ends with
status 0 and such an output, the entries are these lines: they say nothing about the padding and
the line ends. -/
theorem entries_ignore_layout (lines : List String) (hlines : ∀ l ∈ lines, '\n' ∉ l.toList) :
    (∀ output : String, LaidOut (lines.map String.toList) output.toList →
      splitLines output = lines.map trim ∧
      nonEmptyLines output = (lines.filter (!allBlank ·)).map trim) ∧
    (∀ l ∈ lines, Trims l.toList (trim l).toList) ∧
    ∀ {ω : Type} (answer : (c : Call) → ω → c.Reply × ω) (w : ω) (s : Session) (o : Operation)
      (n : Nat) (command : String), s.connection = some n → o.listing? = some command →
      let played := play answer (s.perform o) w
      ∃ (reply : Outcome CommandResult) (rest : Calls),
        played.exchanges = announced command :: ⟨.execute n command, reply⟩ :: rest ∧
        ∀ r, reply = .ok r → r.status = 0 → LaidOut (lines.map String.toList) r.output.toList →
          played.result? =
            some (.ok (.entries ((lines.filter (!allBlank ·)).map trim)), s) := by
  refine ⟨fun output h => ?_, ?_, ?_⟩
  · exact ⟨splitLines_of_laidOut h hlines, nonEmptyLines_of_laidOut h hlines⟩
  · intro l _
    rw [toList_trim]
    exact trimChars_eq_iff.1 rfl
  · intro ω answer w s o n command hlive hlisting played
    have hperformed : Performed s o played.exchanges played.result? :=
      course_perform (course_of_play answer (s.perform o) w)
    obtain ⟨reply, rest, hcalls, hlisted⟩ := hperformed.listed hlive hlisting
    refine ⟨reply, rest, hcalls, fun r hr hstatus h => ?_⟩
    rw [hlisted r hr hstatus, nonEmptyLines_of_laidOut h hlines]

/-- A host on which every command ends well, with the same output. -/
def printing (output : String) : (c : Call) → Unit → c.Reply × Unit := replying (.ok ⟨output, 0⟩)

/-- A line with a carriage return inside and another one at its end, an empty line and a blank one,
laid out with both line ends and other blanks around. -/
theorem entries_ignore_layout_returns :
    let lines := ["a\rb\r", "", "\u3000", " c"]
    let output := "\t a\rb\r\u00a0\r\n\n\u3000\r\r\n  c\u2028"
    let s : Session :=
      { address := "esx01:22", policy := ⟨"root", .password "pw", .any, 30⟩, connection := some 1 }
    (∀ l ∈ lines, '\n' ∉ l.toList) ∧ LaidOut (lines.map String.toList) output.toList ∧
      splitLines output = ["a\rb", "", "", "c"] ∧ nonEmptyLines output = ["a\rb", "c"] ∧
      (play (printing output) (s.perform (.list "/tmp" true)) ()).result? =
        some (.ok (.entries ["a\rb", "c"]), s) := by
  intro lines output s
  have hlines : ∀ l ∈ lines, '\n' ∉ l.toList := by decide
  have houtput : output.toList = ['\t', ' '] ++ ("a\rb\r".toList ++ ['\u00a0']) ++ ['\r', '\n'] ++
      ([] ++ ("".toList ++ []) ++ ['\n'] ++ ([] ++ ("\u3000".toList ++ ['\r']) ++ ['\r', '\n'] ++
        ([' '] ++ (" c".toList ++ ['\u2028'])))) := by decide
  have hlaidOut : LaidOut (lines.map String.toList) output.toList := by
    rw [houtput]
    exact .cons (by decide) (by decide) .returnFeed (.cons (by decide) (by decide) .feed
      (.cons (by decide) (by decide) .returnFeed (.last (by decide) (by decide))))
  have hentries : (lines.filter (!allBlank ·)).map trim = ["a\rb", "c"] := by decide
  obtain ⟨hlaid, -, hlisted⟩ := entries_ignore_layout lines hlines
  obtain ⟨hsplit, hkept⟩ := hlaid output hlaidOut
  obtain ⟨reply, rest, hcalls, hresult⟩ :=
    hlisted (printing output) () s (.list "/tmp" true) 1 _ rfl rfl
  have hreply : reply = .ok ⟨output, 0⟩ := by
    obtain ⟨hexchange, -⟩ := List.cons.inj (List.cons.inj hcalls).2
    exact (eq_of_heq (Exchange.mk.inj hexchange).2).symm
  refine ⟨hlines, hlaidOut, hsplit.trans (by decide), hkept.trans hentries, ?_⟩
  rw [hresult ⟨output, 0⟩ hreply rfl hlaidOut, hentries]

end Session

end RemoteHost.Ssh
