/-
RemoteHost/Proofs/Ssh/CommandFailure.lean

What is left of a command that fails.

The reply to a command passes through the layers above it: the command is named, an extraction says
what was extracted, a request to an ESXi host reads the output.  None of them keeps a failure back or
changes anything about it but for words in front of its message (`Performed.awaited`), so the output
of the command and the kind of the failure arrive where they are shown.
-/
import RemoteHost.Proofs.Diagnostic
import RemoteHost.Proofs.Ssh.AnnouncedCommands

namespace RemoteHost.Ssh.Session

open Dialogue Text

variable {s : Session} {t : Calls} {n : Nat} {command : String} {o : Operation}

/-! ### Failures of a command -/

/-- The failure of a command that ended with a status other than 0. -/
def exited (s : Session) (command : String) (r : CommandResult) : Failure where
  kind := .commandFailed
  message := s.naming command ++ " exited with status " ++ toString r.status
  output := some r.output

theorem outcomeOf_of_status {r : CommandResult} (h : r.status ≠ 0) :
    s.outcomeOf command (.ok r) = .error (s.exited command r) := if_neg h

/-- The command and the address of the host stand in the message. -/
theorem contains_exited (s : Session) (command : String) (r : CommandResult) :
    contains (s.exited command r).message command ∧
      contains (s.exited command r).message s.address := by
  have hcommand : (s.exited command r).message = "'" ++ command ++
      ("' on " ++ s.address ++ " exited with status " ++ toString r.status) := by
    simp only [exited, naming, String.append_assoc]
  have haddress : (s.exited command r).message = ("'" ++ command ++ "' on ") ++ s.address ++
      (" exited with status " ++ toString r.status) := by
    simp only [exited, naming, String.append_assoc]
  constructor
  · rw [hcommand]
    exact contains_between _ _ _
  · rw [haddress]
    exact contains_between _ _ _

/-! ### Layers above a command -/

/-- The words that an operation puts in front of a failure of its command. -/
def Operation.words : Operation → List String
  | .untar archive directory => ["extracting " ++ archive ++ " into " ++ directory]
  | _ => []

/-- The command that an operation runs to its end, if there is one.  A reboot only starts its
command. -/
def Operation.awaited? (s : Session) : Operation → Option String
  | .reboot => none
  | o => o.command? s

/-- An operation that runs a command to its end takes a course of that command, sends nothing more,
and has the failure of the command for its own, behind its words. -/
theorem Performed.awaited {r? : Option (Outcome Result × Session)} (h : Performed s o t r?)
    (hcommand : o.awaited? s = some command) :
    ∃ t₁ t₂ r, t = t₁ ++ t₂ ∧ Ran s command t₁ r ∧ (∀ x ∈ t₂, x.call.command? = none) ∧
      ∀ e, r = .error e → r? = some (.error (e.within o.words), s) := by
  have hnone : ∀ x ∈ ([] : Calls), x.call.command? = none := fun x hx => absurd hx List.not_mem_nil
  cases h with
  | run h | runIn h | untar h =>
    cases hcommand
    refine ⟨_, [], _, (List.append_nil _).symm, h, hnone, ?_⟩
    rintro e rfl
    rfl
  | list h =>
    cases hcommand
    refine ⟨_, _, _, rfl, h, no_command_of_listingLog, ?_⟩
    rintro e rfl
    rfl
  | upload | waitReachable | reboot => cases hcommand
  | @unasked request e hasked =>
    replace hcommand : request.command.toOption = some command := hcommand
    rw [hasked] at hcommand
    cases hcommand
  | @asked request command' t r hasked h =>
    replace hcommand : request.command.toOption = some command := hcommand
    rw [hasked] at hcommand
    cases hcommand
    refine ⟨_, _, _, rfl, h, no_command_of_reported, ?_⟩
    rintro e rfl
    rfl

/-- Over a live connection the command is sent, and the reply to it decides. -/
theorem Performed.executed {r? : Option (Outcome Result × Session)} (h : Performed s o t r?)
    (hlive : s.connection = some n) (hcommand : o.awaited? s = some command) :
    ∃ (reply : Outcome CommandResult) (rest : Calls),
      t = announced command :: ⟨.execute n command, reply⟩ :: rest ∧
      (∀ x ∈ rest, x.call.command? = none) ∧
      ∀ e, s.outcomeOf command reply = .error e → r? = some (.error (e.within o.words), s) := by
  obtain ⟨t₁, t₂, r, rfl, hran, hrest, hfails⟩ := h.awaited hcommand
  obtain ⟨reply, rfl, rfl⟩ := hran.sent_over hlive
  exact ⟨reply, t₂, rfl, hrest, hfails⟩

/-- **No failure of a command is lost.**  Whatever the outside answers, an operation that runs a
command to its end sends this command over the live connection, and no other one.  If the command
ends with a status other than 0, the operation fails with the output of the command, to the letter,
and a message that names the command and the host.  If there is no result of the command, the
operation fails as the command did, with words in front of the message.

Any failure of an operation is shown in either form with its message, and with the output behind it
exactly if anything is left of that when it is trimmed. -/
theorem command_failure_arrives {ω : Type} (answer : (c : Call) → ω → c.Reply × ω) (w : ω)
    (s : Session) (o : Operation) :
    let played := play answer (s.perform o) w
    (∀ n command, s.connection = some n → o.awaited? s = some command →
      ∃ (reply : Outcome CommandResult) (rest : Calls),
        played.exchanges = announced command :: ⟨.execute n command, reply⟩ :: rest ∧
        (∀ x ∈ rest, x.call.command? = none) ∧
        (∀ r, reply = .ok r → r.status ≠ 0 →
          ∃ e, played.result? = some (.error e, s) ∧ e.kind = .commandFailed ∧
            e.output = some r.output ∧ contains e.message command ∧
            contains e.message s.address) ∧
        ∀ f, reply = .error f →
          ∃ e, played.result? = some (.error e, s) ∧ e.kind = f.kind ∧ e.output = f.output ∧
            e.message =
              String.join ((o.words ++ [s.naming command]).map (· ++ ": ")) ++ f.message) ∧
    ∀ e s', played.result? = some (.error e, s') → e.Presented := by
  intro played
  refine ⟨fun n command hlive hcommand => ?_, fun e s' _ => e.presented⟩
  have hperformed : Performed s o played.exchanges played.result? :=
    course_perform (course_of_play answer (s.perform o) w)
  obtain ⟨reply, rest, hcalls, hrest, hfails⟩ := hperformed.executed hlive hcommand
  refine ⟨reply, rest, hcalls, hrest, ?_, ?_⟩
  · rintro r rfl hstatus
    obtain ⟨hnamed, haddress⟩ := contains_exited s command r
    exact ⟨_, hfails _ (outcomeOf_of_status hstatus), Failure.within_kind _ _,
      Failure.within_output _ _, Failure.contains_within_message hnamed _,
      Failure.contains_within_message haddress _⟩
  · rintro f rfl
    refine ⟨f.within (o.words ++ [s.naming command]), ?_, Failure.within_kind _ _,
      Failure.within_output _ _, Failure.within_message _ _⟩
    rw [Failure.within_append]
    exact hfails _ rfl

/-- An archive that cannot be unpacked.  On a host without the program, what its shell had printed
is kept with the line end.  Over a channel that is closed, the words of the extraction and of the
command stand in front of those of the failure. -/
theorem command_failure_arrives_extraction :
    let s : Session :=
      { address := "esx01:22", policy := ⟨"root", .password "pw", .any, 30⟩, connection := some 1 }
    let o : Operation := .untar "/tmp/new files.tar" "/opt"
    let command := "cd /opt && tar -xvf '/tmp/new files.tar'"
    let message := "extracting /tmp/new files.tar into /opt: '" ++ command ++ "' on esx01:22"
    let failure : Failure := { kind := .sessionFailed, message := "channel closed" }
    o.awaited? s = some command ∧
      (∃ e, (play (replying (.ok ⟨"tar: not found\n", 127⟩)) (s.perform o) ()).result? =
          some (.error e, s) ∧ e.kind = .commandFailed ∧ e.output = some "tar: not found\n" ∧
        contains e.message command ∧ contains e.message "esx01:22" ∧ e.Presented) ∧
      ∃ e, (play (replying (.error failure)) (s.perform o) ()).result? = some (.error e, s) ∧
        e.kind = .sessionFailed ∧ e.output = none ∧ e.message = message ++ ": channel closed" ∧
        e.Presented := by
  intro s o command message failure
  have hcommand : o.awaited? s = some command := by decide
  -- the reply in the play is the one of the host, whatever else is sent
  have hreply : ∀ {reply r : Outcome CommandResult} {rest : Calls},
      (play (replying r) (s.perform o) ()).exchanges =
        announced command :: ⟨.execute 1 command, reply⟩ :: rest → reply = r := by
    intro reply r rest hcalls
    obtain ⟨hexchange, -⟩ := List.cons.inj (List.cons.inj hcalls).2
    exact (eq_of_heq (Exchange.mk.inj hexchange).2).symm
  refine ⟨hcommand, ?_, ?_⟩
  · obtain ⟨hfails, hpresented⟩ :=
      command_failure_arrives (replying (.ok ⟨"tar: not found\n", 127⟩)) () s o
    obtain ⟨reply, rest, hcalls, -, hstatus, -⟩ := hfails 1 command rfl hcommand
    obtain ⟨e, hresult, hkind, houtput, hnamed, haddress⟩ :=
      hstatus ⟨"tar: not found\n", 127⟩ (hreply hcalls) (by decide)
    exact ⟨e, hresult, hkind, houtput, hnamed, haddress, hpresented e s hresult⟩
  · obtain ⟨hfails, hpresented⟩ := command_failure_arrives (replying (.error failure)) () s o
    obtain ⟨reply, rest, hcalls, -, -, hfailure⟩ := hfails 1 command rfl hcommand
    obtain ⟨e, hresult, hkind, houtput, hmessage⟩ := hfailure failure (hreply hcalls)
    exact ⟨e, hresult, hkind, houtput, hmessage.trans (by decide), hpresented e s hresult⟩

end RemoteHost.Ssh.Session
