/-
RemoteHost/Proofs/Ssh/ConnectionUse.lean

What one operation of a session does with its connection.

An operation other than a reboot may send something over the live connection and leaves it open
(`Performed.steady`).  A reboot closes it and logs in again, if the host comes back
(`Rebooted.orderly`).  So every operation keeps to the line of connections, and leaves the session
with the connection that the line shows (`Performed.orderly`).

A session loses its host by a reboot that fails after its command was started, and by nothing else
(`Performed.connection_eq_none_iff`); without a connection an operation asks nothing of the host
any more (`Performed.unconnected`).
-/
import RemoteHost.Proofs.Ssh.ConnectionLine
import RemoteHost.Proofs.Ssh.SessionRuns

namespace RemoteHost.Ssh.Session

open Dialogue

variable {s s' : Session} {t : Calls} {l : Line}

/-! ### What an operation asks of a connection -/

theorem quiet_of_mem_rounds {address : String} {p : PollPolicy} {readings : List Nat}
    {x : Exchange Call Call.Reply} (h : x ∈ rounds address p readings) : x.call.isQuiet := by
  rcases eq_of_mem_rounds h with rfl | ⟨reading, -, rfl⟩ | rfl <;> rfl

theorem quiet_of_mem_calls {address : String} {p : PollPolicy} {e : WaitEnd}
    {x : Exchange Call Call.Reply} (h : x ∈ e.calls address p) : x.call.isQuiet := by
  cases e with
  | answered | exhausted =>
    rw [List.mem_singleton.1 h]
    rfl
  | late reading | beyond reading =>
    simp only [WaitEnd.calls, List.mem_cons, List.not_mem_nil, or_false] at h
    rcases h with rfl | rfl <;> rfl

/-- A wait for the host goes over no connection. -/
theorem quiet_of_waitReachable {found? : Option (Outcome Nat)}
    (h : Course s.waitReachable t found?) : ∀ x ∈ t, x.call.isQuiet := by
  obtain ⟨start, t', rfl, ⟨-, rfl, -⟩ | ⟨-, readings, e, rfl, -⟩⟩ := course_waitReachable h
  · intro x hx
    rw [List.mem_singleton.1 hx]
    rfl
  · intro x hx
    rcases List.mem_cons.1 hx with rfl | hx
    · rfl
    · rcases List.mem_append.1 hx with hx | hx
      · exact quiet_of_mem_rounds hx
      · exact quiet_of_mem_calls hx

theorem Ran.steady {command : String} {r : Outcome String} (h : Ran s command t r) :
    Line.Steady s.connection t := by
  cases h with
  | unconnected hlive => exact Line.steady_quiet rfl Line.steady_nil
  | sent hlive reply =>
    rw [hlive]
    exact Line.steady_quiet rfl (Line.steady_live rfl rfl Line.steady_nil)

theorem steady_listingLog {live : Option Nat} {logOutput : Bool} {r : Outcome String} :
    Line.Steady live (listingLog logOutput r) := by
  cases r with
  | error e => exact Line.steady_nil
  | ok output =>
    cases logOutput with
    | false => exact Line.steady_nil
    | true => exact Line.steady_quiet rfl Line.steady_nil

theorem steady_modeLog {live : Option Nat} {mode destination : String} :
    Line.Steady live (modeLog mode destination) := by
  unfold modeLog
  split
  · exact Line.steady_quiet rfl Line.steady_nil
  · exact Line.steady_nil

theorem steady_reported {live : Option Nat} {records : List LogRecord} :
    Line.Steady live (records.map reported) := by
  apply Line.steady_of_quiet
  intro x hx
  obtain ⟨r, -, rfl⟩ := List.mem_map.1 hx
  rfl

theorem Uploaded.steady {payload destination mode : String} {r : Outcome Unit}
    (h : Uploaded s payload destination mode t r) : Line.Steady s.connection t := by
  cases h with
  | undecodable hdata => exact Line.steady_nil
  | unreadableMode hdata hmode => exact steady_modeLog
  | unconnected hdata hmode hlive => exact steady_modeLog
  | sent hdata hmode hlive reply =>
    rw [hlive]
    exact steady_modeLog.append (Line.steady_live rfl rfl Line.steady_nil)

/-- An operation other than a reboot leaves its connection open and the session as it is. -/
theorem Performed.steady {o : Operation} {r? : Option (Outcome Result × Session)}
    (h : Performed s o t r?) (ho : o ≠ .reboot) :
    Line.Steady s.connection t ∧ ∀ r s', r? = some (r, s') → s' = s := by
  have hkeeps : ∀ {r₀ : Outcome Result} r s', some (r₀, s) = some (r, s') → s' = s := by
    intro r₀ r s' heq
    cases heq
    rfl
  cases h with
  | run h => exact ⟨h.steady, hkeeps⟩
  | runIn h => exact ⟨h.steady, hkeeps⟩
  | list h => exact ⟨h.steady.append steady_listingLog, hkeeps⟩
  | untar h => exact ⟨h.steady, hkeeps⟩
  | upload h => exact ⟨h.steady, hkeeps⟩
  | @waitReachable w found? h =>
    refine ⟨Line.steady_of_quiet (quiet_of_waitReachable h), ?_⟩
    cases found? with
    | none => exact fun r s' heq => nomatch heq
    | some found => exact hkeeps
  | reboot h => exact absurd rfl ho
  | unasked hcommand => exact ⟨Line.steady_nil, hkeeps⟩
  | asked hcommand h => exact ⟨h.steady.append steady_reported, hkeeps⟩

/-! ### What a reboot does to the line of connections -/

/-- Going down closes the open connection, and waiting leaves it at that. -/
theorem orderly_goingDown {n : Nat} {found? : Option (Outcome Nat)} {w : Calls}
    (hlive : l.live = some n) (closing : Outcome Unit) (hwait : Course s.waitReachable w found?) :
    l.Orderly s.address s.policy (s.goingDown n closing ++ w) ∧
      l.afterAll (s.goingDown n closing ++ w) = ⟨l.logins, false⟩ := by
  have hdown : l.Orderly s.address s.policy (s.goingDown n closing) :=
    ⟨Line.admits_quiet rfl, Line.admits_live hlive rfl, Line.admits_live hlive rfl,
      Line.admits_quiet rfl, trivial⟩
  have hafter : l.afterAll (s.goingDown n closing) = ⟨l.logins, false⟩ := rfl
  have hwaits : Line.Orderly ⟨l.logins, false⟩ s.address s.policy w ∧
      Line.afterAll ⟨l.logins, false⟩ w = ⟨l.logins, false⟩ :=
    Line.orderly_of_steady (Line.steady_of_quiet (quiet_of_waitReachable hwait))
  rw [Line.orderly_append, Line.afterAll_append, hafter]
  exact ⟨⟨hdown, hwaits.1⟩, hwaits.2⟩

/-- A reboot changes nothing of a session but its connection. -/
theorem Rebooted.session_eq {r : Outcome Unit} (h : Rebooted s t (some (r, s'))) :
    s' = { s with connection := s'.connection } := by
  cases h <;> rfl

/-- A reboot is orderly and leaves the connection that the line of connections shows. -/
theorem Rebooted.orderly {r? : Option (Outcome Unit × Session)} (h : Rebooted s t r?)
    (hl : s.connection = l.live) :
    l.Orderly s.address s.policy t ∧
      ∀ r s', r? = some (r, s') → s'.connection = (l.afterAll t).live := by
  cases h with
  | unconnected hlive =>
    refine ⟨trivial, ?_⟩
    rintro r s' ⟨⟩
    exact hl
  | unstarted hlive e =>
    refine ⟨⟨Line.admits_quiet rfl, Line.admits_live (hl.symm.trans hlive) rfl, trivial⟩, ?_⟩
    rintro r s' ⟨⟩
    exact hl
  | brokenOff hlive closing hwait =>
    obtain ⟨hdown, -⟩ := orderly_goingDown (hl.symm.trans hlive) closing hwait
    exact ⟨hdown, fun r s' hr => nomatch hr⟩
  | timedOut hlive closing hwait =>
    obtain ⟨hdown, hafter⟩ := orderly_goingDown (hl.symm.trans hlive) closing hwait
    refine ⟨hdown, ?_⟩
    rintro r s' ⟨⟩
    rw [hafter]
    rfl
  | refused hlive closing hwait e =>
    obtain ⟨hdown, hafter⟩ := orderly_goingDown (hl.symm.trans hlive) closing hwait
    rw [Line.orderly_append, hafter]
    refine ⟨⟨hdown, Line.admits_quiet rfl, Line.admits_dial rfl, Line.admits_quiet rfl, trivial⟩,
      ?_⟩
    rintro r s' ⟨⟩
    rw [Line.afterAll_append, hafter]
    rfl
  | back hlive closing hwait =>
    -- The connection that went down was the latest, so the new one has the number after it.
    obtain ⟨-, hnumber⟩ := Line.live_eq_some (hl.symm.trans hlive)
    obtain ⟨hdown, hafter⟩ := orderly_goingDown (hl.symm.trans hlive) closing hwait
    rw [Line.orderly_append, hafter]
    refine ⟨⟨hdown, Line.admits_quiet rfl, Line.admits_dial rfl, trivial⟩, ?_⟩
    rintro r s' ⟨⟩
    rw [Line.afterAll_append, hafter, hnumber]
    rfl

/-- An operation changes nothing of a session but its connection. -/
theorem Performed.session_eq {o : Operation} {r : Outcome Result}
    (h : Performed s o t (some (r, s'))) : s' = { s with connection := s'.connection } := by
  by_cases ho : o = .reboot
  · subst ho
    obtain ⟨r₀, hrebooted, -⟩ := h.rebooted_some
    exact hrebooted.session_eq
  · obtain rfl := (h.steady ho).2 r s' rfl
    rfl

/-- An operation is orderly and leaves the connection that the line of connections shows. -/
theorem Performed.orderly {o : Operation} {r? : Option (Outcome Result × Session)}
    (h : Performed s o t r?) (hl : s.connection = l.live) :
    l.Orderly s.address s.policy t ∧
      ∀ r s', r? = some (r, s') → s'.connection = (l.afterAll t).live := by
  by_cases ho : o = .reboot
  · subst ho
    obtain ⟨r₀?, hrebooted, -⟩ := h.rebooted
    refine ⟨(hrebooted.orderly hl).1, ?_⟩
    rintro r s' rfl
    obtain ⟨r₀, hrebooted, -⟩ := h.rebooted_some
    exact (hrebooted.orderly hl).2 r₀ s' rfl
  · obtain ⟨hsteady, hkeeps⟩ := h.steady ho
    rw [hl] at hsteady
    obtain ⟨horderly, hafter⟩ := Line.orderly_of_steady hsteady
    refine ⟨horderly, fun r s' hr => ?_⟩
    rw [hkeeps r s' hr, hafter]
    exact hl

/-! ### Losing the host -/

/-- A command was started over a connection. -/
def Started (t : Calls) : Prop :=
  ∃ n command, (⟨.start n command, (.ok () : Outcome Unit)⟩ : Exchange Call Call.Reply) ∈ t

theorem started_goingDown {n : Nat} {closing : Outcome Unit} {w : Calls} :
    Started (s.goingDown n closing ++ w) :=
  ⟨n, s.rebootCommand, List.mem_append_left _ (List.mem_cons_of_mem _ List.mem_cons_self)⟩

/-- A reboot leaves no connection where there was none, or where it fails once it has begun. -/
theorem Rebooted.connection_eq_none_iff {r : Outcome Unit} (h : Rebooted s t (some (r, s'))) :
    s'.connection = none ↔ s.connection = none ∨ (Started t ∧ ∃ e, r = .error e) := by
  generalize hr : some (r, s') = r? at h
  cases h with
  | unconnected hlive =>
    cases hr
    exact (or_iff_left_of_imp fun _ => hlive).symm
  | unstarted hlive e =>
    cases hr
    refine (or_iff_left ?_).symm
    -- The one command that was to be started is the one that failed to.
    rintro ⟨⟨n, command, hstart⟩, -⟩
    simp only [List.mem_cons, List.not_mem_nil, or_false] at hstart
    rcases hstart with hstart | hstart <;> cases hstart
  | brokenOff hlive closing hwait => cases hr
  | timedOut hlive closing hwait =>
    cases hr
    exact iff_of_true rfl (.inr ⟨started_goingDown, _, rfl⟩)
  | refused hlive closing hwait e =>
    cases hr
    refine iff_of_true rfl (.inr ⟨?_, _, rfl⟩)
    rw [List.append_assoc]
    exact started_goingDown
  | back hlive closing hwait =>
    cases hr
    rw [hlive]
    refine iff_of_false nofun ?_
    rintro (hnone | ⟨-, e, herror⟩)
    · cases hnone
    · cases herror

/-- The operation is a reboot that fails after its command was started. -/
def LosesHost (o : Operation) (t : Calls) (r : Outcome Result) : Prop :=
  o = .reboot ∧ Started t ∧ ∃ e, r = .error e

/-- An operation leaves no connection where there was none, or where it loses the host. -/
theorem Performed.connection_eq_none_iff {o : Operation} {r : Outcome Result}
    (h : Performed s o t (some (r, s'))) :
    s'.connection = none ↔ s.connection = none ∨ LosesHost o t r := by
  by_cases ho : o = .reboot
  · subst ho
    obtain ⟨r₀, hrebooted, rfl⟩ := h.rebooted_some
    rw [hrebooted.connection_eq_none_iff]
    refine or_congr_right ⟨?_, ?_⟩
    · rintro ⟨hstarted, e, rfl⟩
      exact ⟨rfl, hstarted, e, rfl⟩
    · rintro ⟨-, hstarted, e, herror⟩
      cases r₀ with
      | ok u => cases herror
      | error e₀ => exact ⟨hstarted, e₀, rfl⟩
  · obtain ⟨-, hkeeps⟩ := h.steady ho
    obtain rfl := hkeeps r s' rfl
    refine (or_iff_left ?_).symm
    rintro ⟨hreboot, -⟩
    exact ho hreboot

/-- The operation needs a connection, and nothing else keeps it from the host. -/
def Operation.reachesHost : Operation → Bool
  | .run _ | .runIn _ _ | .list _ _ | .untar _ _ | .reboot => true
  | .upload payload destination mode =>
    (payloadBytes payload destination).isOk && (FileMode.parse (modeUsed mode)).isOk
  | .esxi request => request.command.isOk
  | .waitReachable => false

/-- Without a connection a reboot does nothing. -/
theorem Rebooted.unconnected_eq {r? : Option (Outcome Unit × Session)} (h : Rebooted s t r?)
    (hlive : s.connection = none) : t = [] ∧ r? = some (.error s.notConnected, s) := by
  cases h with
  | unconnected _ => exact ⟨rfl, rfl⟩
  | unstarted hlive' | brokenOff hlive' | timedOut hlive' | refused hlive' | back hlive' =>
    exact nomatch hlive.symm.trans hlive'

/-- Without a connection an upload with a payload and a mode in order fails for want of it. -/
theorem Uploaded.eq_notConnected {payload destination mode : String} {r : Outcome Unit}
    (h : Uploaded s payload destination mode t r) (hlive : s.connection = none)
    (hdata : (payloadBytes payload destination).isOk)
    (hmode : (FileMode.parse (modeUsed mode)).isOk) : r = .error s.notConnected := by
  cases h with
  | undecodable hdata' =>
    rw [hdata'] at hdata
    cases hdata
  | unreadableMode _ hmode' =>
    rw [hmode'] at hmode
    cases hmode
  | unconnected _ _ _ => rfl
  | sent _ _ hlive' _ => exact nomatch hlive.symm.trans hlive'

/-- Without a connection an operation asks nothing of the host, and one that needs a connection
fails for want of it. -/
theorem Performed.unconnected {o : Operation} {r? : Option (Outcome Result × Session)}
    (h : Performed s o t r?) (hlive : s.connection = none) :
    (∀ x ∈ t, x.call.isQuiet) ∧
      (o.reachesHost → ∃ e, r? = some (.error e, s) ∧ e.kind = .notConnected) := by
  constructor
  · by_cases ho : o = .reboot
    · subst ho
      obtain ⟨r₀?, hrebooted, -⟩ := h.rebooted
      obtain ⟨rfl, -⟩ := hrebooted.unconnected_eq hlive
      exact fun x hx => absurd hx List.not_mem_nil
    · obtain ⟨hsteady, -⟩ := h.steady ho
      rw [hlive] at hsteady
      exact hsteady.quiet
  · intro hreaches
    cases h with
    | run h | runIn h | list h | untar h | asked _ h =>
      obtain rfl := h.eq_notConnected hlive
      exact ⟨_, rfl, rfl⟩
    | upload h =>
      obtain ⟨hdata, hmode⟩ := Bool.and_eq_true_iff.1 hreaches
      obtain rfl := h.eq_notConnected hlive hdata hmode
      exact ⟨_, rfl, rfl⟩
    | waitReachable h => cases hreaches
    | reboot h =>
      obtain ⟨-, rfl⟩ := h.unconnected_eq hlive
      exact ⟨_, rfl, rfl⟩
    | @unasked request e hcommand =>
      have hfails : request.command.isOk := hreaches
      rw [hcommand] at hfails
      cases hfails

/-- Only a wait for the host can break off, and only where the clock cannot show the time a ceiling
after a reading. -/
theorem Performed.beyond {o : Operation} (h : Performed s o t none) :
    ∃ reading : Nat, (⟨.now, reading⟩ : Exchange Call Call.Reply) ∈ t ∧
      clockRange ≤ reading + s.polling.ceilingSecs := by
  generalize hr : none = r? at h
  cases h with
  | @waitReachable w found? h =>
    obtain rfl := Option.map_eq_none_iff.1 hr.symm
    exact beyond_of_course_none h
  | @reboot t r? h =>
    obtain rfl := Option.map_eq_none_iff.1 hr.symm
    cases h with
    | brokenOff _ _ hwait =>
      obtain ⟨reading, hmem, hbeyond⟩ := beyond_of_course_none hwait
      exact ⟨reading, List.mem_append_right _ hmem, hbeyond⟩
  | run h | runIn h | list h | untar h | upload h | unasked _ | asked _ h => cases hr

end RemoteHost.Ssh.Session
