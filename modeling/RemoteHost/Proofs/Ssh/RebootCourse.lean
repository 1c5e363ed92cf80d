/-
RemoteHost/Proofs/Ssh/RebootCourse.lean

The order of events in a reboot, and what it leaves behind.

A reboot over a connection either cannot be started, and then the session is as it was, or it goes
through its stages in order: close the connection, wait out the grace period, wait for the host,
and, only if a probe has found it up, settle and log in again (`reboot_goes_through_stages`).
How the host answers decides which of the three results a reboot has, and whether there is a
connection afterwards.

The arithmetic of the clock is the one thing that can cut a reboot short: it breaks off where the
clock cannot show when to give up, or when to look again (`BreaksOff`).  The second happens with
deadlines that the clock can show, after a probe that takes long enough
(`reboot_breaks_off_after_long_probe`).
-/
import RemoteHost.Proofs.Ssh.SessionRuns

namespace RemoteHost.Ssh

open Dialogue

/-- The last thing that a wait learns is a time after which the clock cannot show when to give up
or, later on, when to look again. -/
def BreaksOff (p : PollPolicy) (w : Calls) : Prop :=
  ∃ (earlier : Calls) (reading : Nat), w = earlier ++ [⟨.now, reading⟩] ∧
    clockRange ≤ reading + if earlier = [] then p.ceilingSecs else p.intervalSecs

section Waiting

variable {address : String} {p : PollPolicy} {w : Calls}

/-- A wait that ends well has found the host up, and a wait that ends badly has not. -/
theorem isFound_iff_of_course {r? : Option (Outcome Nat)}
    (h : Course (waitReachable address p) w r?) :
    (∃ x ∈ w, isFound x) ↔ ∃ probes, r? = some (.ok probes) := by
  obtain ⟨start, w', rfl, ⟨-, rfl, rfl⟩ | ⟨-, readings, e, rfl, -, -, rfl⟩⟩ :=
    course_waitReachable h
  · constructor
    · rintro ⟨x, hx, hfound⟩
      rw [List.mem_singleton.1 hx] at hfound
      cases hfound
    · rintro ⟨probes, hnone⟩
      cases hnone
  · have hfirst : ∀ q : Exchange Call Call.Reply → Prop,
        (∃ x ∈ (⟨.now, start⟩ : Exchange Call Call.Reply) ::
          (rounds address p readings ++ e.calls address p), q x) ↔
        q ⟨.now, start⟩ ∨ ∃ x ∈ rounds address p readings ++ e.calls address p, q x := by
      intro q
      simp only [List.mem_cons, exists_eq_or_imp]
    rw [hfirst, exists_isFound_iff]
    cases e with
    | answered => exact ⟨fun _ => ⟨_, rfl⟩, fun _ => .inr rfl⟩
    | exhausted | late _ | beyond _ =>
      constructor
      · rintro (h | h) <;> cases h
      · rintro ⟨probes, h⟩
        cases h

theorem not_isFound_of_course {r? : Option (Outcome Nat)}
    (h : Course (waitReachable address p) w r?)
    (hr : ∀ probes, r? ≠ some (.ok probes)) : ¬ ∃ x ∈ w, isFound x := by
  rw [isFound_iff_of_course h]
  rintro ⟨probes, hfound⟩
  exact hr probes hfound

/-- A wait that ends badly ends with one failure. -/
theorem eq_unreachable_of_course {e : Failure}
    (h : Course (waitReachable address p) w (some (.error e))) : e = unreachable address p := by
  obtain ⟨start, w', rfl, ⟨-, -, hnone⟩ | ⟨-, readings, e, rfl, -, -, hr⟩⟩ :=
    course_waitReachable h
  · cases hnone
  · cases e with
    | answered => cases hr
    | exhausted | late _ =>
      cases hr
      rfl
    | beyond _ => cases hr

/-- A wait that ends with something else than a look at the clock does not break off. -/
theorem not_breaksOff {earlier : Calls} {isUp : Bool} :
    ¬ BreaksOff p (earlier ++ [probed address p isUp]) := by
  rintro ⟨earlier', reading, hw, -⟩
  obtain ⟨-, hlast⟩ := List.append_inj' hw rfl
  cases hlast

/-- After a first call, a wait breaks off where the clock cannot show the end of a pause. -/
theorem breaksOff_concat_iff {x : Exchange Call Call.Reply} {earlier : Calls} {reading : Nat} :
    BreaksOff p (x :: earlier ++ [⟨.now, reading⟩]) ↔ clockRange ≤ reading + p.intervalSecs := by
  constructor
  · rintro ⟨earlier', reading', hw, hbeyond⟩
    obtain ⟨rfl, hlast⟩ := List.append_inj' hw rfl
    cases hlast
    rwa [if_neg (List.cons_ne_nil x earlier)] at hbeyond
  · intro hbeyond
    refine ⟨x :: earlier, reading, rfl, ?_⟩
    rwa [if_neg (List.cons_ne_nil x earlier)]

/-- A wait breaks off exactly where the clock cannot show a time that it needs. -/
theorem breaksOff_iff_of_course {r? : Option (Outcome Nat)}
    (h : Course (waitReachable address p) w r?) : BreaksOff p w ↔ r? = none := by
  obtain ⟨start, w', rfl, ⟨hbeyond, rfl, rfl⟩ | ⟨-, readings, e, rfl, -, hfits, rfl⟩⟩ :=
    course_waitReachable h
  · exact ⟨fun _ => rfl, fun _ => ⟨[], start, rfl, by rwa [if_pos rfl]⟩⟩
  -- Once the deadline is known, the last reading counts, and there is one in two of the ends.
  · cases e with
    | answered | exhausted =>
      refine iff_of_false ?_ (Option.some_ne_none _)
      rw [WaitEnd.calls, ← List.cons_append]
      exact not_breaksOff
    | late reading =>
      obtain ⟨-, -, hshown⟩ := hfits
      refine iff_of_false ?_ (Option.some_ne_none _)
      rw [WaitEnd.calls, List.append_cons, ← List.cons_append, breaksOff_concat_iff]
      exact Nat.not_le.2 hshown
    | beyond reading =>
      obtain ⟨-, hbeyond⟩ := hfits
      refine iff_of_true ?_ rfl
      rw [WaitEnd.calls, List.append_cons, ← List.cons_append, breaksOff_concat_iff]
      exact hbeyond

end Waiting

namespace Session

variable {ω : Type}

/-- Whatever the outside answers, a reboot over connection `n` that cannot be started does nothing
else and keeps the connection.  Otherwise the connection is closed, whatever comes of that, and the
grace period and the calls `w` of a wait for the host follow.  If a probe in `w` succeeds, there is
a pause and one login, whose outcome is that of the reboot: over the next connection or, if the
login fails in any way, over none.  If no probe succeeds, nothing follows: the host did not come
back in time, and the session is left without a connection.  Where the clock cannot show the times
that the wait needs, no result is left at all. -/
theorem reboot_goes_through_stages (answer : (c : Call) → ω → c.Reply × ω) (w₀ : ω)
    (s : Session) (n : Nat) :
    let played := play answer (s.onConnection n).reboot w₀
    (∃ e : Failure,
      played.exchanges =
        [announced s.rebootCommand, ⟨.start n s.rebootCommand, (.error e : Outcome Unit)⟩] ∧
      played.result? = some (.error ⟨e.kind,
        "'" ++ s.rebootCommand ++ "' on " ++ s.address ++ ": " ++ e.message, e.output⟩,
        s.onConnection n)) ∨
    ∃ (closing : Outcome Unit) (w rest : Calls),
      played.exchanges =
        [announced s.rebootCommand, ⟨.start n s.rebootCommand, (.ok () : Outcome Unit)⟩,
          ⟨.close n, closing⟩, ⟨.sleep s.polling.graceSecs, ()⟩] ++ w ++ rest ∧
      (∃ found?, Course s.waitReachable w found?) ∧
      (((∃ x ∈ w, isFound x) ∧
          ((rest = [⟨.sleep s.polling.settleSecs, ()⟩,
                ⟨.dial s.address s.policy, (.ok () : Outcome Unit)⟩] ∧
              played.result? = some (.ok (), s.onConnection (n + 1))) ∨
            ∃ e : Failure,
              rest = [⟨.sleep s.polling.settleSecs, ()⟩,
                ⟨.dial s.address s.policy, (.error e : Outcome Unit)⟩,
                reported (.warn ("reconnect to " ++ s.address ++ " failed: " ++ e.display))] ∧
              played.result? = some (.error (s.reconnectFailed e), s.disconnected))) ∨
        ((¬ ∃ x ∈ w, isFound x) ∧ rest = [] ∧
          ((¬ BreaksOff s.polling w ∧
              played.result? =
                some (.error (unreachable s.address s.polling), s.disconnected)) ∨
            (BreaksOff s.polling w ∧ played.result? = none)))) := by
  have hcourse := course_reboot (course_of_play answer (s.onConnection n).reboot w₀)
  generalize play answer (s.onConnection n).reboot w₀ = played at hcourse ⊢
  obtain ⟨result?, exchanges, state⟩ := played
  cases hcourse with
  | unconnected hlive => cases hlive
  | unstarted hlive e =>
    cases hlive
    exact .inl ⟨e, rfl, rfl⟩
  | brokenOff hlive closing hwait =>
    cases hlive
    have hunfound := not_isFound_of_course hwait nofun
    have hbreaks := (breaksOff_iff_of_course hwait).2 rfl
    exact .inr ⟨closing, _, [], (List.append_nil _).symm, ⟨_, hwait⟩,
      .inr ⟨hunfound, rfl, .inr ⟨hbreaks, rfl⟩⟩⟩
  | timedOut hlive closing hwait =>
    cases hlive
    obtain rfl := eq_unreachable_of_course hwait
    have hunfound := not_isFound_of_course hwait nofun
    have hgoesOn := mt (breaksOff_iff_of_course hwait).1 (Option.some_ne_none _)
    exact .inr ⟨closing, _, [], (List.append_nil _).symm, ⟨_, hwait⟩,
      .inr ⟨hunfound, rfl, .inl ⟨hgoesOn, rfl⟩⟩⟩
  | refused hlive closing hwait e =>
    cases hlive
    have hfound := (isFound_iff_of_course hwait).2 ⟨_, rfl⟩
    exact .inr ⟨closing, _, _, rfl, ⟨_, hwait⟩, .inl ⟨hfound, .inr ⟨e, rfl, rfl⟩⟩⟩
  | back hlive closing hwait =>
    cases hlive
    have hfound := (isFound_iff_of_course hwait).2 ⟨_, rfl⟩
    exact .inr ⟨closing, _, _, rfl, ⟨_, hwait⟩, .inl ⟨hfound, .inl ⟨rfl, rfl⟩⟩⟩

/-! ### A probe that takes long -/

/-- An outside where a failed probe takes some seconds, and the rest goes well; its state is what
the clock shows. -/
def slowProbes (cost : Nat) : (c : Call) → Nat → c.Reply × Nat
  | .dial _ _, clock => (.ok (), clock)
  | .execute _ _, clock => (.ok ⟨"", 0⟩, clock)
  | .start _ _, clock => (.ok (), clock)
  | .sendFile _ _ _ _, clock => (.ok (), clock)
  | .close _, clock => (.ok (), clock)
  | .probe _ _, clock => (false, clock + cost)
  | .sleep secs, clock => ((), clock + secs)
  | .now, clock => (clock, clock)
  | .record _, clock => ((), clock)
  | .report _, clock => ((), clock)

/-- A session that looks for its host twice, with a long pause between. -/
def patient : Session where
  address := "esx01:22"
  policy := ⟨"root", .password "pw", .any, 30⟩
  polling := { intervalSecs := 1 <<< 61, ceilingSecs := 1 <<< 62 }
  connection := some 1

/-- The clock can show the deadline, and no probe succeeds, but after the first one, which takes
very long, the clock cannot show the end of the pause: the reboot leaves no result. -/
theorem reboot_breaks_off_after_long_probe :
    let played := play (slowProbes (7 <<< 60)) patient.reboot 0
    played.exchanges = patient.goingDown 1 (.ok ()) ++
      [⟨.now, (10 : Nat)⟩, probed "esx01:22" patient.polling false,
        ⟨.now, (10 + 7 <<< 60 : Nat)⟩] ∧
    10 + patient.polling.ceilingSecs < clockRange ∧
    played.result? = none := by
  refine ⟨rfl, by decide, rfl⟩

end Session

end RemoteHost.Ssh
