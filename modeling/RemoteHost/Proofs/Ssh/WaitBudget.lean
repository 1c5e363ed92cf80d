/-
RemoteHost/Proofs/Ssh/WaitBudget.lean

How much of its time a wait for a host uses.

Of the two rules that end a wait, the number of probes is found by dividing the ceiling by the
interval, whatever the probes cost.  Where the division has a remainder the probes that may be made
do not fill the ceiling: after the last of them one more pause would still end before the deadline,
unless the probes themselves have used up the remainder (`gives_up_early_iff`).  A host that would
answer the next probe is given up on then (`host_given_up_with_time_left`).
-/
import RemoteHost.Proofs.Ssh.WaitTiming

namespace RemoteHost.Ssh

open Dialogue

variable {address : String} {p : PollPolicy} {q : Prober}

/-- After all the probes that may be made, one more pause ends before the ceiling exactly if the
probes have not used up what the division leaves. -/
theorem attempts_mul_lt_iff {spent : Nat} (hinterval : 1 ≤ p.intervalSecs) :
    spent + p.attempts * p.intervalSecs < p.ceilingSecs ↔
      p.intervalSecs ≤ p.ceilingSecs ∧ spent < p.ceilingSecs % p.intervalSecs := by
  unfold PollPolicy.attempts
  rw [if_neg (Nat.ne_of_gt hinterval)]
  rcases Nat.lt_or_ge p.ceilingSecs p.intervalSecs with hlong | hshort
  · -- There is time for one probe only, and not for a pause.
    rw [Nat.div_eq_of_lt hlong, Nat.max_eq_right (Nat.zero_le 1), Nat.one_mul]
    omega
  · have hpos : 1 ≤ p.ceilingSecs / p.intervalSecs := Nat.div_pos hshort hinterval
    have hdivision : p.ceilingSecs / p.intervalSecs * p.intervalSecs +
        p.ceilingSecs % p.intervalSecs = p.ceilingSecs := by
      rw [Nat.mul_comm]
      exact Nat.div_add_mod _ _
    rw [Nat.max_eq_left hpos]
    omega

/-- The end of the next pause is no later than the end of a pause after all the probes that may be
made. -/
theorem next_pause_le {deadline made : Nat} {e : WaitEnd}
    (hfits : e.Fits p deadline p.attempts made) :
    q.spent (made + 1) + (made + 1) * p.intervalSecs ≤
      q.spent p.attempts + p.attempts * p.intervalSecs :=
  Nat.add_le_add (Prober.spent_mono hfits.le_attempts)
    (Nat.mul_le_mul_right _ hfits.le_attempts)

/-- The probes of a wait have all failed exactly if it does not end with an answer. -/
theorem all_failed_iff {start : Nat} {readings : List Nat} {e : WaitEnd}
    (h : Answered q.answer ⟨start, 0⟩ (rounds address p readings ++ e.calls address p)) :
    (∀ k < readings.length + 1, q.isUp k = false) ↔ e.isAnswered = false := by
  have hfound := Prober.found_eq h
  constructor
  · intro hall
    have hlast : e.isAnswered ∈ (List.range (readings.length + 1)).map q.isUp := by
      rw [← hfound]
      exact List.mem_append_right _ (List.mem_singleton_self _)
    obtain ⟨k, hk, hup⟩ := List.mem_map.1 hlast
    rw [← hup]
    exact hall k (List.mem_range.1 hk)
  · intro hdown k hk
    have hmem : q.isUp k ∈ List.replicate readings.length false ++ [e.isAnswered] := by
      rw [hfound]
      exact List.mem_map_of_mem (List.mem_range.2 hk)
    rcases List.mem_append.1 hmem with hrounds | hend
    · exact (List.mem_replicate.1 hrounds).2
    · rw [List.mem_singleton.1 hend, hdown]

/-- **Giving up with time left.**  The clock can show the deadline, and the interval is a second at
least.  A wait gives up although one more pause would end before the deadline exactly if all the
probes that it may make fail, the interval fits into the ceiling, and the probes take less time
together than the division of the ceiling by the interval leaves over. -/
theorem gives_up_early_iff (address : String) (p : PollPolicy) (q : Prober) (start : Nat)
    (hinterval : 1 ≤ p.intervalSecs) (hstart : start + p.ceilingSecs < clockRange) :
    let played := play q.answer (waitReachable address p) ⟨start, 0⟩
    (played.result? = some (.error (unreachable address p)) ∧
        played.state.clock + p.intervalSecs < start + p.ceilingSecs) ↔
      (∀ k < p.attempts, q.isUp k = false) ∧ p.intervalSecs ≤ p.ceilingSecs ∧
        q.spent p.attempts < p.ceilingSecs % p.intervalSecs := by
  intro played
  obtain ⟨start', t, hexchanges, hrest⟩ := course_waitReachable
    (course_of_play q.answer (waitReachable address p) ⟨start, 0⟩)
  obtain ⟨hanswered, hstate⟩ := answered_play q.answer (waitReachable address p) ⟨start, 0⟩
  rw [hexchanges] at hanswered hstate
  obtain rfl : start' = start := hanswered.1
  rcases hrest with ⟨hbeyond, -, -⟩ | ⟨-, readings, e, rfl, -, hfits, hresult⟩
  · exact absurd hstart (Nat.not_lt.2 hbeyond)
  have hresult : played.result? = (e.result readings.length).map (waitOutcome address p) := hresult
  have hend : played.state.clock = (after q.answer ⟨start', 0⟩
      (rounds address p readings ++ e.calls address p)).clock := congrArg Watch.clock hstate
  have hanswered : Answered q.answer ⟨start', 0⟩
      (rounds address p readings ++ e.calls address p) := hanswered.2
  have hreading : ∀ reading, e.reading? = some reading →
      start' + q.spent (readings.length + 1) + readings.length * p.intervalSecs = reading := by
    intro reading hr
    rw [← clock_of_reading? hr hanswered, clock_of_wait]
  have hfailed := all_failed_iff hanswered
  have hnext := next_pause_le (q := q) hfits
  rw [Nat.succ_mul] at hnext
  rw [← attempts_mul_lt_iff hinterval, hresult, hend, clock_of_wait]
  cases e with
  | answered =>
    apply iff_of_false
    · rintro ⟨h, -⟩
      cases h
    · rintro ⟨hall, -⟩
      have hdown := hfailed.1 fun k hk => hall k (Nat.lt_of_lt_of_le hk hfits)
      cases hdown
  | exhausted =>
    -- The wait has made all its probes, so both sides speak of the same pause.
    have hlast : readings.length + 1 = p.attempts := hfits
    rw [← hlast, Nat.succ_mul]
    refine and_congr (iff_of_true rfl (hfailed.2 rfl)) ?_
    omega
  | late reading =>
    obtain ⟨-, hlate, -⟩ := hfits
    rw [← hreading reading rfl] at hlate
    apply iff_of_false
    · rintro ⟨-, hearly⟩
      omega
    · rintro ⟨-, hearly⟩
      omega
  | beyond reading =>
    obtain ⟨-, hbeyond⟩ := hfits
    rw [← hreading reading rfl] at hbeyond
    apply iff_of_false
    · rintro ⟨h, -⟩
      cases h
    · rintro ⟨-, hearly⟩
      omega

/-- With 35 seconds and an interval of 10 there may be three probes.  If each takes a second, the
wait gives up 23 seconds after the start, although a fourth probe could be made at 33. -/
theorem gives_up_early_iff_remainder :
    let p : PollPolicy := { ceilingSecs := 35 }
    let q : Prober := ⟨fun _ => false, fun _ => 1⟩
    let played := play q.answer (waitReachable "esx01:22" p) ⟨0, 0⟩
    1 ≤ p.intervalSecs ∧ 0 + p.ceilingSecs < clockRange ∧
      played.result? = some (.error (unreachable "esx01:22" p)) ∧
      played.state.clock + p.intervalSecs < 0 + p.ceilingSecs := by
  have hinterval : 1 ≤ PollPolicy.intervalSecs { ceilingSecs := 35 } := by decide
  have hstart : 0 + PollPolicy.ceilingSecs { ceilingSecs := 35 } < clockRange := by decide
  have hiff := gives_up_early_iff "esx01:22" { ceilingSecs := 35 } ⟨fun _ => false, fun _ => 1⟩ 0
    hinterval hstart
  exact ⟨hinterval, hstart, hiff.2 ⟨fun _ _ => rfl, by decide, by decide⟩⟩

/-- With 25 seconds in all and an interval of 10, a wait gives up on a host that would answer 20
seconds after the start: two probes have failed, at 0 and at 10, and there is no third one. -/
theorem host_given_up_with_time_left :
    let p : PollPolicy := { intervalSecs := 10, ceilingSecs := 25 }
    let q : Prober := ⟨fun k => k == 2, fun _ => 0⟩
    let played := play q.answer (waitReachable "esx01:22" p) ⟨0, 0⟩
    1 ≤ p.intervalSecs ∧ 0 + p.ceilingSecs < clockRange ∧
      played.result? = some (.error (unreachable "esx01:22" p)) ∧
      played.state = ⟨10, 2⟩ ∧ q.isUp 2 = true ∧
      ¬ 0 + p.ceilingSecs ≤ played.state.clock + p.intervalSecs := by
  refine ⟨by decide, by decide, rfl, rfl, rfl, by decide⟩

end RemoteHost.Ssh
