/-
RemoteHost/Proofs/Ssh/WaitCourse.lean

The course of a wait for a host, whatever the prober and the clock do.

A wait reads the clock and then goes through rounds: a probe that fails, a look at the clock and
a pause (`pausing`).  It ends in one of four ways (`WaitEnd`): with a probe that succeeds, with
the last probe that it may make, with a pause that would not end before the deadline, or with one
whose end the clock cannot show, where it breaks off.  How many rounds there are and when each of
these ends comes about is in `course_pollUntil` and `course_waitReachable`.
-/
import RemoteHost.Proofs.Dialogue
import RemoteHost.Ssh.Reachability

namespace RemoteHost.Ssh

open Dialogue

/-- The calls of an operation on a host, with their replies. -/
abbrev Calls := List (Exchange Call Call.Reply)

variable {address : String} {p : PollPolicy} {t : Calls}

/-! ### Rounds -/

/-- A probe, with the answer to it. -/
def probed (address : String) (p : PollPolicy) (isUp : Bool) : Exchange Call Call.Reply :=
  ⟨.probe address p.probeTimeout, isUp⟩

/-- A probe that fails, what the clock shows after it, and a pause. -/
def pausing (address : String) (p : PollPolicy) (reading : Nat) : Calls :=
  [probed address p false, ⟨.now, reading⟩, ⟨.sleep p.intervalSecs, ()⟩]

/-- The calls of the rounds in which the clock showed these readings. -/
def rounds (address : String) (p : PollPolicy) (readings : List Nat) : Calls :=
  readings.flatMap (pausing address p)

@[simp] theorem rounds_nil : rounds address p [] = [] := rfl

@[simp] theorem rounds_cons (reading : Nat) (readings : List Nat) :
    rounds address p (reading :: readings) =
      pausing address p reading ++ rounds address p readings := rfl

/-- There are three kinds of calls in the rounds. -/
theorem eq_of_mem_rounds {readings : List Nat} {x : Exchange Call Call.Reply}
    (h : x ∈ rounds address p readings) :
    x = probed address p false ∨ (∃ reading ∈ readings, x = ⟨.now, reading⟩) ∨
      x = ⟨.sleep p.intervalSecs, ()⟩ := by
  obtain ⟨reading, hreading, hx⟩ := List.mem_flatMap.1 h
  simp only [pausing, List.mem_cons, List.not_mem_nil, or_false] at hx
  rcases hx with hx | hx | hx
  · exact .inl hx
  · exact .inr (.inl ⟨reading, hreading, hx⟩)
  · exact .inr (.inr hx)

/-! ### Ends -/

/-- How a wait ends after its rounds. -/
inductive WaitEnd where
  /-- A probe succeeds. -/
  | answered
  /-- The last probe that may be made fails. -/
  | exhausted
  /-- A probe fails, and the next pause would not end before the deadline. -/
  | late (reading : Nat)
  /-- A probe fails, and the clock cannot show the end of the next pause. -/
  | beyond (reading : Nat)

namespace WaitEnd

/-- The calls of an end. -/
def calls (address : String) (p : PollPolicy) : WaitEnd → Calls
  | answered => [probed address p true]
  | exhausted => [probed address p false]
  | late reading => [probed address p false, ⟨.now, reading⟩]
  | beyond reading => [probed address p false, ⟨.now, reading⟩]

/-- The end can come about after a number of rounds, with so many probes at most. -/
def Fits (p : PollPolicy) (deadline probes made : Nat) : WaitEnd → Prop
  | answered => made < probes
  | exhausted => made + 1 = probes
  | late reading => made + 1 < probes ∧ deadline ≤ reading + p.intervalSecs ∧
      reading + p.intervalSecs < clockRange
  | beyond reading => made + 1 < probes ∧ clockRange ≤ reading + p.intervalSecs

/-- What an end after a number of rounds leaves: the number of probes, if the last one
succeeded, or nothing at all where the wait breaks off. -/
def result (made : Nat) : WaitEnd → Option (Option Nat)
  | answered => some (some (made + 1))
  | exhausted => some none
  | late _ => some none
  | beyond _ => none

/-- The end comes with a probe that succeeds. -/
def isAnswered : WaitEnd → Bool
  | answered => true
  | _ => false

theorem fits_succ {deadline probes made : Nat} {e : WaitEnd} :
    e.Fits p deadline (probes + 1) (made + 1) ↔ e.Fits p deadline probes made := by
  cases e <;> simp [Fits]

end WaitEnd

/-! ### Polling -/

theorem later?_eq_some {reading secs later : Nat} (h : later? reading secs = some later) :
    reading + secs < clockRange ∧ later = reading + secs := by
  unfold later? at h
  split at h
  · next hlt => exact ⟨hlt, (Option.some.inj h).symm⟩
  · cases h

theorem later?_eq_none {reading secs : Nat} (h : later? reading secs = none) :
    clockRange ≤ reading + secs := by
  unfold later? at h
  split at h
  · cases h
  · next hge => exact Nat.le_of_not_lt hge

/-- Rounds, and then an end. -/
theorem course_pollUntil {deadline left made : Nat} {r : Option (Option Nat)} (hleft : 0 < left)
    (h : Course (pollUntil address p deadline left made) t r) :
    ∃ readings e, t = rounds address p readings ++ WaitEnd.calls address p e ∧
      (∀ reading ∈ readings, reading + p.intervalSecs < deadline) ∧
      e.Fits p deadline left readings.length ∧ r = e.result (made + readings.length) := by
  -- Each round leaves one probe less to be made.
  induction left generalizing made t with
  | zero => cases hleft
  | succ left ih =>
    obtain ⟨isUp, t₁, rfl, h₁⟩ := course_call h
    cases isUp with
    | true =>
      obtain ⟨rfl, rfl⟩ := course_done h₁
      exact ⟨[], .answered, rfl, by simp, Nat.succ_pos left, rfl⟩
    | false =>
      by_cases hlast : left = 0
      · simp only [Bool.false_eq_true, if_false, if_pos hlast] at h₁
        obtain ⟨rfl, rfl⟩ := course_done h₁
        refine ⟨[], .exhausted, rfl, by simp, ?_, rfl⟩
        show 0 + 1 = left + 1
        rw [hlast]
      · simp only [Bool.false_eq_true, if_false, if_neg hlast] at h₁
        obtain ⟨(reading : Nat), t₂, rfl, h₂⟩ := course_call h₁
        have hmore : 0 + 1 < left + 1 := by omega
        cases hlater : later? reading p.intervalSecs with
        | none =>
          simp only [hlater] at h₂
          obtain ⟨rfl, rfl⟩ := course_broken h₂
          exact ⟨[], .beyond reading, rfl, by simp, ⟨hmore, later?_eq_none hlater⟩, rfl⟩
        | some wake =>
          simp only [hlater] at h₂
          obtain ⟨hshown, rfl⟩ := later?_eq_some hlater
          by_cases hlate : deadline ≤ reading + p.intervalSecs
          · simp only [if_pos hlate] at h₂
            obtain ⟨rfl, rfl⟩ := course_done h₂
            exact ⟨[], .late reading, rfl, by simp, ⟨hmore, hlate, hshown⟩, rfl⟩
          · simp only [if_neg hlate] at h₂
            obtain ⟨u, t₃, rfl, h₃⟩ := course_call h₂
            obtain ⟨readings, e, rfl, hreadings, hfits, rfl⟩ := ih (by omega) h₃
            refine ⟨reading :: readings, e, rfl, ?_, WaitEnd.fits_succ.2 hfits, ?_⟩
            · intro x hx
              rcases List.mem_cons.1 hx with rfl | hx
              · exact Nat.lt_of_not_le hlate
              · exact hreadings x hx
            · rw [List.length_cons, Nat.add_assoc, Nat.add_comm 1]

/-! ### Waiting -/

/-- The outcome of a wait that found the host up with so many probes, or did not. -/
def waitOutcome (address : String) (p : PollPolicy) : Option Nat → Outcome Nat
  | some n => .ok n
  | none => .error (unreachable address p)

/-- A wait reads the clock.  If the clock can show the deadline, rounds and an end follow. -/
theorem course_waitReachable {r : Option (Outcome Nat)}
    (h : Course (waitReachable address p) t r) :
    ∃ (start : Nat) (t' : Calls), t = ⟨.now, start⟩ :: t' ∧
      ((clockRange ≤ start + p.ceilingSecs ∧ t' = [] ∧ r = none) ∨
        (start + p.ceilingSecs < clockRange ∧ ∃ readings e,
          t' = rounds address p readings ++ WaitEnd.calls address p e ∧
          (∀ reading ∈ readings, reading + p.intervalSecs < start + p.ceilingSecs) ∧
          e.Fits p (start + p.ceilingSecs) p.attempts readings.length ∧
          r = (e.result readings.length).map (waitOutcome address p))) := by
  obtain ⟨(start : Nat), t', rfl, h₁⟩ := course_call h
  refine ⟨start, t', rfl, ?_⟩
  cases hlater : later? start p.ceilingSecs with
  | none =>
    simp only [hlater] at h₁
    obtain ⟨rfl, rfl⟩ := course_broken h₁
    exact .inl ⟨later?_eq_none hlater, rfl, rfl⟩
  | some deadline =>
    simp only [hlater] at h₁
    obtain ⟨hshown, rfl⟩ := later?_eq_some hlater
    refine .inr ⟨hshown, ?_⟩
    -- The rounds leave a count of probes or none, or they break off.
    rcases course_bind h₁ with ⟨t₁, t₂, found, rfl, h₂, h₃⟩ | ⟨rfl, h₂⟩
    · obtain ⟨readings, e, rfl, hreadings, hfits, hr⟩ := course_pollUntil p.attempts_pos h₂
      have hend : t₂ = [] ∧ r = some (waitOutcome address p found) := by
        cases found with
        | some n => exact course_done h₃
        | none => exact course_done h₃
      obtain ⟨rfl, rfl⟩ := hend
      rw [Nat.zero_add] at hr
      refine ⟨readings, e, List.append_nil _, hreadings, hfits, ?_⟩
      rw [← hr]
      rfl
    · obtain ⟨readings, e, rfl, hreadings, hfits, hr⟩ := course_pollUntil p.attempts_pos h₂
      rw [Nat.zero_add] at hr
      refine ⟨readings, e, rfl, hreadings, hfits, ?_⟩
      rw [← hr]
      rfl

/-! ### What a wait comes to -/

/-- The exchange is a probe that succeeds. -/
def isFound : Exchange Call Call.Reply → Bool
  | ⟨.probe _ _, (isUp : Bool)⟩ => isUp
  | _ => false

theorem not_isFound_of_mem_rounds {readings : List Nat} {x : Exchange Call Call.Reply}
    (h : x ∈ rounds address p readings) : isFound x = false := by
  rcases eq_of_mem_rounds h with rfl | ⟨reading, -, rfl⟩ | rfl <;> rfl

/-- One of the probes succeeds exactly when the wait ends with it. -/
theorem exists_isFound_iff (readings : List Nat) (e : WaitEnd) :
    (∃ x ∈ rounds address p readings ++ e.calls address p, isFound x) ↔ e.isAnswered := by
  constructor
  · rintro ⟨x, hx, hfound⟩
    rcases List.mem_append.1 hx with hx | hx
    · rw [not_isFound_of_mem_rounds hx] at hfound
      cases hfound
    · cases e with
      | answered => rfl
      | exhausted =>
        rw [List.mem_singleton.1 hx] at hfound
        cases hfound
      | late reading | beyond reading =>
        simp only [WaitEnd.calls, List.mem_cons, List.not_mem_nil, or_false] at hx
        rcases hx with rfl | rfl <;> cases hfound
  · intro h
    cases e with
    | answered =>
      refine ⟨probed address p true, List.mem_append_right _ ?_, rfl⟩
      exact List.mem_singleton_self _
    | exhausted | late reading | beyond reading => cases h

/-- Where there is time for more than one probe, a pause is no longer than the ceiling. -/
theorem interval_le_ceiling (h : 1 < p.attempts) : p.intervalSecs ≤ p.ceilingSecs := by
  unfold PollPolicy.attempts at h
  split at h
  · omega
  · next hinterval =>
    -- A longer interval would leave time for one attempt only.
    apply Nat.le_of_not_lt
    intro hlt
    rw [Nat.div_eq_of_lt hlt] at h
    omega

/-- A wait only breaks off where the clock cannot show the time a ceiling after a reading. -/
theorem beyond_of_course_none (h : Course (waitReachable address p) t none) :
    ∃ reading : Nat, (⟨.now, reading⟩ : Exchange Call Call.Reply) ∈ t ∧
      clockRange ≤ reading + p.ceilingSecs := by
  obtain ⟨start, t', rfl, ⟨hbeyond, -, -⟩ | ⟨-, readings, e, rfl, -, hfits, hr⟩⟩ :=
    course_waitReachable h
  · exact ⟨start, List.mem_cons_self, hbeyond⟩
  · cases e with
    | beyond reading =>
      obtain ⟨hmore, hbeyond⟩ := hfits
      have hinterval := interval_le_ceiling (p := p) (by omega)
      refine ⟨reading, ?_, by omega⟩
      simp [WaitEnd.calls]
    | answered => cases hr
    | exhausted => cases hr
    | late reading => cases hr

end RemoteHost.Ssh
