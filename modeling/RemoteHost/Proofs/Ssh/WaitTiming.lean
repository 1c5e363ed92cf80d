/-
RemoteHost/Proofs/Ssh/WaitTiming.lean

When a wait for a host probes, pauses and gives up.

Time passes in probes and in pauses only.  A `Prober` says of every probe whether it finds the host
up and how long it takes, and against it the readings of the clock that `WaitCourse` leaves open
are settled (`answered_rounds`).  A part of a second would not change a thing: the times of a policy
are whole seconds, so only the whole seconds since the start are ever compared.

Two rules end a wait, the number of probes and the deadline.  `wait_keeps_to_schedule` says how they
work together: the calls are probes with one pause between each two, no pause runs into the
deadline, and while probes take no time the first rule is the one that counts.  The
arithmetic of the clock is a third way to end: after a probe that takes very long, the clock cannot
show when the next pause would be over, and no result is left (`wait_breaks_off_after_long_probe`).
-/
import Mathlib.Data.List.Induction
import RemoteHost.Proofs.Ssh.WaitCourse

namespace RemoteHost.Ssh

open Dialogue

/-! ### What is read off the calls -/

/-- The answer of a probe. -/
def foundBy? : Exchange Call Call.Reply → Option Bool
  | ⟨.probe _ _, (isUp : Bool)⟩ => some isUp
  | _ => none

/-- The answers of the probes, in order. -/
def found (t : Calls) : List Bool := t.filterMap foundBy?

@[simp] theorem found_append (t₁ t₂ : Calls) : found (t₁ ++ t₂) = found t₁ ++ found t₂ :=
  List.filterMap_append

/-- The call only reads the clock. -/
def isReading : Exchange Call Call.Reply → Bool
  | ⟨.now, _⟩ => true
  | _ => false

/-- The calls that take their time: all but those that read the clock. -/
def steps (t : Calls) : Calls := t.filter (!isReading ·)

@[simp] theorem steps_append (t₁ t₂ : Calls) : steps (t₁ ++ t₂) = steps t₁ ++ steps t₂ :=
  List.filter_append t₁ t₂

/-- The pause between two probes. -/
def paused (p : PollPolicy) : Exchange Call Call.Reply := ⟨.sleep p.intervalSecs, ()⟩

/-- The exchange is a pause. -/
def isPause : Exchange Call Call.Reply → Bool
  | ⟨.sleep _, _⟩ => true
  | _ => false

/-- The number of pauses. -/
def pauses (t : Calls) : Nat := t.countP isPause

@[simp] theorem pauses_append (t₁ t₂ : Calls) : pauses (t₁ ++ t₂) = pauses t₁ + pauses t₂ :=
  List.countP_append

section

variable {address : String} {p : PollPolicy}

/-! ### The calls of a wait -/

theorem found_rounds (readings : List Nat) :
    found (rounds address p readings) = List.replicate readings.length false := by
  induction readings with
  | nil => rfl
  | cons reading readings ih =>
    rw [rounds_cons, found_append, ih, List.length_cons, List.replicate_succ]
    rfl

theorem pauses_rounds (readings : List Nat) :
    pauses (rounds address p readings) = readings.length := by
  induction readings with
  | nil => rfl
  | cons reading readings ih =>
    rw [rounds_cons, pauses_append, ih, List.length_cons, Nat.add_comm]
    rfl

namespace WaitEnd

/-- An end has one probe, and no pause. -/
theorem found_calls (e : WaitEnd) : found (e.calls address p) = [e.isAnswered] := by
  cases e <;> rfl

theorem steps_calls (e : WaitEnd) :
    steps (e.calls address p) = [probed address p e.isAnswered] := by
  cases e <;> rfl

theorem pauses_calls (e : WaitEnd) : pauses (e.calls address p) = 0 := by
  cases e <;> rfl

end WaitEnd

/-- The answers of a wait: none but the last one can be good. -/
theorem found_wait (start : Nat) (readings : List Nat) (e : WaitEnd) :
    found (⟨.now, start⟩ :: (rounds address p readings ++ e.calls address p)) =
      List.replicate readings.length false ++ [e.isAnswered] := by
  have hfirst : ∀ t, found (⟨.now, start⟩ :: t) = found t := fun _ => rfl
  rw [hfirst, found_append, found_rounds, e.found_calls]

/-- The calls of a wait that take time: its probes, with a pause between each two. -/
theorem steps_wait (start : Nat) (readings : List Nat) (e : WaitEnd) :
    steps (⟨.now, start⟩ :: (rounds address p readings ++ e.calls address p)) =
      ((List.replicate readings.length false ++ [e.isAnswered]).map (probed address p)).intersperse
        (paused p) := by
  have hfirst : ∀ t, steps (⟨.now, start⟩ :: t) = steps t := fun _ => rfl
  rw [hfirst]
  induction readings with
  | nil => exact e.steps_calls
  | cons reading readings ih =>
    have hround : steps (pausing address p reading) = [probed address p false, paused p] := rfl
    rw [rounds_cons, List.append_assoc, steps_append, hround, ih, List.length_cons,
      List.replicate_succ]
    show _ = ((false :: (List.replicate readings.length false ++ [e.isAnswered])).map
      (probed address p)).intersperse (paused p)
    -- The list of answers goes on, so there is a pause after this one.
    obtain ⟨isUp, rest, hrest⟩ :
        ∃ isUp rest, List.replicate readings.length false ++ [e.isAnswered] = isUp :: rest := by
      cases readings with
      | nil => exact ⟨_, _, rfl⟩
      | cons _ _ => exact ⟨_, _, rfl⟩
    rw [hrest]
    rfl

/-- Before each pause the clock is read. -/
theorem reading_before_pause {readings : List Nat} {e : WaitEnd} {earlier later : Calls}
    {secs : Nat} (h : rounds address p readings ++ e.calls address p =
      earlier ++ ⟨.sleep secs, ()⟩ :: later) :
    ∃ (earlier' : Calls) (reading : Nat), earlier = earlier' ++ [⟨.now, reading⟩] ∧
      reading ∈ readings ∧ secs = p.intervalSecs := by
  induction readings generalizing earlier with
  | nil =>
    -- There is no pause in an end.
    have hnone : pauses (e.calls address p) = 0 := e.pauses_calls
    have hsome : pauses (⟨.sleep secs, ()⟩ :: later) = pauses later + 1 :=
      List.countP_cons_of_pos rfl
    rw [rounds_nil, List.nil_append] at h
    rw [h, pauses_append, hsome] at hnone
    omega
  | cons reading readings ih =>
    rw [rounds_cons, List.append_assoc] at h
    -- The cut is behind one of the three calls of the first round, or in a later round.
    match earlier, h with
    | [], h => cases (List.cons.inj h).1
    | [_], h => cases (List.cons.inj (List.cons.inj h).2).1
    | [x, y], h =>
      obtain ⟨hx, h⟩ := List.cons.inj h
      obtain ⟨hy, h⟩ := List.cons.inj h
      obtain ⟨hsleep, -⟩ := List.cons.inj h
      cases hsleep
      exact ⟨[x], reading, by rw [hy]; rfl, List.mem_cons_self, rfl⟩
    | x :: y :: z :: earlier, h =>
      obtain ⟨-, h⟩ := List.cons.inj h
      obtain ⟨-, h⟩ := List.cons.inj h
      obtain ⟨-, h⟩ := List.cons.inj h
      obtain ⟨earlier', reading', rfl, hmem, hsecs⟩ := ih h
      exact ⟨x :: y :: z :: earlier', reading', rfl, List.mem_cons_of_mem _ hmem, hsecs⟩

/-! ### Probers -/

/-- What comes of probes: whether each of them, counted from 0, finds the host up, and how many
seconds it takes. -/
structure Prober where
  isUp : Nat → Bool
  cost : Nat → Nat

/-- What the clock shows, and how many probes there have been. -/
structure Watch where
  clock : Nat
  probes : Nat := 0
  deriving DecidableEq, Repr

namespace Prober

/-- The outside with a prober: the clock goes on with probes and pauses. -/
def answer (q : Prober) : (c : Call) → Watch → c.Reply × Watch
  | .probe _ _, w => (q.isUp w.probes, ⟨w.clock + q.cost w.probes, w.probes + 1⟩)
  | .sleep secs, w => ((), { w with clock := w.clock + secs })
  | .now, w => (w.clock, w)
  | .dial _ _, w => (.ok (), w)
  | .execute _ _, w => (.ok ⟨"", 0⟩, w)
  | .start _ _, w => (.ok (), w)
  | .sendFile _ _ _ _, w => (.ok (), w)
  | .close _, w => (.ok (), w)
  | .record _, w => ((), w)
  | .report _, w => ((), w)

variable {q : Prober}

/-- A round is answered with a failure, and by a clock that counts the probe. -/
theorem answered_pausing {w : Watch} {reading : Nat} :
    Answered q.answer w (pausing address p reading) ↔
      q.isUp w.probes = false ∧ reading = w.clock + q.cost w.probes := by
  constructor
  · rintro ⟨hfailed, hreading, -, -⟩
    exact ⟨hfailed.symm, hreading⟩
  · rintro ⟨hfailed, hreading⟩
    exact ⟨hfailed.symm, hreading, rfl, trivial⟩

theorem after_pausing (w : Watch) (reading : Nat) :
    after q.answer w (pausing address p reading) =
      ⟨w.clock + q.cost w.probes + p.intervalSecs, w.probes + 1⟩ := rfl

/-- The rounds of a wait count the probes, which all fail. -/
theorem answered_rounds {w : Watch} {readings : List Nat}
    (h : Answered q.answer w (rounds address p readings)) :
    (∀ k < readings.length, q.isUp (w.probes + k) = false) ∧
      (after q.answer w (rounds address p readings)).probes = w.probes + readings.length := by
  induction readings generalizing w with
  | nil => exact ⟨fun k hk => absurd hk (Nat.not_lt_zero k), rfl⟩
  | cons reading readings ih =>
    rw [rounds_cons, answered_append, after_pausing, answered_pausing] at h
    obtain ⟨⟨hfailed, -⟩, hrest⟩ := h
    obtain ⟨hall, hprobes⟩ := ih hrest
    rw [rounds_cons, after_append, after_pausing, hprobes, List.length_cons]
    refine ⟨?_, Nat.succ_add_eq_add_succ _ _⟩
    intro k hk
    cases k with
    | zero => exact hfailed
    | succ k =>
      have hk' := hall k (Nat.lt_of_succ_lt_succ hk)
      rwa [Nat.add_right_comm] at hk'

/-- The probe of an end is the one after those of the rounds. -/
theorem isUp_of_answered {w : Watch} {e : WaitEnd} (h : Answered q.answer w (e.calls address p)) :
    q.isUp w.probes = e.isAnswered := by
  cases e <;> exact h.1.symm

/-- The answers of the probes are those of the prober, in order. -/
theorem found_eq {start : Nat} {readings : List Nat} {e : WaitEnd}
    (h : Answered q.answer ⟨start, 0⟩ (rounds address p readings ++ e.calls address p)) :
    List.replicate readings.length false ++ [e.isAnswered] =
      (List.range (readings.length + 1)).map q.isUp := by
  obtain ⟨hrounds, hend⟩ := answered_append.1 h
  obtain ⟨hall, hprobes⟩ := answered_rounds hrounds
  have hlast := isUp_of_answered hend
  rw [hprobes, Nat.zero_add] at hlast
  rw [List.range_succ, List.map_append, List.map_singleton, hlast]
  congr 1
  symm
  rw [List.eq_replicate_iff, List.length_map, List.length_range]
  refine ⟨rfl, ?_⟩
  intro b hb
  obtain ⟨k, hk, rfl⟩ := List.mem_map.1 hb
  have hfailed := hall k (List.mem_range.1 hk)
  rwa [Nat.zero_add] at hfailed

/-- The seconds that so many probes take together, from the first one on. -/
def spent (q : Prober) : Nat → Nat
  | 0 => 0
  | n + 1 => q.spent n + q.cost n

theorem spent_of_free (hcost : ∀ k, q.cost k = 0) (n : Nat) : q.spent n = 0 := by
  induction n with
  | zero => rfl
  | succ n ih => rw [spent, ih, hcost]

theorem spent_mono {m n : Nat} (h : m ≤ n) : q.spent m ≤ q.spent n := by
  induction h with
  | refl => exact Nat.le_refl _
  | step _ ih => exact Nat.le_trans ih (Nat.le_add_right _ _)

/-- Rounds take the time of their probes and of their pauses. -/
theorem after_rounds (start : Nat) (readings : List Nat) :
    after q.answer ⟨start, 0⟩ (rounds address p readings) =
      ⟨start + q.spent readings.length + readings.length * p.intervalSecs, readings.length⟩ := by
  induction readings using List.reverseRecOn with
  | nil => simp [spent]
  | append_singleton readings reading ih =>
    have hlast : rounds address p (readings ++ [reading]) =
        rounds address p readings ++ pausing address p reading := by
      rw [rounds, List.flatMap_append, List.flatMap_singleton]
      rfl
    rw [hlast, after_append, ih, after_pausing, List.length_append, List.length_singleton, spent,
      Nat.succ_mul, Watch.mk.injEq]
    dsimp only
    exact ⟨by omega, rfl⟩

/-- What the clock shows when it is read is what was read. -/
theorem clock_of_answered {w : Watch} {t : Calls} {reading : Nat}
    (h : Answered q.answer w (t ++ [⟨.now, reading⟩])) :
    (after q.answer w (t ++ [⟨.now, reading⟩])).clock = reading := by
  obtain ⟨-, hreading, -⟩ := answered_append.1 h
  rw [after_append]
  exact hreading.symm

end Prober

/-! ### Two rules to end a wait -/

/-- Where there is time for more than one probe, the pauses between them fit into the ceiling. -/
theorem pause_fits {made : Nat} (h : made + 1 < p.attempts) :
    (made + 1) * p.intervalSecs < p.ceilingSecs := by
  unfold PollPolicy.attempts at h
  split at h
  · omega
  · next hinterval =>
    have hdiv : made + 2 ≤ p.ceilingSecs / p.intervalSecs := by omega
    calc (made + 1) * p.intervalSecs
        < (made + 2) * p.intervalSecs :=
          Nat.mul_lt_mul_of_pos_right (Nat.lt_succ_self _) (Nat.pos_of_ne_zero hinterval)
      _ ≤ p.ceilingSecs / p.intervalSecs * p.intervalSecs := Nat.mul_le_mul_right _ hdiv
      _ ≤ p.ceilingSecs := Nat.div_mul_le_self _ _

/-- A wait ends within the number of probes that it may make. -/
theorem WaitEnd.Fits.le_attempts {deadline probes made : Nat} {e : WaitEnd}
    (h : e.Fits p deadline probes made) : made + 1 ≤ probes := by
  cases e with
  | answered => exact h
  | exhausted => exact Nat.le_of_eq h
  | late reading => exact Nat.le_of_lt h.1
  | beyond reading => exact Nat.le_of_lt h.1

namespace WaitEnd

/-- The time at which a wait that ends so reads the clock once more. -/
def reading? : WaitEnd → Option Nat
  | answered => none
  | exhausted => none
  | late reading => some reading
  | beyond reading => some reading

/-- The last call of an end with a reading is that reading. -/
theorem calls_of_reading? {e : WaitEnd} {reading : Nat} (h : e.reading? = some reading) :
    e.calls address p = [probed address p false] ++ [⟨.now, reading⟩] := by
  cases e with
  | answered => cases h
  | exhausted => cases h
  | late _ | beyond _ =>
    obtain rfl := Option.some.inj h
    rfl

variable {deadline made clock : Nat} {e : WaitEnd}

theorem result_eq_ok_iff {n : Nat} :
    (e.result made).map (waitOutcome address p) = some (.ok n) ↔
      n = made + 1 ∧ e.isAnswered = true := by
  cases e with
  | answered =>
    show some (Except.ok (made + 1)) = some (.ok n) ↔ n = made + 1 ∧ true = true
    rw [Option.some.injEq, Except.ok.injEq]
    exact ⟨fun h => ⟨h.symm, rfl⟩, fun h => h.1.symm⟩
  | exhausted | late _ | beyond _ =>
    apply iff_of_false
    · intro h
      cases h
    · rintro ⟨-, h⟩
      cases h

/-- A wait gives up where its last probe fails, or the last one with time for another. -/
theorem result_eq_error_iff {err : Failure} (hfits : e.Fits p deadline p.attempts made)
    (hclock : ∀ reading, e.reading? = some reading → clock = reading) :
    (e.result made).map (waitOutcome address p) = some (.error err) ↔
      err = unreachable address p ∧ e.isAnswered = false ∧
        (made + 1 = p.attempts ∨ clock + p.intervalSecs < clockRange) := by
  cases e with
  | answered =>
    apply iff_of_false
    · intro h
      cases h
    · rintro ⟨-, h, -⟩
      cases h
  | exhausted =>
    constructor
    · intro h
      cases h
      exact ⟨rfl, rfl, .inl hfits⟩
    · rintro ⟨rfl, -, -⟩
      rfl
  | late reading =>
    obtain ⟨-, -, hshown⟩ := hfits
    constructor
    · intro h
      cases h
      refine ⟨rfl, rfl, .inr ?_⟩
      rwa [hclock reading rfl]
    · rintro ⟨rfl, -, -⟩
      rfl
  | beyond reading =>
    obtain ⟨hmore, hbeyond⟩ := hfits
    apply iff_of_false
    · intro h
      cases h
    · rintro ⟨-, -, hlast | hshown⟩
      · omega
      · rw [hclock reading rfl] at hshown
        omega

/-- A wait breaks off where the clock cannot show the end of a pause that is to come. -/
theorem result_eq_none_iff (hfits : e.Fits p deadline p.attempts made)
    (hclock : ∀ reading, e.reading? = some reading → clock = reading) :
    (e.result made).map (waitOutcome address p) = none ↔
      e.isAnswered = false ∧ made + 1 ≠ p.attempts ∧ clockRange ≤ clock + p.intervalSecs := by
  cases e with
  | answered =>
    apply iff_of_false
    · intro h
      cases h
    · rintro ⟨h, -⟩
      cases h
  | exhausted =>
    apply iff_of_false
    · intro h
      cases h
    · rintro ⟨-, h, -⟩
      exact h hfits
  | late reading =>
    obtain ⟨-, -, hshown⟩ := hfits
    apply iff_of_false
    · intro h
      cases h
    · rintro ⟨-, -, hbeyond⟩
      rw [hclock reading rfl] at hbeyond
      omega
  | beyond reading =>
    obtain ⟨hmore, hbeyond⟩ := hfits
    refine iff_of_true rfl ⟨rfl, Nat.ne_of_lt hmore, ?_⟩
    rwa [hclock reading rfl]

end WaitEnd

/-- When a wait ends, the clock shows what its probes and its pauses have taken. -/
theorem clock_of_wait {q : Prober} (start : Nat) (readings : List Nat) (e : WaitEnd) :
    (after q.answer ⟨start, 0⟩ (rounds address p readings ++ e.calls address p)).clock =
      start + q.spent (readings.length + 1) + readings.length * p.intervalSecs := by
  have hend : ∀ w : Watch, (after q.answer w (e.calls address p)).clock =
      w.clock + q.cost w.probes := by
    intro w
    cases e <;> rfl
  rw [after_append, Prober.after_rounds, hend, Prober.spent]
  dsimp only
  omega

/-- A wait that ends with a reading ends when the clock shows it. -/
theorem clock_of_reading? {q : Prober} {w : Watch} {t : Calls} {e : WaitEnd} {reading : Nat}
    (hr : e.reading? = some reading) (h : Answered q.answer w (t ++ e.calls address p)) :
    (after q.answer w (t ++ e.calls address p)).clock = reading := by
  rw [WaitEnd.calls_of_reading? hr, ← List.append_assoc] at h ⊢
  exact Prober.clock_of_answered h

/-- While probes take no time, a wait has no other end than a good probe or the last one. -/
theorem length_of_free_probes {q : Prober} {start : Nat} {readings : List Nat} {e : WaitEnd}
    (hcost : ∀ k, q.cost k = 0) (hstart : start + p.ceilingSecs < clockRange)
    (hfits : e.Fits p (start + p.ceilingSecs) p.attempts readings.length)
    (h : Answered q.answer ⟨start, 0⟩ (rounds address p readings ++ e.calls address p)) :
    e.isAnswered = true ∨ readings.length + 1 = p.attempts := by
  -- The next pause would end where the rounds and one more end, and that is in time.
  have hreading : ∀ reading, e.reading? = some reading →
      reading = start + readings.length * p.intervalSecs := by
    intro reading hr
    have hclock := clock_of_reading? hr h
    rw [clock_of_wait, Prober.spent_of_free hcost, Nat.add_zero] at hclock
    exact hclock.symm
  cases e with
  | answered => exact .inl rfl
  | exhausted => exact .inr hfits
  | late reading =>
    obtain ⟨hmore, hlate, -⟩ := hfits
    have hpause := pause_fits hmore
    rw [Nat.succ_mul] at hpause
    rw [hreading reading rfl] at hlate
    omega
  | beyond reading =>
    obtain ⟨hmore, hbeyond⟩ := hfits
    have hpause := pause_fits hmore
    rw [Nat.succ_mul] at hpause
    rw [hreading reading rfl] at hbeyond
    omega

/-- A pause begins when the clock shows one of the readings of the rounds. -/
theorem pause_in_time {q : Prober} {start secs : Nat} {readings : List Nat} {e : WaitEnd}
    {earlier later : Calls}
    (hreadings : ∀ reading ∈ readings, reading + p.intervalSecs < start + p.ceilingSecs)
    (h : Answered q.answer ⟨start, 0⟩
      (⟨.now, start⟩ :: (rounds address p readings ++ e.calls address p)))
    (hcut : ⟨.now, start⟩ :: (rounds address p readings ++ e.calls address p) =
      earlier ++ ⟨.sleep secs, ()⟩ :: later) :
    secs = p.intervalSecs ∧
      (after q.answer ⟨start, 0⟩ earlier).clock + secs < start + p.ceilingSecs := by
  rw [hcut] at h
  cases earlier with
  | nil => cases (List.cons.inj hcut).1
  | cons x earlier =>
    obtain ⟨earlier', reading, rfl, hmem, rfl⟩ := reading_before_pause (List.cons.inj hcut).2
    rw [← List.cons_append] at h ⊢
    have hclock := Prober.clock_of_answered (answered_append.1 h).1
    refine ⟨rfl, ?_⟩
    rw [hclock]
    exact hreadings reading hmem

end

/-! ### The schedule of a wait -/

/-- **A wait keeps to its schedule.**  The clock can show the time `start` plus the ceiling.

The calls that take time are probes of the address with one pause between each two, at least one
probe and as many as fit into the ceiling at most; the answers are those of the prober in order.

The wait finds the host up after `n` probes just where the `n`-th one is the first that succeeds,
and then it has made `n - 1` pauses and makes no further call.  It gives up just where every probe
failed and they were all that it may make, or the clock can still show the end of another
pause.  Where every probe failed and neither holds, no result is left at all.

No pause that is begun would end at the deadline or after it.  While probes take no time, there
is always a result, and the wait gives up after all the probes that it may make, not before. -/
theorem wait_keeps_to_schedule (address : String) (p : PollPolicy) (q : Prober) (start : Nat)
    (hstart : start + p.ceilingSecs < clockRange) :
    let played := play q.answer (waitReachable address p) ⟨start, 0⟩
    let answers := found played.exchanges
    (steps played.exchanges = (answers.map (probed address p)).intersperse (paused p) ∧
      answers = (List.range answers.length).map q.isUp ∧
      1 ≤ answers.length ∧ answers.length ≤ p.attempts) ∧
    (∀ n, played.result? = some (.ok n) ↔
      ∃ k, n = k + 1 ∧ answers = List.replicate k false ++ [true] ∧ pauses played.exchanges = k) ∧
    (∀ e, played.result? = some (.error e) ↔
      e = unreachable address p ∧ (∀ isUp ∈ answers, isUp = false) ∧
        (answers.length = p.attempts ∨ played.state.clock + p.intervalSecs < clockRange)) ∧
    (played.result? = none ↔
      (∀ isUp ∈ answers, isUp = false) ∧ answers.length ≠ p.attempts ∧
        clockRange ≤ played.state.clock + p.intervalSecs) ∧
    (∀ earlier secs later, played.exchanges = earlier ++ ⟨.sleep secs, ()⟩ :: later →
      secs = p.intervalSecs ∧
        (after q.answer ⟨start, 0⟩ earlier).clock + secs < start + p.ceilingSecs) ∧
    ((∀ k, q.cost k = 0) →
      played.result? ≠ none ∧
        ∀ e, played.result? = some (.error e) → answers.length = p.attempts) := by
  intro played answers
  have hcourse := course_waitReachable
    (course_of_play q.answer (waitReachable address p) ⟨start, 0⟩)
  obtain ⟨hanswered, hstate⟩ := answered_play q.answer (waitReachable address p) ⟨start, 0⟩
  obtain ⟨start', t, hexchanges, hrest⟩ := hcourse
  rw [hexchanges] at hanswered hstate
  -- What the clock shows first is the time of the start, so the deadline is known.
  obtain rfl : start' = start := hanswered.1
  rcases hrest with ⟨hbeyond, -, -⟩ | ⟨-, readings, e, rfl, hreadings, hfits, hresult⟩
  · exact absurd hstart (Nat.not_lt.2 hbeyond)
  have hcalls : played.exchanges =
      ⟨.now, start'⟩ :: (rounds address p readings ++ e.calls address p) := hexchanges
  have hanswers : answers = List.replicate readings.length false ++ [e.isAnswered] := by
    show found played.exchanges = _
    rw [hcalls, found_wait]
  have hlength : answers.length = readings.length + 1 := by
    rw [hanswers, List.length_append, List.length_replicate, List.length_singleton]
  have hall : (∀ isUp ∈ answers, isUp = false) ↔ e.isAnswered = false := by
    rw [hanswers]
    simp
  have hpauses : pauses played.exchanges = readings.length := by
    have hfirst : ∀ t, pauses (⟨.now, start'⟩ :: t) = pauses t := fun _ => rfl
    rw [hcalls, hfirst, pauses_append, pauses_rounds, e.pauses_calls, Nat.add_zero]
  have hclock : ∀ reading, e.reading? = some reading → played.state.clock = reading := by
    intro reading hr
    show (play q.answer (waitReachable address p) ⟨start', 0⟩).state.clock = reading
    rw [hstate]
    exact clock_of_reading? (t := _ :: rounds address p readings) hr hanswered
  have hresult : played.result? = (e.result readings.length).map (waitOutcome address p) := hresult
  refine ⟨⟨?_, ?_, ?_, ?_⟩, ?_, ?_, ?_, ?_, ?_⟩
  · rw [hanswers, hcalls]
    exact steps_wait start' readings e
  · rw [hlength, hanswers]
    exact Prober.found_eq hanswered.2
  · rw [hlength]
    exact Nat.le_add_left 1 _
  · rw [hlength]
    exact hfits.le_attempts
  · intro n
    rw [hresult, WaitEnd.result_eq_ok_iff, hanswers, hpauses]
    constructor
    · rintro ⟨rfl, hup⟩
      exact ⟨readings.length, rfl, by rw [hup], rfl⟩
    · rintro ⟨k, rfl, heq, rfl⟩
      have hlast := List.append_cancel_left heq
      exact ⟨rfl, (List.cons.inj hlast).1⟩
  · intro err
    rw [hresult, hall, hlength]
    exact WaitEnd.result_eq_error_iff hfits hclock
  · rw [hresult, hall, hlength]
    exact WaitEnd.result_eq_none_iff hfits hclock
  · intro earlier secs later hcut
    rw [hcalls] at hcut
    exact pause_in_time hreadings hanswered hcut
  · intro hcost
    have hend := length_of_free_probes hcost hstart hfits hanswered.2
    rw [hresult, hlength]
    constructor
    · intro hnone
      rw [WaitEnd.result_eq_none_iff hfits hclock] at hnone
      obtain ⟨hdown, hmore, -⟩ := hnone
      rcases hend with hup | hlast
      · rw [hdown] at hup
        cases hup
      · exact hmore hlast
    · intro err herr
      rw [WaitEnd.result_eq_error_iff hfits hclock] at herr
      obtain ⟨-, hdown, -⟩ := herr
      rcases hend with hup | hlast
      · rw [hdown] at hup
        cases hup
      · exact hlast

/-- Probes that fail after five seconds each use up the time sooner: with a minute in all, a wait
gives up after four of them, not after the six that it may make. -/
theorem wait_keeps_to_schedule_slow_probes :
    let p : PollPolicy := { ceilingSecs := 60 }
    let q : Prober := ⟨fun _ => false, fun _ => 5⟩
    let played := play q.answer (waitReachable "esx01:22" p) ⟨0, 0⟩
    0 + p.ceilingSecs < clockRange ∧ p.attempts = 6 ∧ (found played.exchanges).length = 4 ∧
      played.result? = some (.error (unreachable "esx01:22" p)) := by
  have hstart : 0 + PollPolicy.ceilingSecs { ceilingSecs := 60 } < clockRange := by decide
  obtain ⟨-, -, hgivesUp, -⟩ := wait_keeps_to_schedule "esx01:22" { ceilingSecs := 60 }
    ⟨fun _ => false, fun _ => 5⟩ 0 hstart
  refine ⟨hstart, by decide, by decide, (hgivesUp _).2 ⟨rfl, by decide, ?_⟩⟩
  -- The clock shows 50 in the end, so it can show the end of another pause.
  exact .inr (by decide)

/-- The clock can show the deadline, and every probe that is made fails, but the wait does not give
up: the one probe takes so long that the clock cannot show the end of the pause after it. -/
theorem wait_breaks_off_after_long_probe :
    let p : PollPolicy := { intervalSecs := 1 <<< 61, ceilingSecs := 1 <<< 62 }
    let q : Prober := ⟨fun _ => false, fun _ => 7 <<< 60⟩
    let played := play q.answer (waitReachable "esx01:22" p) ⟨0, 0⟩
    0 + p.ceilingSecs < clockRange ∧ (∀ isUp ∈ found played.exchanges, isUp = false) ∧
      played.result? = none := by
  refine ⟨by decide, by decide, rfl⟩

end RemoteHost.Ssh
