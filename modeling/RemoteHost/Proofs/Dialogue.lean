/-
RemoteHost/Proofs/Dialogue.lean

Runs of a dialogue, whatever the outside answers.

Playing a dialogue needs an outside with states.  What a dialogue does can be said without
one: `Runs d t a` holds when there are replies with which `d` makes the calls of `t` and
ends with `a`.  A dialogue that goes on after a result runs as its two parts in turn
(`runs_bind`), and every play that ends is a run (`runs_of_play`), so a statement about all
runs is one about every behaviour of the outside.  A play that breaks off is no run; together
with the runs the plays are the courses (`Course`, `course_of_play`).  Which replies one
outside gives on the way, and in which states, is in `Answered` and `after`
(`answered_play`).

The calls of a dialogue may be carried out by calls of another kind; then it runs as it does by
itself, and its calls run in turn (`runs_through`).

`Returns d` says that no replies make `d` break off, and `Below d d'` that `d'` only goes on
where `d` breaks off, so a play of `d` that ends is one of `d'` (`Below.play_eq`).  Against
one outside, `Yields` says that a play ends and what holds then; again the two parts are
taken in turn (`Yields.bind`).
-/
import RemoteHost.Dialogue

namespace RemoteHost.Dialogue

variable {Call : Type} {Reply : Call → Type} {α β : Type}

/-! ### Runs -/

/-- With some replies, the dialogue makes these calls and ends with this result. -/
inductive Runs : Dialogue Call Reply α → List (Exchange Call Reply) → α → Prop
  | done (a : α) : Runs (done a) [] a
  | ask {c : Call} {next : Reply c → Dialogue Call Reply α} {t : List (Exchange Call Reply)}
      {a : α} (r : Reply c) : Runs (next r) t a → Runs (ask c next) (⟨c, r⟩ :: t) a

@[simp] theorem runs_done {a b : α} {t : List (Exchange Call Reply)} :
    Runs (done a : Dialogue Call Reply α) t b ↔ t = [] ∧ b = a := by
  constructor
  · intro h
    cases h
    exact ⟨rfl, rfl⟩
  · rintro ⟨rfl, rfl⟩
    exact .done b

@[simp] theorem runs_ask {c : Call} {next : Reply c → Dialogue Call Reply α}
    {t : List (Exchange Call Reply)} {a : α} :
    Runs (ask c next) t a ↔ ∃ r t', t = ⟨c, r⟩ :: t' ∧ Runs (next r) t' a := by
  constructor
  · intro h
    cases h with
    | ask r h => exact ⟨r, _, rfl, h⟩
  · rintro ⟨r, t', rfl, h⟩
    exact .ask r h

@[simp] theorem not_runs_broken {t : List (Exchange Call Reply)} {a : α} :
    ¬ Runs (broken : Dialogue Call Reply α) t a := by
  intro h
  cases h

/-- A dialogue that goes on after a result runs as its two parts in turn. -/
theorem runs_bind {d : Dialogue Call Reply α} {f : α → Dialogue Call Reply β}
    {t : List (Exchange Call Reply)} {b : β} :
    Runs (d >>= f) t b ↔
      ∃ t₁ t₂ a, t = t₁ ++ t₂ ∧ Runs d t₁ a ∧ Runs (f a) t₂ b := by
  induction d generalizing t with
  | done a =>
    constructor
    · intro h
      exact ⟨[], t, a, rfl, .done a, h⟩
    · rintro ⟨t₁, t₂, a', rfl, h₁, h₂⟩
      cases h₁
      exact h₂
  | ask c next ih =>
    simp only [ask_bind, runs_ask, ih]
    constructor
    · rintro ⟨r, _, rfl, t₁, t₂, a, rfl, h₁, h₂⟩
      exact ⟨⟨c, r⟩ :: t₁, t₂, a, rfl, ⟨r, t₁, rfl, h₁⟩, h₂⟩
    · rintro ⟨_, t₂, a, rfl, ⟨r, t₁, rfl, h₁⟩, h₂⟩
      exact ⟨r, t₁ ++ t₂, rfl, t₁, t₂, a, rfl, h₁, h₂⟩
  | broken =>
    simp only [broken_bind, not_runs_broken, false_iff]
    rintro ⟨t₁, t₂, a, -, h₁, -⟩
    cases h₁

/-- A call, and then whatever is done with the reply. -/
theorem runs_call {c : Call} {f : Reply c → Dialogue Call Reply β}
    {t : List (Exchange Call Reply)} {b : β} :
    Runs (call c >>= f) t b ↔ ∃ r t', t = ⟨c, r⟩ :: t' ∧ Runs (f r) t' b := by
  simp only [call, ask_bind, done_bind, runs_ask]

/-- A play that ends is a run. -/
theorem runs_of_play {ω : Type} {answer : (c : Call) → ω → Reply c × ω}
    {d : Dialogue Call Reply α} {w : ω} {a : α} (h : (play answer d w).result? = some a) :
    Runs d (play answer d w).exchanges a := by
  induction d generalizing w with
  | done b =>
    simp only [play_done, Option.some.injEq] at h
    exact h ▸ .done b
  | ask c next ih =>
    rw [play_ask] at h ⊢
    exact .ask _ (ih _ h)
  | broken => simp at h

/-! ### Courses -/

/-- With some replies, the dialogue makes these calls, and ends with this result or, without
one, breaks off. -/
inductive Course : Dialogue Call Reply α → List (Exchange Call Reply) → Option α → Prop
  | done (a : α) : Course (done a) [] (some a)
  | ask {c : Call} {next : Reply c → Dialogue Call Reply α} {t : List (Exchange Call Reply)}
      {a? : Option α} (r : Reply c) : Course (next r) t a? → Course (ask c next) (⟨c, r⟩ :: t) a?
  | broken : Course broken [] none

theorem course_done {a : α} {a? : Option α} {t : List (Exchange Call Reply)}
    (h : Course (done a : Dialogue Call Reply α) t a?) : t = [] ∧ a? = some a := by
  cases h
  exact ⟨rfl, rfl⟩

theorem course_broken {a? : Option α} {t : List (Exchange Call Reply)}
    (h : Course (broken : Dialogue Call Reply α) t a?) : t = [] ∧ a? = none := by
  cases h
  exact ⟨rfl, rfl⟩

theorem course_ask {c : Call} {next : Reply c → Dialogue Call Reply α}
    {t : List (Exchange Call Reply)} {a? : Option α} (h : Course (ask c next) t a?) :
    ∃ r t', t = ⟨c, r⟩ :: t' ∧ Course (next r) t' a? := by
  cases h with
  | ask r h => exact ⟨r, _, rfl, h⟩

/-- A dialogue that goes on after a result takes the course of its first part, and then that of
the second part, unless the first one breaks off. -/
theorem course_bind {d : Dialogue Call Reply α} {f : α → Dialogue Call Reply β}
    {t : List (Exchange Call Reply)} {b? : Option β} (h : Course (d >>= f) t b?) :
    (∃ t₁ t₂ a, t = t₁ ++ t₂ ∧ Course d t₁ (some a) ∧ Course (f a) t₂ b?) ∨
      (b? = none ∧ Course d t none) := by
  induction d generalizing t with
  | done a => exact .inl ⟨[], t, a, rfl, .done a, h⟩
  | ask c next ih =>
    obtain ⟨r, t', rfl, h'⟩ := course_ask h
    rcases ih r h' with ⟨t₁, t₂, a, rfl, h₁, h₂⟩ | ⟨hnone, h₁⟩
    · exact .inl ⟨⟨c, r⟩ :: t₁, t₂, a, rfl, .ask r h₁, h₂⟩
    · exact .inr ⟨hnone, .ask r h₁⟩
  | broken =>
    obtain ⟨rfl, rfl⟩ := course_broken h
    exact .inr ⟨rfl, .broken⟩

/-- A call, and then whatever is done with the reply. -/
theorem course_call {c : Call} {f : Reply c → Dialogue Call Reply β}
    {t : List (Exchange Call Reply)} {b? : Option β} (h : Course (call c >>= f) t b?) :
    ∃ r t', t = ⟨c, r⟩ :: t' ∧ Course (f r) t' b? := course_ask h

/-- A play takes one of the courses. -/
theorem course_of_play {ω : Type} (answer : (c : Call) → ω → Reply c × ω)
    (d : Dialogue Call Reply α) (w : ω) :
    Course d (play answer d w).exchanges (play answer d w).result? := by
  induction d generalizing w with
  | done a => exact .done a
  | ask c next ih => exact .ask _ (ih _ _)
  | broken => exact .broken

/-! ### Plays call by call -/

section Answered

variable {ω : Type} {answer : (c : Call) → ω → Reply c × ω}

/-- The state of the outside after some calls. -/
def after (answer : (c : Call) → ω → Reply c × ω) (w : ω) (t : List (Exchange Call Reply)) : ω :=
  t.foldl (fun w x => (answer x.call w).2) w

@[simp] theorem after_nil (w : ω) : after answer w [] = w := rfl

@[simp] theorem after_cons (w : ω) (x : Exchange Call Reply) (t : List (Exchange Call Reply)) :
    after answer w (x :: t) = after answer (answer x.call w).2 t := rfl

@[simp] theorem after_append (w : ω) (t₁ t₂ : List (Exchange Call Reply)) :
    after answer w (t₁ ++ t₂) = after answer (after answer w t₁) t₂ := List.foldl_append

/-- Each reply is the one that the outside gives, in the state that it is in by then. -/
def Answered (answer : (c : Call) → ω → Reply c × ω) : ω → List (Exchange Call Reply) → Prop
  | _, [] => True
  | w, x :: t => x.reply = (answer x.call w).1 ∧ Answered answer (answer x.call w).2 t

@[simp] theorem answered_nil (w : ω) : Answered answer w [] := trivial

@[simp] theorem answered_cons {w : ω} {x : Exchange Call Reply} {t : List (Exchange Call Reply)} :
    Answered answer w (x :: t) ↔
      x.reply = (answer x.call w).1 ∧ Answered answer (answer x.call w).2 t := Iff.rfl

theorem answered_append {w : ω} {t₁ t₂ : List (Exchange Call Reply)} :
    Answered answer w (t₁ ++ t₂) ↔
      Answered answer w t₁ ∧ Answered answer (after answer w t₁) t₂ := by
  induction t₁ generalizing w with
  | nil => exact (and_iff_right trivial).symm
  | cons x t₁ ih => rw [List.cons_append, answered_cons, answered_cons, ih, and_assoc, after_cons]

/-- In a play each call gets its reply from the outside, and the last state is left. -/
theorem answered_play (answer : (c : Call) → ω → Reply c × ω) (d : Dialogue Call Reply α) (w : ω) :
    Answered answer w (play answer d w).exchanges ∧
      (play answer d w).state = after answer w (play answer d w).exchanges := by
  induction d generalizing w with
  | done a => exact ⟨trivial, rfl⟩
  | ask c next ih =>
    obtain ⟨hanswered, hstate⟩ := ih (answer c w).1 (answer c w).2
    rw [play_ask]
    exact ⟨⟨rfl, hanswered⟩, hstate⟩
  | broken => exact ⟨trivial, rfl⟩

end Answered

/-- What is made of a result takes no calls. -/
theorem exchanges_bind_done {ω : Type} {answer : (c : Call) → ω → Reply c × ω}
    (d : Dialogue Call Reply α) (f : α → β) (w : ω) :
    (play answer (d >>= fun a => done (f a)) w).exchanges = (play answer d w).exchanges := by
  rw [play_bind]
  cases (play answer d w).result? with
  | none => rfl
  | some a => exact List.append_nil _

/-! ### Dialogues that never break off -/

/-- Whatever the outside answers, the dialogue ends with a result. -/
inductive Returns : Dialogue Call Reply α → Prop
  | done (a : α) : Returns (done a)
  | ask {c : Call} {next : Reply c → Dialogue Call Reply α} :
      (∀ r, Returns (next r)) → Returns (ask c next)

theorem Returns.bind {d : Dialogue Call Reply α} {f : α → Dialogue Call Reply β}
    (hd : Returns d) (hf : ∀ a, Returns (f a)) : Returns (d >>= f) := by
  induction hd with
  | done a => exact hf a
  | ask _ ih => exact .ask ih

theorem Returns.play {ω : Type} {d : Dialogue Call Reply α} (h : Returns d)
    (answer : (c : Call) → ω → Reply c × ω) (w : ω) :
    ∃ a, (play answer d w).result? = some a := by
  induction h generalizing w with
  | done a => exact ⟨a, rfl⟩
  | ask _ ih => exact ih _ _

/-! ### Calls that are carried out by other calls -/

section Through

variable {Call₂ : Type} {Reply₂ : Call₂ → Type}
  {carry : (c : Call) → Dialogue Call₂ Reply₂ (Reply c)}

/-- The second calls carry out the first ones in turn, each with the reply that it got. -/
inductive Carried (carry : (c : Call) → Dialogue Call₂ Reply₂ (Reply c)) :
    List (Exchange Call Reply) → List (Exchange Call₂ Reply₂) → Prop
  | nil : Carried carry [] []
  | cons {c : Call} {r : Reply c} {t : List (Exchange Call Reply)}
      {u u' : List (Exchange Call₂ Reply₂)} :
      Runs (carry c) u r → Carried carry t u' → Carried carry (⟨c, r⟩ :: t) (u ++ u')

theorem carried_nil {u : List (Exchange Call₂ Reply₂)} (h : Carried carry [] u) : u = [] := by
  cases h
  rfl

theorem carried_cons {x : Exchange Call Reply} {t : List (Exchange Call Reply)}
    {u : List (Exchange Call₂ Reply₂)} (h : Carried carry (x :: t) u) :
    ∃ u₁ u₂, u = u₁ ++ u₂ ∧ Runs (carry x.call) u₁ x.reply ∧ Carried carry t u₂ := by
  cases h with
  | cons h h' => exact ⟨_, _, rfl, h, h'⟩

theorem carried_append {t t' : List (Exchange Call Reply)} {u : List (Exchange Call₂ Reply₂)}
    (h : Carried carry (t ++ t') u) :
    ∃ u₁ u₂, u = u₁ ++ u₂ ∧ Carried carry t u₁ ∧ Carried carry t' u₂ := by
  induction t generalizing u with
  | nil => exact ⟨[], u, rfl, .nil, h⟩
  | cons x t ih =>
    obtain ⟨u₁, u₂, rfl, hx, ht⟩ := carried_cons h
    obtain ⟨u₃, u₄, rfl, ht, ht'⟩ := ih ht
    exact ⟨u₁ ++ u₃, u₄, (List.append_assoc u₁ u₃ u₄).symm, .cons hx ht, ht'⟩

/-- A dialogue whose calls are carried out by others runs as it does by itself, and each of its
calls runs as the calls that carry it out. -/
theorem runs_through {d : Dialogue Call Reply α} {u : List (Exchange Call₂ Reply₂)} {a : α} :
    Runs (d.through carry) u a ↔ ∃ t, Runs d t a ∧ Carried carry t u := by
  induction d generalizing u with
  | done b =>
    rw [through_done, runs_done]
    constructor
    · rintro ⟨rfl, rfl⟩
      exact ⟨[], .done a, .nil⟩
    · rintro ⟨t, h, ht⟩
      cases h
      cases ht
      exact ⟨rfl, rfl⟩
  | ask c next ih =>
    rw [through_ask, runs_bind]
    constructor
    · rintro ⟨u₁, u₂, r, rfl, hcall, hnext⟩
      obtain ⟨t, ht, hcarried⟩ := (ih r).1 hnext
      exact ⟨⟨c, r⟩ :: t, .ask r ht, .cons hcall hcarried⟩
    · rintro ⟨t, h, hcarried⟩
      cases h with
      | ask r h =>
        obtain ⟨u₁, u₂, rfl, hcall, hcarried⟩ := carried_cons hcarried
        exact ⟨u₁, u₂, r, rfl, hcall, (ih r).2 ⟨_, h, hcarried⟩⟩
  | broken =>
    rw [through_broken]
    constructor
    · intro h
      cases h
    · rintro ⟨t, h, -⟩
      cases h

end Through

/-! ### Dialogues that go on further -/

/-- The second dialogue does what the first one does, and goes on where that breaks off. -/
inductive Below : Dialogue Call Reply α → Dialogue Call Reply α → Prop
  | done (a : α) : Below (done a) (done a)
  | ask {c : Call} {next next' : Reply c → Dialogue Call Reply α} :
      (∀ r, Below (next r) (next' r)) → Below (ask c next) (ask c next')
  | broken (d : Dialogue Call Reply α) : Below broken d

theorem Below.refl (d : Dialogue Call Reply α) : Below d d := by
  induction d with
  | done a => exact .done a
  | ask c next ih => exact .ask ih
  | broken => exact .broken _

theorem Below.bind {d d' : Dialogue Call Reply α} {f f' : α → Dialogue Call Reply β}
    (hd : Below d d') (hf : ∀ a, Below (f a) (f' a)) : Below (d >>= f) (d' >>= f') := by
  induction hd with
  | done a => exact hf a
  | ask _ ih => exact .ask ih
  | broken d' => exact .broken _

theorem Below.play_eq {ω : Type} {d d' : Dialogue Call Reply α} (h : Below d d')
    {answer : (c : Call) → ω → Reply c × ω} {w : ω}
    (hd : (Dialogue.play answer d w).result?.isSome) :
    Dialogue.play answer d' w = Dialogue.play answer d w := by
  induction h generalizing w with
  | done a => rfl
  | ask _ ih =>
    rw [play_ask] at hd
    rw [play_ask, play_ask, ih _ hd]
  | broken d' => cases hd

/-! ### Plays that end well -/

section Yields

variable {ω : Type} {answer : (c : Call) → ω → Reply c × ω}

/-- The play against this outside ends, and its result and the state that is left fulfil a
condition. -/
def Yields (answer : (c : Call) → ω → Reply c × ω) (d : Dialogue Call Reply α) (w : ω)
    (P : α → ω → Prop) : Prop :=
  ∃ a, (play answer d w).result? = some a ∧ P a (play answer d w).state

theorem Yields.done {a : α} {w : ω} {P : α → ω → Prop} (h : P a w) :
    Yields answer (done a : Dialogue Call Reply α) w P := ⟨a, rfl, h⟩

theorem Yields.ask {c : Call} {next : Reply c → Dialogue Call Reply α} {w : ω}
    {P : α → ω → Prop} (h : Yields answer (next (answer c w).1) (answer c w).2 P) :
    Yields answer (ask c next) w P := h

theorem Yields.bind {d : Dialogue Call Reply α} {f : α → Dialogue Call Reply β} {w : ω}
    {P : α → ω → Prop} {Q : β → ω → Prop} (hd : Yields answer d w P)
    (hf : ∀ a w', P a w' → Yields answer (f a) w' Q) : Yields answer (d >>= f) w Q := by
  obtain ⟨a, ha, hp⟩ := hd
  obtain ⟨b, hb, hq⟩ := hf a _ hp
  refine ⟨b, ?_, ?_⟩
  · rw [play_bind, ha]
    exact hb
  · rw [play_bind, ha]
    exact hq

end Yields

end RemoteHost.Dialogue
