/-
RemoteHost/Dialogue.lean

Conversations with the outside world.

What an operation does depends on what the outside answers on the way: a command's
output, a probe, the clock.  A `Dialogue` is such an operation as plain data: it is
done, or it makes a call and goes on with the reply, whatever the reply is.  So a
statement about every behaviour of the outside is a statement about every function
that answers calls, and `play` plays a dialogue against one and writes down each
call with its reply.

A dialogue may also break off without a result: an instant is beyond the range of
the clock, or a bound on the number of turns is used up.
-/

namespace RemoteHost

/-- An operation that makes calls to the outside. -/
inductive Dialogue (Call : Type) (Reply : Call → Type) (α : Type) : Type where
  /-- Finished, with a result. -/
  | done (result : α)
  /-- Make a call and go on with its reply. -/
  | ask (call : Call) (next : Reply call → Dialogue Call Reply α)
  /-- Broken off. -/
  | broken

/-- A call and the reply to it. -/
structure Exchange (Call : Type) (Reply : Call → Type) where
  call : Call
  reply : Reply call

namespace Dialogue

variable {Call : Type} {Reply : Call → Type} {α β γ : Type}

/-- Make one call. -/
def call (c : Call) : Dialogue Call Reply (Reply c) := ask c done

/-- Go on after a result. -/
def andThen : Dialogue Call Reply α → (α → Dialogue Call Reply β) → Dialogue Call Reply β
  | done a, f => f a
  | ask c next, f => ask c fun r => (next r).andThen f
  | broken, _ => broken

instance : Monad (Dialogue Call Reply) where
  pure := done
  bind := andThen

@[simp] theorem pure_eq (a : α) : (pure a : Dialogue Call Reply α) = done a := rfl

@[simp] theorem done_bind (a : α) (f : α → Dialogue Call Reply β) : done a >>= f = f a := rfl

@[simp] theorem ask_bind (c : Call) (next : Reply c → Dialogue Call Reply α)
    (f : α → Dialogue Call Reply β) : ask c next >>= f = ask c fun r => next r >>= f := rfl

@[simp] theorem broken_bind (f : α → Dialogue Call Reply β) :
    (broken : Dialogue Call Reply α) >>= f = broken := rfl

theorem bind_done (d : Dialogue Call Reply α) : d >>= done = d := by
  induction d with
  | done a => rfl
  | ask c next ih => exact congrArg (ask c) (funext ih)
  | broken => rfl

theorem bind_bind (d : Dialogue Call Reply α) (f : α → Dialogue Call Reply β)
    (g : β → Dialogue Call Reply γ) : d >>= f >>= g = d >>= fun a => f a >>= g := by
  induction d with
  | done a => rfl
  | ask c next ih => exact congrArg (ask c) (funext ih)
  | broken => rfl

instance : LawfulMonad (Dialogue Call Reply) :=
  LawfulMonad.mk' _ (fun d => bind_done d) (fun _ _ => rfl) (fun d f g => bind_bind d f g)

/-! ### Carrying calls out by other calls -/

/-- The dialogue in which every call is itself a dialogue, about calls of another
kind. -/
def through {Call₂ : Type} {Reply₂ : Call₂ → Type}
    (carry : (c : Call) → Dialogue Call₂ Reply₂ (Reply c)) :
    Dialogue Call Reply α → Dialogue Call₂ Reply₂ α
  | done a => done a
  | ask c next => carry c >>= fun r => (next r).through carry
  | broken => broken

section Through

variable {Call₂ : Type} {Reply₂ : Call₂ → Type}
  (carry : (c : Call) → Dialogue Call₂ Reply₂ (Reply c))

@[simp] theorem through_done (a : α) :
    (done a : Dialogue Call Reply α).through carry = done a := rfl

@[simp] theorem through_ask (c : Call) (next : Reply c → Dialogue Call Reply α) :
    (ask c next).through carry = carry c >>= fun r => (next r).through carry := rfl

@[simp] theorem through_broken :
    (broken : Dialogue Call Reply α).through carry = broken := rfl

/-- What goes on after a result goes on with the same calls carried out. -/
theorem through_bind (d : Dialogue Call Reply α) (f : α → Dialogue Call Reply β) :
    (d >>= f).through carry = d.through carry >>= fun a => (f a).through carry := by
  induction d with
  | done a => rfl
  | ask c next ih =>
    simp only [ask_bind, through_ask, ih]
    exact (bind_bind (carry c) _ _).symm
  | broken => rfl

end Through

/-! ### Playing a dialogue -/

/-- What came of a dialogue: its result, if it did not break off, the calls with
their replies in order, and the state of the outside. -/
structure Played (Call : Type) (Reply : Call → Type) (σ α : Type) where
  result? : Option α
  exchanges : List (Exchange Call Reply)
  state : σ

/-- Play a dialogue against an outside with states of type `σ`. -/
def play {σ : Type} (answer : (c : Call) → σ → Reply c × σ) :
    Dialogue Call Reply α → σ → Played Call Reply σ α
  | done a, s => ⟨some a, [], s⟩
  | ask c next, s =>
    let (r, s) := answer c s
    let p := play answer (next r) s
    { p with exchanges := ⟨c, r⟩ :: p.exchanges }
  | broken, s => ⟨none, [], s⟩

section Play

variable {σ : Type} (answer : (c : Call) → σ → Reply c × σ)

@[simp] theorem play_done (a : α) (s : σ) :
    play answer (done a : Dialogue Call Reply α) s = ⟨some a, [], s⟩ := rfl

@[simp] theorem play_broken (s : σ) :
    play answer (broken : Dialogue Call Reply α) s = ⟨none, [], s⟩ := rfl

theorem play_ask (c : Call) (next : Reply c → Dialogue Call Reply α) (s : σ) :
    play answer (ask c next) s =
      { play answer (next (answer c s).1) (answer c s).2 with
        exchanges := ⟨c, (answer c s).1⟩ ::
          (play answer (next (answer c s).1) (answer c s).2).exchanges } := rfl

/-- A dialogue that goes on after a result plays as its two parts in turn. -/
theorem play_bind (d : Dialogue Call Reply α) (f : α → Dialogue Call Reply β) (s : σ) :
    play answer (d >>= f) s =
      match (play answer d s).result? with
      | some a =>
        { play answer (f a) (play answer d s).state with
          exchanges := (play answer d s).exchanges ++
            (play answer (f a) (play answer d s).state).exchanges }
      | none => ⟨none, (play answer d s).exchanges, (play answer d s).state⟩ := by
  induction d generalizing s with
  | done a => simp
  | ask c next ih =>
    simp only [ask_bind, play_ask, ih]
    split <;> simp_all
  | broken => simp

end Play

end Dialogue

end RemoteHost
