/-
RemoteHost/Proofs/Ssh/ConnectionLine.lean

The line of connections of a session, as the calls to the outside show it.

Connections are numbered by the logins that succeeded.  A `Line` is what an observer keeps in mind
while the calls go by: how many logins there have been, and whether the latest connection is still
open.  Calls are `Orderly` when everything that goes over a connection goes over the latest one
while it is open, and when a login is made only while none is open, always to one address with
one policy.

Orderly calls are put together from orderly parts (`orderly_append`), and what they mean at any one
call, with what went before it, is in `Line.Tells` and `Orderly.cut`.
-/
import RemoteHost.Proofs.Ssh.WaitCourse

namespace RemoteHost.Ssh

/-! ### Calls -/

namespace Call

/-- The connection that a call goes over. -/
def connection? : Call → Option Nat
  | execute n _ | start n _ | sendFile n _ _ _ | close n => some n
  | dial _ _ | probe _ _ | sleep _ | now | record _ | report _ => none

/-- The call neither goes over a connection nor makes one. -/
def isQuiet : Call → Bool
  | dial _ _ | execute _ _ | start _ _ | sendFile _ _ _ _ | close _ => false
  | probe _ _ | sleep _ | now | record _ | report _ => true

/-- The call closes a connection. -/
def isClose : Call → Bool
  | close _ => true
  | _ => false

theorem exists_eq_close {c : Call} (h : c.isClose) : ∃ n, c = close n := by
  cases c <;> simp_all [isClose]

theorem connection?_of_isQuiet {c : Call} (h : c.isQuiet) : c.connection? = none := by
  cases c <;> simp_all [isQuiet, connection?]

theorem not_isClose_of_isQuiet {c : Call} (h : c.isQuiet) : c.isClose = false := by
  cases c <;> simp_all [isQuiet, isClose]

end Call

/-- The exchange is a login that succeeds. -/
def isLogin : Exchange Call Call.Reply → Bool
  | ⟨.dial _ _, (reply : Outcome Unit)⟩ => reply.isOk
  | _ => false

theorem not_isLogin_of_isQuiet {x : Exchange Call Call.Reply} (h : x.call.isQuiet) :
    isLogin x = false := by
  obtain ⟨c, reply⟩ := x
  cases c with
  | dial address policy => cases h
  | _ => rfl

theorem not_isLogin_of_connection? {x : Exchange Call Call.Reply} {n : Nat}
    (h : x.call.connection? = some n) : isLogin x = false := by
  obtain ⟨c, reply⟩ := x
  cases c with
  | dial address policy => cases h
  | _ => rfl

/-- The number of logins that succeeded. -/
def logins (t : Calls) : Nat := t.countP isLogin

@[simp] theorem logins_append (t₁ t₂ : Calls) : logins (t₁ ++ t₂) = logins t₁ + logins t₂ :=
  List.countP_append

theorem logins_singleton {x : Exchange Call Call.Reply} (h : isLogin x) : logins [x] = 1 :=
  List.countP_singleton.trans (if_pos h)

theorem not_logins_singleton {x : Exchange Call Call.Reply} (h : ¬ isLogin x) : logins [x] = 0 :=
  List.countP_singleton.trans (if_neg h)

/-! ### Lines -/

/-- What an observer of the calls keeps in mind. -/
structure Line where
  logins : Nat
  /-- The connection of the latest login is open. -/
  isOpen : Bool

namespace Line

/-- Nothing has happened. -/
def start : Line := ⟨0, false⟩

/-- The open connection. -/
def live (l : Line) : Option Nat := if l.isOpen then some l.logins else none

theorem live_eq_some {l : Line} {n : Nat} (h : l.live = some n) :
    l.isOpen = true ∧ n = l.logins := by
  unfold live at h
  split at h
  · next hopen => exact ⟨hopen, (Option.some.inj h).symm⟩
  · cases h

/-- What the observer keeps in mind after one more exchange. -/
def after (l : Line) (x : Exchange Call Call.Reply) : Line :=
  if isLogin x then ⟨l.logins + 1, true⟩
  else if x.call.isClose then ⟨l.logins, false⟩
  else l

/-- What the observer keeps in mind after several exchanges. -/
def afterAll (l : Line) (t : Calls) : Line := t.foldl after l

@[simp] theorem afterAll_cons (l : Line) (x : Exchange Call Call.Reply) (t : Calls) :
    l.afterAll (x :: t) = (l.after x).afterAll t := rfl

@[simp] theorem afterAll_append (l : Line) (t₁ t₂ : Calls) :
    l.afterAll (t₁ ++ t₂) = (l.afterAll t₁).afterAll t₂ := List.foldl_append

section

variable {l : Line} {address : String} {policy : Policy}

/-- A call is in order. -/
def Admits (l : Line) (address : String) (policy : Policy) (c : Call) : Prop :=
  (∀ n, c.connection? = some n → l.live = some n) ∧
    ∀ a p, c = .dial a p → l.isOpen = false ∧ a = address ∧ p = policy

/-- Calls are in order, one after the other. -/
def Orderly (l : Line) (address : String) (policy : Policy) : Calls → Prop
  | [] => True
  | x :: t => l.Admits address policy x.call ∧ (l.after x).Orderly address policy t

@[simp] theorem orderly_cons {x : Exchange Call Call.Reply} {t : Calls} :
    l.Orderly address policy (x :: t) ↔
      l.Admits address policy x.call ∧ (l.after x).Orderly address policy t := Iff.rfl

theorem orderly_append {t₁ t₂ : Calls} :
    l.Orderly address policy (t₁ ++ t₂) ↔
      l.Orderly address policy t₁ ∧ (l.afterAll t₁).Orderly address policy t₂ := by
  induction t₁ generalizing l with
  | nil => exact (and_iff_right trivial).symm
  | cons x t₁ ih => rw [List.cons_append, orderly_cons, orderly_cons, ih, and_assoc, afterAll_cons]

/-! ### Single calls -/

theorem admits_quiet {c : Call} (h : c.isQuiet) : l.Admits address policy c := by
  constructor
  · intro n hn
    rw [Call.connection?_of_isQuiet h] at hn
    cases hn
  · rintro a p rfl
    cases h

/-- A call over the open connection is in order. -/
theorem admits_live {c : Call} {n : Nat} (hlive : l.live = some n) (hc : c.connection? = some n) :
    l.Admits address policy c := by
  constructor
  · intro m hm
    rw [hlive, ← hc, hm]
  · rintro a p rfl
    cases hc

/-- A login is in order while no connection is open. -/
theorem admits_dial (hopen : l.isOpen = false) :
    l.Admits address policy (.dial address policy) := by
  refine ⟨nofun, ?_⟩
  intro a p heq
  cases heq
  exact ⟨hopen, rfl, rfl⟩

theorem after_quiet {x : Exchange Call Call.Reply} (h : x.call.isQuiet) : l.after x = l := by
  unfold after
  rw [not_isLogin_of_isQuiet h, Call.not_isClose_of_isQuiet h]
  rfl

theorem after_live {x : Exchange Call Call.Reply} {n : Nat} (hn : x.call.connection? = some n)
    (hclose : x.call.isClose = false) : l.after x = l := by
  unfold after
  rw [not_isLogin_of_connection? hn, hclose]
  rfl

/-- Each of the calls is quiet, or it goes over this connection and does not close it. -/
def Steady (live : Option Nat) (t : Calls) : Prop :=
  ∀ x ∈ t, x.call.isQuiet = true ∨
    ∃ n, live = some n ∧ x.call.connection? = some n ∧ x.call.isClose = false

theorem steady_nil {live : Option Nat} : Steady live [] := fun _ hx => absurd hx List.not_mem_nil

theorem steady_quiet {live : Option Nat} {x : Exchange Call Call.Reply} (h : x.call.isQuiet)
    {t : Calls} (ht : Steady live t) : Steady live (x :: t) :=
  List.forall_mem_cons.2 ⟨.inl h, ht⟩

theorem steady_live {n : Nat} {x : Exchange Call Call.Reply} (hn : x.call.connection? = some n)
    (hclose : x.call.isClose = false) {t : Calls} (ht : Steady (some n) t) :
    Steady (some n) (x :: t) :=
  List.forall_mem_cons.2 ⟨.inr ⟨n, rfl, hn, hclose⟩, ht⟩

theorem Steady.append {live : Option Nat} {t₁ t₂ : Calls} (h₁ : Steady live t₁)
    (h₂ : Steady live t₂) : Steady live (t₁ ++ t₂) :=
  List.forall_mem_append.2 ⟨h₁, h₂⟩

theorem steady_of_quiet {live : Option Nat} {t : Calls} (h : ∀ x ∈ t, x.call.isQuiet) :
    Steady live t := fun x hx => .inl (h x hx)

/-- Calls that use the open connection without closing it are in order and change nothing. -/
theorem orderly_of_steady {t : Calls} (h : Steady l.live t) :
    l.Orderly address policy t ∧ l.afterAll t = l := by
  induction t with
  | nil => exact ⟨trivial, rfl⟩
  | cons x t ih =>
    obtain ⟨hx, ht⟩ := List.forall_mem_cons.1 h
    obtain ⟨horderly, hafter⟩ := ih ht
    rw [orderly_cons, afterAll_cons]
    rcases hx with hquiet | ⟨n, hlive, hn, hclose⟩
    · rw [after_quiet hquiet]
      exact ⟨⟨admits_quiet hquiet, horderly⟩, hafter⟩
    · rw [after_live hn hclose]
      exact ⟨⟨admits_live hlive hn, horderly⟩, hafter⟩

/-- Where no connection is open, such calls are all quiet. -/
theorem Steady.quiet {t : Calls} (h : Steady none t) : ∀ x ∈ t, x.call.isQuiet := by
  intro x hx
  rcases h x hx with hquiet | ⟨n, hnone, -⟩
  · exact hquiet
  · cases hnone

/-! ### What went before -/

/-- What a line tells of the calls that it comes from. -/
structure Tells (l : Line) (before : Calls) : Prop where
  logins_eq : l.logins = Ssh.logins before
  opened : l.isOpen = true → 0 < l.logins
  /-- A connection that was closed is an earlier one, or the latest, which then is not open. -/
  of_closed : ∀ x ∈ before, ∀ n, x.call = .close n →
    n < l.logins ∨ (n = l.logins ∧ l.isOpen = false)
  /-- Where no connection is open, the latest one has been closed. -/
  closed : l.isOpen = false → l.logins = 0 ∨ ∃ x ∈ before, x.call = .close l.logins

theorem tells_start : Tells start [] where
  logins_eq := rfl
  opened := nofun
  of_closed _ hx := absurd hx List.not_mem_nil
  closed _ := .inl rfl

theorem Tells.step {before : Calls} {x : Exchange Call Call.Reply} (h : l.Tells before)
    (hx : l.Admits address policy x.call) : (l.after x).Tells (before ++ [x]) := by
  unfold after
  by_cases hlogin : isLogin x
  · -- The new connection has a number of its own.
    rw [if_pos hlogin]
    refine ⟨?_, fun _ => Nat.succ_pos l.logins, ?_, nofun⟩
    · rw [logins_append, ← h.logins_eq, logins_singleton hlogin]
    · intro y hy n hclose
      left
      rcases List.mem_append.1 hy with hy | hy
      · have := h.of_closed y hy n hclose
        show n < l.logins + 1
        omega
      · rw [List.mem_singleton.1 hy] at hclose
        rw [not_isLogin_of_connection? (n := n) (by rw [hclose]; rfl)] at hlogin
        cases hlogin
  · have hlogins : l.logins = Ssh.logins (before ++ [x]) := by
      rw [logins_append, ← h.logins_eq, not_logins_singleton hlogin, Nat.add_zero]
    rw [if_neg hlogin]
    by_cases hclose : x.call.isClose
    · -- What is closed is the latest connection.
      obtain ⟨m, hm⟩ := Call.exists_eq_close hclose
      obtain ⟨-, rfl⟩ := live_eq_some (hx.1 m (by rw [hm]; rfl))
      rw [if_pos hclose]
      refine ⟨hlogins, nofun, ?_, ?_⟩
      · intro y hy n hn
        rcases List.mem_append.1 hy with hy | hy
        · exact (h.of_closed y hy n hn).imp_right fun hlatest => ⟨hlatest.1, rfl⟩
        · rw [List.mem_singleton.1 hy] at hn
          rw [hm] at hn
          cases hn
          exact .inr ⟨rfl, rfl⟩
      · intro _
        exact .inr ⟨x, List.mem_append_right _ (List.mem_singleton_self x), hm⟩
    · rw [if_neg hclose]
      refine ⟨hlogins, h.opened, ?_, ?_⟩
      · intro y hy n hn
        rcases List.mem_append.1 hy with hy | hy
        · exact h.of_closed y hy n hn
        · rw [List.mem_singleton.1 hy] at hn
          rw [hn] at hclose
          exact absurd rfl hclose
      · intro hopen
        rcases h.closed hopen with hnone | ⟨y, hy, hn⟩
        · exact .inl hnone
        · exact .inr ⟨y, List.mem_append_left _ hy, hn⟩

/-- In orderly calls, each call is admitted by a line that tells of what went before. -/
theorem Orderly.cut {before earlier later : Calls} {x : Exchange Call Call.Reply}
    (h : l.Orderly address policy (earlier ++ x :: later)) (hl : l.Tells before) :
    ∃ l' : Line, l'.Tells (before ++ earlier) ∧ l'.Admits address policy x.call := by
  induction earlier generalizing l before with
  | nil =>
    rw [List.append_nil]
    exact ⟨l, hl, h.1⟩
  | cons y earlier ih =>
    rw [List.append_cons]
    exact ih h.2 (hl.step h.1)

end

end Line

end RemoteHost.Ssh
