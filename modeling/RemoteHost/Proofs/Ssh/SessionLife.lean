/-
RemoteHost/Proofs/Ssh/SessionLife.lean

The connections of a session from its login to its end.

A session is logged in once and then performs operations in any order, and at last it may be
closed (`life`).  `performances` lists what came of the operations one by one.  By induction on the
operations whole lives are orderly: whatever goes over a connection goes over the latest one while
it is open, and a login is made where the latest connection has been closed (`OneAtATime`).  By
another induction each operation finds the session without a connection exactly where one before
it has lost the host (`performances_cut`, `Standing`).

`one_connection_at_a_time` says both of every life.
-/
import RemoteHost.Proofs.Ssh.ConnectionUse

namespace RemoteHost.Ssh.Session

open Dialogue

variable {s s' : Session} {t : Calls} {l : Line}

/-! ### Operations in turn -/

/-- What came of an operation. -/
structure Performance where
  /-- The session at the beginning. -/
  session : Session
  operation : Operation
  calls : Calls
  result? : Option (Outcome Result × Session)

/-- The operation is a reboot that fails after its command was started. -/
def Performance.LosesHost (p : Performance) : Prop :=
  ∃ r s', p.result? = some (r, s') ∧ Session.LosesHost p.operation p.calls r

theorem Performance.losesHost_iff {p : Performance} {r : Outcome Result}
    (hr : p.result? = some (r, s')) : p.LosesHost ↔ Session.LosesHost p.operation p.calls r := by
  constructor
  · rintro ⟨r₀, s₀, hr₀, h⟩
    rw [hr] at hr₀
    cases hr₀
    exact h
  · intro h
    exact ⟨r, s', hr, h⟩

/-- One of some performances loses the host, the first one or a later one. -/
theorem exists_losesHost_cons {o : Operation} {r : Outcome Result} {ps : List Performance} :
    (∃ q ∈ (⟨s, o, t, some (r, s')⟩ : Performance) :: ps, q.LosesHost) ↔
      Session.LosesHost o t r ∨ ∃ q ∈ ps, q.LosesHost := by
  simp only [List.mem_cons, exists_eq_or_imp]
  exact or_congr_left (Performance.losesHost_iff rfl)

section Play

variable {ω : Type} (answer : (c : Call) → ω → c.Reply × ω)

/-- What came of each of some operations, one after the other. -/
def performances (s : Session) (w : ω) : List Operation → List Performance
  | [] => []
  | o :: os =>
    match play answer (s.perform o) w with
    | ⟨some (r, s'), t, w'⟩ => ⟨s, o, t, some (r, s')⟩ :: performances s' w' os
    | ⟨none, t, _⟩ => [⟨s, o, t, none⟩]

theorem performances_cons (w : ω) (o : Operation) (os : List Operation) :
    performances answer s w (o :: os) =
      match play answer (s.perform o) w with
      | ⟨some (r, s'), t, w'⟩ => ⟨s, o, t, some (r, s')⟩ :: performances answer s' w' os
      | ⟨none, t, _⟩ => [⟨s, o, t, none⟩] := rfl

/-- The operations play one after the other. -/
theorem play_performAll_cons (w : ω) (o : Operation) (os : List Operation) :
    play answer (s.performAll (o :: os)) w =
      match play answer (s.perform o) w with
      | ⟨some (r, s'), t, w'⟩ =>
        let rest := play answer (s'.performAll os) w'
        ⟨rest.result?.map fun x => (r :: x.1, x.2), t ++ rest.exchanges, rest.state⟩
      | ⟨none, t, w'⟩ => ⟨none, t, w'⟩ := by
  rw [performAll, play_bind]
  generalize play answer (s.perform o) w = played
  obtain ⟨_ | ⟨r, s'⟩, t, w'⟩ := played
  · rfl
  · show (_ : Played Call Call.Reply ω _) = _
    simp only [play_bind]
    generalize play answer (s'.performAll os) w' = rest
    obtain ⟨_ | ⟨rs, s''⟩, t', w''⟩ := rest
    · rfl
    · simp

theorem exchanges_performAll (w : ω) (os : List Operation) :
    (play answer (s.performAll os) w).exchanges =
      (performances answer s w os).flatMap (·.calls) := by
  induction os generalizing s w with
  | nil => rfl
  | cons o os ih =>
    rw [play_performAll_cons, performances_cons]
    generalize play answer (s.perform o) w = played
    obtain ⟨_ | ⟨r, s'⟩, t, w'⟩ := played
    · exact (List.append_nil t).symm
    · exact congrArg (t ++ ·) (ih w')

/-- In the performances of a session, each is one of the courses of its operation; nothing but the
connection of the session changes, and that is gone where the host was lost before. -/
theorem performances_cut {w : ω} {os : List Operation} {earlier later : List Performance}
    {p : Performance} (h : performances answer s w os = earlier ++ p :: later) :
    Performed p.session p.operation p.calls p.result? ∧
      p.session = { s with connection := p.session.connection } ∧
      (p.session.connection = none ↔ s.connection = none ∨ ∃ q ∈ earlier, q.LosesHost) := by
  induction os generalizing s w earlier with
  | nil => exact absurd h (by simp [performances])
  | cons o os ih =>
    have hperformed := course_perform (course_of_play answer (s.perform o) w)
    rw [performances_cons] at h
    generalize play answer (s.perform o) w = played at h hperformed
    cases earlier with
    | nil =>
      -- The first operation begins with the session as it is given.
      have hhead : ⟨s, o, played.exchanges, played.result?⟩ = p := by
        obtain ⟨_ | ⟨r, s'⟩, t, w'⟩ := played <;> exact (List.cons.inj h).1
      subst hhead
      refine ⟨hperformed, rfl, (or_iff_left ?_).symm⟩
      rintro ⟨q, hq, -⟩
      cases hq
    | cons q earlier =>
      obtain ⟨_ | ⟨r, s'⟩, t, w'⟩ := played
      · -- The operation breaks off, so nothing comes after it.
        obtain ⟨-, hrest⟩ := List.cons.inj h
        exact absurd hrest (by simp)
      · obtain ⟨rfl, hrest⟩ := List.cons.inj h
        obtain ⟨hp, hsession, hnone⟩ := ih hrest
        refine ⟨hp, ?_, ?_⟩
        · rw [hsession, hperformed.session_eq]
        · rw [hnone, hperformed.connection_eq_none_iff, or_assoc, exists_losesHost_cons]

/-- What is left of the session once every operation has its result. -/
theorem performAll_ends {w : ω} {os : List Operation} {rs : List (Outcome Result)}
    (h : (play answer (s.performAll os) w).result? = some (rs, s')) :
    (performances answer s w os).map (·.operation) = os ∧
      (s'.connection = none ↔
        s.connection = none ∨ ∃ q ∈ performances answer s w os, q.LosesHost) := by
  induction os generalizing s w rs with
  | nil =>
    cases h
    refine ⟨rfl, (or_iff_left ?_).symm⟩
    rintro ⟨q, hq, -⟩
    cases hq
  | cons o os ih =>
    have hperformed := course_perform (course_of_play answer (s.perform o) w)
    rw [play_performAll_cons] at h
    rw [performances_cons]
    generalize play answer (s.perform o) w = played at h hperformed ⊢
    obtain ⟨_ | ⟨r, s₁⟩, t, w'⟩ := played
    · cases h
    · obtain ⟨⟨rs', s₂⟩, hrest, hs⟩ := Option.map_eq_some_iff.1 h
      cases hs
      obtain ⟨hos, hnone⟩ := ih hrest
      refine ⟨congrArg (o :: ·) hos, ?_⟩
      rw [hnone, hperformed.connection_eq_none_iff, or_assoc, exists_losesHost_cons]

/-- Every operation has its turn, unless one before it breaks off. -/
theorem performances_all (w : ω) (os : List Operation) :
    (performances answer s w os).map (·.operation) = os ∨
      ∃ p ∈ performances answer s w os, p.result? = none := by
  induction os generalizing s w with
  | nil => exact .inl rfl
  | cons o os ih =>
    rw [performances_cons]
    generalize play answer (s.perform o) w = played
    obtain ⟨_ | ⟨r, s'⟩, t, w'⟩ := played
    · exact .inr ⟨_, List.mem_cons_self, rfl⟩
    · rcases ih w' with hall | ⟨p, hp, hnone⟩
      · exact .inl (congrArg (o :: ·) hall)
      · exact .inr ⟨p, List.mem_cons_of_mem _ hp, hnone⟩

theorem orderly_performAll (w : ω) (os : List Operation) (hl : s.connection = l.live) :
    let played := play answer (s.performAll os) w
    l.Orderly s.address s.policy played.exchanges ∧ ∀ rs s', played.result? = some (rs, s') →
      s'.connection = (l.afterAll played.exchanges).live := by
  induction os generalizing s w l with
  | nil =>
    refine ⟨trivial, ?_⟩
    rintro rs s' ⟨⟩
    exact hl
  | cons o os ih =>
    have hperformed := course_perform (course_of_play answer (s.perform o) w)
    rw [play_performAll_cons]
    generalize play answer (s.perform o) w = played at hperformed ⊢
    obtain ⟨hfirst, hends⟩ := hperformed.orderly hl
    obtain ⟨_ | ⟨r, s₁⟩, t, w'⟩ := played
    · exact ⟨hfirst, fun rs s' hr => nomatch hr⟩
    · obtain ⟨hrest, hends'⟩ := ih w' (hends r s₁ rfl)
      have haddress : s₁.address = s.address := by rw [hperformed.session_eq]
      have hpolicy : s₁.policy = s.policy := by rw [hperformed.session_eq]
      rw [haddress, hpolicy] at hrest
      refine ⟨Line.orderly_append.2 ⟨hfirst, hrest⟩, fun rs s' hr => ?_⟩
      obtain ⟨⟨rs', s₂⟩, hs₂, heq⟩ := Option.map_eq_some_iff.1 hr
      cases heq
      rw [Line.afterAll_append]
      exact hends' rs' s₂ hs₂

end Play

/-! ### Lives -/

/-- Log in, with a polling policy and a reboot command. -/
def opened (c : Config) (polling : PollPolicy) (rebootCommand : String) :
    Talk (Outcome Session) := do
  let r ← connect c
  pure (r.map fun s => { s with polling, rebootCommand })

/-- Perform operations one after the other and, if it is wanted, end the session. -/
def work (s : Session) (os : List Operation) (closes : Bool) : Talk (List (Outcome Result)) := do
  let (rs, s) ← s.performAll os
  if closes then
    let _ ← s.close
  pure rs

/-- Log in and work on the host; the results are those of the operations. -/
def life (c : Config) (polling : PollPolicy) (rebootCommand : String) (os : List Operation)
    (closes : Bool) : Talk (Outcome (List (Outcome Result))) := do
  match ← opened c polling rebootCommand with
  | .error e => pure (.error e)
  | .ok s => do
    let rs ← s.work os closes
    pure (.ok rs)

/-- The session after a login. -/
def loggedInTo (c : Config) (policy : Policy) (polling : PollPolicy) (rebootCommand : String) :
    Session :=
  { address := c.address, policy, polling, rebootCommand, connection := some 1 }

/-- The courses of a login. -/
inductive Opened (c : Config) (polling : PollPolicy) (rebootCommand : String) :
    Calls → Outcome Session → Prop
  /-- The configuration gives no policy. -/
  | unresolved {e : Failure} (hresolve : c.resolve = .error e) :
      Opened c polling rebootCommand [] (.error e)
  /-- The host turns the login away. -/
  | refused {policy : Policy} (hresolve : c.resolve = .ok policy) (e : Failure) :
      Opened c polling rebootCommand [⟨.dial c.address policy, (.error e : Outcome Unit)⟩]
        (.error e)
  | loggedIn {policy : Policy} (hresolve : c.resolve = .ok policy) :
      Opened c polling rebootCommand [⟨.dial c.address policy, (.ok () : Outcome Unit)⟩]
        (.ok (loggedInTo c policy polling rebootCommand))

theorem course_opened {c : Config} {polling : PollPolicy} {rebootCommand : String}
    {r? : Option (Outcome Session)} (h : Course (opened c polling rebootCommand) t r?) :
    ∃ r, r? = some r ∧ Opened c polling rebootCommand t r := by
  unfold opened connect at h
  cases hresolve : c.resolve with
  | error e =>
    simp only [hresolve] at h
    obtain ⟨rfl, rfl⟩ := course_done h
    exact ⟨_, rfl, .unresolved hresolve⟩
  | ok policy =>
    simp only [hresolve] at h
    obtain ⟨reply, t', rfl, h'⟩ := course_call h
    obtain ⟨rfl, rfl⟩ := course_done h'
    cases reply with
    | ok u => exact ⟨_, rfl, .loggedIn hresolve⟩
    | error e => exact ⟨_, rfl, .refused hresolve e⟩

theorem course_close {r? : Option (Outcome Unit)} (h : Course s.close t r?) :
    (s.connection = none ∧ t = []) ∨
      ∃ n reply, s.connection = some n ∧ t = [⟨.close n, reply⟩] := by
  unfold close at h
  cases hlive : s.connection with
  | none =>
    simp only [hlive] at h
    obtain ⟨rfl, rfl⟩ := course_done h
    exact .inl ⟨rfl, rfl⟩
  | some n =>
    simp only [hlive] at h
    obtain ⟨reply, t', rfl, h'⟩ := course_ask h
    obtain ⟨rfl, rfl⟩ := course_done h'
    exact .inr ⟨n, reply, rfl, rfl⟩

section Life

variable {ω : Type} {answer : (c : Call) → ω → c.Reply × ω} {w : ω} {c : Config}
  {polling : PollPolicy} {rebootCommand : String} {os : List Operation} {closes : Bool}

/-- Where the login fails, nothing else happens. -/
theorem exchanges_life_error {e : Failure}
    (h : (play answer (opened c polling rebootCommand) w).result? = some (.error e)) :
    (play answer (life c polling rebootCommand os closes) w).exchanges =
      (play answer (opened c polling rebootCommand) w).exchanges := by
  unfold life
  rw [play_bind, h]
  exact List.append_nil _

/-- After a login, the work on the host follows. -/
theorem exchanges_life_ok
    (h : (play answer (opened c polling rebootCommand) w).result? = some (.ok s)) :
    (play answer (life c polling rebootCommand os closes) w).exchanges =
      (play answer (opened c polling rebootCommand) w).exchanges ++
        (play answer (s.work os closes)
          (play answer (opened c polling rebootCommand) w).state).exchanges := by
  unfold life
  rw [play_bind, h]
  exact congrArg (_ ++ ·) (exchanges_bind_done (s.work os closes) Except.ok _)

/-- The work on a host is the operations and then, where each of them has its result and there
still is a connection, its end if it is wanted. -/
theorem exchanges_work (answer : (c : Call) → ω → c.Reply × ω) (s : Session) (w : ω)
    (os : List Operation) (closes : Bool) :
    ∃ closing : Calls,
      (play answer (s.work os closes) w).exchanges =
        (play answer (s.performAll os) w).exchanges ++ closing ∧
      (closing = [] ∨ ∃ rs s' n reply,
        (play answer (s.performAll os) w).result? = some (rs, s') ∧ s'.connection = some n ∧
          closing = [⟨.close n, reply⟩]) := by
  unfold work
  rw [play_bind]
  cases hr : (play answer (s.performAll os) w).result? with
  | none => exact ⟨[], (List.append_nil _).symm, .inl rfl⟩
  | some r =>
    obtain ⟨rs, s'⟩ := r
    cases closes with
    | false => exact ⟨[], rfl, .inl rfl⟩
    | true =>
      refine ⟨_, rfl, ?_⟩
      generalize (play answer (s.performAll os) w).state = w'
      have hcourse := course_of_play answer s'.close w'
      rw [← exchanges_bind_done s'.close (fun _ => rs)] at hcourse
      rcases course_close hcourse with ⟨-, hnone⟩ | ⟨n, reply, hlive, hclose⟩
      · exact .inl hnone
      · exact .inr ⟨rs, s', n, reply, rfl, hlive, hclose⟩

end Life

/-! ### One connection at a time -/

/-- What holds of every call, with the calls that went before it. -/
structure OneAtATime (c : Config) (t : Calls) : Prop where
  /-- What goes over a connection goes over that of the latest login, and that has not been
  closed. -/
  over_latest : ∀ earlier x later n, t = earlier ++ x :: later → x.call.connection? = some n →
    0 < n ∧ n = logins earlier ∧ ∀ y ∈ earlier, y.call ≠ .close n
  /-- A login has the address and the policy of the configuration, and it is the first call or
  the connection of the latest login has been closed. -/
  login : ∀ earlier x later address policy, t = earlier ++ x :: later →
    x.call = .dial address policy →
      address = c.address ∧ c.resolve = .ok policy ∧
        (earlier = [] ∨ ∃ y ∈ earlier, y.call = .close (logins earlier))

theorem oneAtATime_nil {c : Config} : OneAtATime c [] where
  over_latest _ _ _ _ h := absurd h (by simp)
  login _ _ _ _ _ h := absurd h (by simp)

/-- Orderly calls that begin with a login use one connection at a time. -/
theorem oneAtATime_of_orderly {c : Config} {policy : Policy} {x₀ : Exchange Call Call.Reply}
    (hresolve : c.resolve = .ok policy) (h : Line.start.Orderly c.address policy (x₀ :: t))
    (hfirst : isLogin x₀ ∨ t = []) : OneAtATime c (x₀ :: t) where
  over_latest := by
    intro earlier x later n heq hn
    rw [heq] at h
    obtain ⟨l, htells, hadmits⟩ := h.cut Line.tells_start
    obtain ⟨hopen, rfl⟩ := Line.live_eq_some (hadmits.1 n hn)
    refine ⟨htells.opened hopen, htells.logins_eq, ?_⟩
    intro y hy hclose
    rcases htells.of_closed y hy _ hclose with hless | ⟨-, hclosed⟩
    · exact Nat.lt_irrefl _ hless
    · rw [hopen] at hclosed
      cases hclosed
  login := by
    intro earlier x later address policy' heq hdial
    rw [heq] at h
    obtain ⟨l, htells, hadmits⟩ := h.cut Line.tells_start
    obtain ⟨hclosed, rfl, rfl⟩ := hadmits.2 address policy' hdial
    refine ⟨rfl, hresolve, ?_⟩
    cases earlier with
    | nil => exact .inl rfl
    | cons y earlier =>
      -- There is a login before, so a connection has been closed.
      obtain ⟨rfl, hrest⟩ := List.cons.inj heq
      have hlogin : isLogin x₀ :=
        hfirst.resolve_right fun hnil => absurd (hnil.symm.trans hrest) (by simp)
      rcases htells.closed hclosed with hnone | hclose
      · rw [htells.logins_eq, List.nil_append, ← List.singleton_append, logins_append,
          logins_singleton hlogin] at hnone
        omega
      · rw [htells.logins_eq] at hclose
        exact .inr hclose

/-- How an operation stands to the ones before it and to the calls that come after it. -/
structure Standing (earlier : List Performance) (p : Performance) (after : Calls) : Prop where
  /-- The session has no connection exactly where the host was lost before. -/
  before : p.session.isConnected = false ↔ ∃ q ∈ earlier, q.LosesHost
  /-- It is left without a connection exactly where the host was lost before or just now. -/
  afterwards : ∀ r s', p.result? = some (r, s') →
    (s'.isConnected = false ↔ ∃ q ∈ earlier ++ [p], q.LosesHost)
  /-- Once the host is lost, no call goes over a connection or makes one. -/
  lost : p.LosesHost → ∀ x ∈ after, x.call.isQuiet
  /-- Without a connection an operation that needs one fails for want of it. -/
  unconnected : p.session.isConnected = false → p.operation.reachesHost →
    ∃ e, p.result? = some (.error e, p.session) ∧ e.kind = .notConnected

theorem isConnected_eq_false : s.isConnected = false ↔ s.connection = none :=
  Option.isSome_eq_false_iff.trans Option.isNone_iff_eq_none

section Life

variable {ω : Type} {answer : (c : Call) → ω → c.Reply × ω} {w : ω} {os : List Operation}

/-- The operations of a session that has a connection at first. -/
theorem standing {earlier later : List Performance} {p : Performance} {closing : Calls}
    (hlive : s.connection ≠ none)
    (hclosing : closing = [] ∨ ∃ rs s' n reply,
      (play answer (s.performAll os) w).result? = some (rs, s') ∧ s'.connection = some n ∧
        closing = [⟨.close n, reply⟩])
    (h : performances answer s w os = earlier ++ p :: later) :
    Standing earlier p (later.flatMap (·.calls) ++ closing) := by
  obtain ⟨hperformed, -, hnone⟩ := performances_cut answer h
  rw [or_iff_right hlive] at hnone
  refine ⟨isConnected_eq_false.trans hnone, ?_, ?_, ?_⟩
  · intro r s' hr
    rw [hr] at hperformed
    rw [isConnected_eq_false, hperformed.connection_eq_none_iff, hnone,
      ← Performance.losesHost_iff hr]
    simp only [List.mem_append, List.mem_singleton, or_and_right, exists_or, exists_eq_left]
  · intro hlost x hx
    rcases List.mem_append.1 hx with hx | hx
    · -- Each operation that follows begins without a connection.
      obtain ⟨q, hq, hxq⟩ := List.mem_flatMap.1 hx
      obtain ⟨between, rest, rfl⟩ := List.append_of_mem hq
      rw [← List.cons_append, ← List.append_assoc] at h
      obtain ⟨hq, -, hnone⟩ := performances_cut answer h
      have hgone : q.session.connection = none :=
        hnone.2 (.inr ⟨p, List.mem_append_right _ List.mem_cons_self, hlost⟩)
      exact (hq.unconnected hgone).1 x hxq
    · rcases hclosing with rfl | ⟨rs, s', n, reply, hresult, hopen, rfl⟩
      · cases hx
      · have hgone : s'.connection = none := by
          rw [(performAll_ends answer hresult).2, h]
          exact .inr ⟨p, List.mem_append_right _ List.mem_cons_self, hlost⟩
        rw [hopen] at hgone
        cases hgone
  · intro hgone hreaches
    exact (hperformed.unconnected (isConnected_eq_false.1 hgone)).2 hreaches

variable {c : Config} {polling : PollPolicy} {rebootCommand : String} {closes : Bool}

/-- The end of a session is in order after its operations. -/
theorem orderly_closing {address : String} {policy : Policy} {closing : Calls}
    {performed : Played Call Call.Reply ω (List (Outcome Result) × Session)}
    (hends : ∀ rs s', performed.result? = some (rs, s') → s'.connection = l.live)
    (hclosing : closing = [] ∨ ∃ rs s' n reply,
      performed.result? = some (rs, s') ∧ s'.connection = some n ∧ closing = [⟨.close n, reply⟩]) :
    l.Orderly address policy closing := by
  rcases hclosing with rfl | ⟨rs, s', n, reply, hresult, hopen, rfl⟩
  · trivial
  · exact ⟨Line.admits_live ((hends rs s' hresult).symm.trans hopen) rfl, trivial⟩

theorem oneAtATime_life :
    OneAtATime c (play answer (life c polling rebootCommand os closes) w).exchanges := by
  obtain ⟨r, hr, hopened⟩ :=
    course_opened (course_of_play answer (opened c polling rebootCommand) w)
  generalize hcalls : (play answer (opened c polling rebootCommand) w).exchanges = first at hopened
  cases hopened with
  | unresolved hresolve =>
    rw [exchanges_life_error hr, hcalls]
    exact oneAtATime_nil
  | refused hresolve e =>
    rw [exchanges_life_error hr, hcalls]
    exact oneAtATime_of_orderly hresolve ⟨Line.admits_dial rfl, trivial⟩ (.inr rfl)
  | @loggedIn policy hresolve =>
    rw [exchanges_life_ok hr, hcalls]
    generalize (play answer (opened c polling rebootCommand) w).state = w'
    -- The line after the first login shows the connection that the session begins with.
    have hlive : (loggedInTo c policy polling rebootCommand).connection = (⟨1, true⟩ : Line).live :=
      rfl
    obtain ⟨closing, hwork, hclosing⟩ :=
      exchanges_work answer (loggedInTo c policy polling rebootCommand) w' os closes
    obtain ⟨hperformed, hends⟩ := orderly_performAll answer w' os hlive
    rw [hwork]
    have hall := Line.orderly_append.2 ⟨hperformed, orderly_closing hends hclosing⟩
    exact oneAtATime_of_orderly hresolve ⟨Line.admits_dial rfl, hall⟩ (.inl rfl)

theorem Opened.session_eq (h : Opened c polling rebootCommand t (.ok s)) :
    s.connection = some 1 ∧ s.polling = polling := by
  cases h
  exact ⟨rfl, rfl⟩

variable (answer w os c polling rebootCommand closes)

/-- Whatever the outside answers, a session uses one connection at a time, from its login to its
end.  Its operations come one after the other, each with its result unless the clock cannot show
how long to wait; it is without a connection exactly once a reboot has failed after its command
was started, and then neither it nor its end asks anything more of the host. -/
theorem one_connection_at_a_time :
    let opening := play answer (opened c polling rebootCommand) w
    let t := (play answer (life c polling rebootCommand os closes) w).exchanges
    OneAtATime c t ∧
      ∀ s, opening.result? = some (.ok s) →
        let ps := performances answer s opening.state os
        ∃ closing : Calls,
          t = opening.exchanges ++ ps.flatMap (·.calls) ++ closing ∧
          (∀ x ∈ closing, x.call.isClose) ∧
          (ps.map (·.operation) = os ∨ ∃ p ∈ ps, p.result? = none ∧
            ∃ reading : Nat, (⟨.now, reading⟩ : Exchange Call Call.Reply) ∈ p.calls ∧
              clockRange ≤ reading + polling.ceilingSecs) ∧
          ∀ earlier p later, ps = earlier ++ p :: later →
            Standing earlier p (later.flatMap (·.calls) ++ closing) := by
  intro opening t
  refine ⟨oneAtATime_life, ?_⟩
  intro s hs ps
  obtain ⟨r, hr, hopened⟩ :=
    course_opened (course_of_play answer (opened c polling rebootCommand) w)
  obtain rfl := Option.some.inj (hr.symm.trans hs)
  obtain ⟨hlive, hpolling⟩ := hopened.session_eq
  obtain ⟨closing, hwork, hclosing⟩ := exchanges_work answer s opening.state os closes
  refine ⟨closing, ?_, ?_, ?_, ?_⟩
  · rw [List.append_assoc, ← exchanges_performAll, ← hwork]
    exact exchanges_life_ok hs
  -- The end is a close at most.
  · rcases hclosing with rfl | ⟨rs, s', n, reply, -, -, rfl⟩
    · exact fun x hx => absurd hx List.not_mem_nil
    · exact fun x hx => by rw [List.mem_singleton.1 hx]; rfl
  · refine (performances_all answer opening.state os).imp_right ?_
    rintro ⟨p, hp, hnone⟩
    obtain ⟨earlier, later, hps⟩ := List.append_of_mem hp
    obtain ⟨hperformed, hsession, -⟩ := performances_cut answer hps
    rw [hnone] at hperformed
    obtain ⟨reading, hmem, hbeyond⟩ := hperformed.beyond
    rw [hsession] at hbeyond
    exact ⟨p, hp, hnone, reading, hmem, hpolling ▸ hbeyond⟩
  · intro earlier p later hps
    exact standing (by rw [hlive]; exact Option.some_ne_none 1) hclosing hps

end Life

end RemoteHost.Ssh.Session
