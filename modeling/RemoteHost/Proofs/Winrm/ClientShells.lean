/-
RemoteHost/Proofs/Winrm/ClientShells.lean

What a client holds and keeps, over any operations in a row.

A client names its shell and the service behind it in two places.  Each operation is inverted
once (`runs_destroy`, `runs_openOver`, `runs_execute`, `runs_executeOrCancel`), with every way
in which its calls can go.  From that follows what one operation does to the client
(`leads_perform`), and by induction what a whole sequence does (`leads_performAll`):

* the two places are filled together or empty together (`Coherent`);
* what they hold is the shell that an observer of the calls takes to be open, and every call
  keeps to the rules of `Tidy`;
* the failures that are kept are those of commands, in the order in which they were returned
  (`keptBy`).
-/
import RemoteHost.Proofs.Dialogue
import RemoteHost.Proofs.Winrm.ShellCustody
import RemoteHost.Winrm.Client

namespace RemoteHost.Winrm.Client

open Dialogue

variable {σ : Type} {c c' c'' : Client σ} {t t₁ t₂ : List (ShellExchange σ)}

/-! ### What a client holds -/

/-- The shell that a client holds, with the service behind it. -/
def held (c : Client σ) : Option (OpenShell σ) :=
  match c.transport, c.shellId with
  | some service, some id => some ⟨service, id⟩
  | _, _ => none

/-- The name of a shell is held exactly when a service is. -/
def Coherent (c : Client σ) : Prop := c.shellId.isSome = c.transport.isSome

theorem held_eq_some {service : σ} {id : String} (hservice : c.transport = some service)
    (hid : c.shellId = some id) : c.held = some ⟨service, id⟩ := by
  rw [held, hservice, hid]

theorem held_eq_none
    (h : ∀ service id, c.transport = some service → c.shellId = some id → False) :
    c.held = none := by
  unfold held
  split
  · next service id hservice hid => exact (h service id hservice hid).elim
  · rfl

theorem coherent_emptied (c : Client σ) : c.emptied.Coherent := rfl

/-- Some calls lead from a client to a client: they keep to the rules, and what the second
client holds is what they leave open. -/
structure Leads (c : Client σ) (t : List (ShellExchange σ)) (c' : Client σ) : Prop where
  coherent : c'.Coherent
  tidy : Tidy c.held t
  held_eq : openAfter c.held t = c'.held

theorem Leads.refl (h : c.Coherent) : Leads c [] c := ⟨h, trivial, rfl⟩

theorem Leads.trans (h₁ : Leads c t₁ c') (h₂ : Leads c' t₂ c'') : Leads c (t₁ ++ t₂) c'' where
  coherent := h₂.coherent
  tidy := by
    refine tidy_append.2 ⟨h₁.tidy, ?_⟩
    rw [h₁.held_eq]
    exact h₂.tidy
  held_eq := by rw [openAfter_append, h₁.held_eq, h₂.held_eq]

/-- A report does nothing to what is held. -/
theorem Leads.report (r : LogRecord) (hc : c'.Coherent) (h : c'.held = c.held) :
    Leads c [⟨.report r, ()⟩] c' where
  coherent := hc
  tidy := .one (ShellCall.permitted_report r)
  held_eq := h.symm

/-! ### Closing a shell -/

/-- Without a shell nothing is done, and the shell that is held is closed.  None is held
afterwards. -/
theorem runs_destroy {r : Outcome Unit} (h : Runs c.destroy t (r, c')) :
    c' = c.emptied ∧
      ((c.held = none ∧ t = [] ∧ r = .ok ()) ∨
        ∃ o, c.held = some o ∧ t = [⟨.closeShell o.service o.id, r⟩]) := by
  unfold destroy at h
  split at h
  · next id service hid hservice =>
    obtain ⟨reply, t', rfl, h₁⟩ := runs_call.1 h
    obtain ⟨rfl, hr⟩ := runs_done.1 h₁
    obtain ⟨rfl, rfl⟩ := Prod.mk.inj hr
    exact ⟨rfl, .inr ⟨⟨service, id⟩, held_eq_some hservice hid, rfl⟩⟩
  · next hnone =>
    obtain ⟨rfl, hr⟩ := runs_done.1 h
    obtain ⟨rfl, rfl⟩ := Prod.mk.inj hr
    have hheld : c.held = none := by
      apply held_eq_none
      intro service id hservice hid
      exact hnone id service hid hservice
    exact ⟨rfl, .inl ⟨hheld, rfl, rfl⟩⟩

theorem leads_destroy {r : Outcome Unit} (h : Runs c.destroy t (r, c')) : Leads c t c' := by
  obtain ⟨rfl, ⟨hnone, rfl, -⟩ | ⟨o, ho, rfl⟩⟩ := runs_destroy h
  · exact ⟨c.coherent_emptied, trivial, by rw [hnone]; rfl⟩
  · refine ⟨c.coherent_emptied, ?_, rfl⟩
    rw [ho]
    exact .one (ShellCall.permitted_closeShell o)

theorem returns_destroy (c : Client σ) : Returns c.destroy := by
  unfold destroy
  split
  · exact .ask fun _ => .done _
  · exact .done _

/-- Closing once more makes no call. -/
theorem destroy_emptied (c : Client σ) : c.emptied.destroy = .done (.ok (), c.emptied) := rfl

/-! ### Opening a shell -/

/-- A failure to close is reported, and nothing else. -/
theorem runs_reportClosing {closing : Outcome Unit} (h : Runs (c.reportClosing closing) t ()) :
    t = [] ∨ ∃ r, t = [⟨.report r, ()⟩] := by
  cases closing with
  | ok u => exact .inl (runs_done.1 h).1
  | error e =>
    obtain ⟨u, t', rfl, h₁⟩ := runs_call.1 h
    obtain ⟨rfl, -⟩ := runs_done.1 h₁
    exact .inr ⟨_, rfl⟩

/-- The client with a shell. -/
def holding (c : Client σ) (o : OpenShell σ) : Client σ :=
  { c with transport := some o.service, shellId := some o.id }

/-- The earlier shell is closed, and then another one is opened, or is not. -/
theorem runs_openOver {service : σ} {r : Outcome Unit} (h : Runs (c.openOver service) t (r, c')) :
    ∃ closing t₁ t₂ t₃ reply, t = t₁ ++ (t₂ ++ ⟨.openShell service, reply⟩ :: t₃) ∧
      Runs c.destroy t₁ (closing, c.emptied) ∧ (t₂ = [] ∨ ∃ r, t₂ = [⟨.report r, ()⟩]) ∧
      ((∃ id, reply = .ok id ∧ t₃ = [] ∧ r = .ok () ∧ c' = c.holding ⟨service, id⟩) ∨
        ∃ e, reply = .error e ∧
          t₃ = [⟨.report (.error (connectionFailure c.address e).display), ()⟩] ∧
          r = .error (connectionFailure c.address e) ∧ c' = c.emptied) := by
  obtain ⟨t₁, t', ⟨closing, c₁⟩, rfl, h₁, h₂⟩ := runs_bind.1 h
  obtain ⟨rfl, -⟩ := runs_destroy h₁
  obtain ⟨t₂, t'', u, rfl, h₃, h₄⟩ := runs_bind.1 h₂
  obtain ⟨reply, t₃, rfl, h₅⟩ := runs_call.1 h₄
  refine ⟨closing, t₁, t₂, t₃, reply, rfl, h₁, runs_reportClosing h₃, ?_⟩
  cases reply with
  | ok id =>
    obtain ⟨rfl, hr⟩ := runs_done.1 h₅
    obtain ⟨rfl, rfl⟩ := Prod.mk.inj hr
    exact .inl ⟨id, rfl, rfl, rfl, rfl⟩
  | error e =>
    obtain ⟨u, t₄, rfl, h₆⟩ := runs_call.1 h₅
    obtain ⟨rfl, hr⟩ := runs_done.1 h₆
    obtain ⟨rfl, rfl⟩ := Prod.mk.inj hr
    exact .inr ⟨e, rfl, rfl, rfl, rfl⟩

theorem leads_openOver {service : σ} {r : Outcome Unit}
    (h : Runs (c.openOver service) t (r, c')) : Leads c t c' := by
  obtain ⟨closing, t₁, t₂, t₃, reply, rfl, h₁, h₂, h₃⟩ := runs_openOver h
  have hreport : Leads c.emptied t₂ c.emptied := by
    rcases h₂ with rfl | ⟨r, rfl⟩
    · exact .refl c.coherent_emptied
    · exact .report r c.coherent_emptied rfl
  refine (leads_destroy h₁).trans (hreport.trans ?_)
  rcases h₃ with ⟨id, rfl, rfl, -, rfl⟩ | ⟨e, rfl, rfl, -, rfl⟩
  · exact ⟨rfl, .one (ShellCall.permitted_openShell service), rfl⟩
  · exact ⟨rfl, ⟨ShellCall.permitted_openShell service, ShellCall.permitted_report _, trivial⟩, rfl⟩

theorem returns_openOver (c : Client σ) (service : σ) : Returns (c.openOver service) := by
  refine c.returns_destroy.bind fun closed => ?_
  have hreport : Returns (closed.2.reportClosing closed.1) := by
    cases closed.1 with
    | ok u => exact .done _
    | error e => exact .ask fun _ => .done _
  refine hreport.bind fun _ => .ask fun reply => ?_
  cases reply with
  | ok id => exact .done _
  | error e => exact .ask fun _ => .done _

/-! ### Running a command -/

/-- The client with one more failure. -/
def keeping (c : Client σ) (e : Failure) : Client σ := { c with errors := c.errors ++ [e] }

/-- A failure is reported and kept, and a success changes nothing. -/
theorem runs_keep {o r : Outcome String} (h : Runs (c.keep o) t (r, c')) :
    r = o ∧ ((∃ output, o = .ok output ∧ t = [] ∧ c' = c) ∨
      ∃ e r, o = .error e ∧ t = [⟨.report r, ()⟩] ∧ c' = c.keeping e) := by
  cases o with
  | ok output =>
    obtain ⟨rfl, hr⟩ := runs_done.1 h
    obtain ⟨rfl, rfl⟩ := Prod.mk.inj hr
    exact ⟨rfl, .inl ⟨output, rfl, rfl, rfl⟩⟩
  | error e =>
    obtain ⟨u, t', rfl, h₁⟩ := runs_call.1 h
    obtain ⟨rfl, hr⟩ := runs_done.1 h₁
    obtain ⟨rfl, rfl⟩ := Prod.mk.inj hr
    exact ⟨rfl, .inr ⟨e, _, rfl, rfl, rfl⟩⟩

theorem returns_keep (c : Client σ) (o : Outcome String) : Returns (c.keep o) := by
  cases o with
  | ok output => exact .done _
  | error e => exact .ask fun _ => .done _

/-- What a command that was run fails with is a failure of a command. -/
theorem kind_of_conclude {command : String} {reply : Outcome ShellOutput} {e : Failure}
    (h : c.conclude command reply = .error e) : e.kind = .commandFailed := by
  cases reply with
  | error e' =>
    obtain rfl := Except.error.inj h
    rfl
  | ok out =>
    simp only [conclude] at h
    split at h
    · cases h
    · obtain rfl := Except.error.inj h
      rfl

/-- Without a shell nothing is called; with one the command is run in it, and a failure is
kept. -/
theorem runs_execute {command : String} {r : Outcome String}
    (h : Runs (c.execute command) t (r, c')) :
    (c.held = none ∧ t = [] ∧ r = .error c.notConnected ∧ c' = c) ∨
      ∃ o reply t', c.held = some o ∧
        t = ⟨.run o.service o.id PowerShell.program (PowerShell.arguments command), reply⟩ :: t' ∧
        Runs (c.keep (c.conclude command reply)) t' (r, c') := by
  unfold execute at h
  split at h
  · next service id hservice hid =>
    obtain ⟨reply, t', rfl, h₁⟩ := runs_call.1 h
    exact .inr ⟨⟨service, id⟩, reply, t', held_eq_some hservice hid, rfl, h₁⟩
  · next hnone =>
    obtain ⟨rfl, hr⟩ := runs_done.1 h
    obtain ⟨rfl, rfl⟩ := Prod.mk.inj hr
    exact .inl ⟨held_eq_none hnone, rfl, rfl, rfl⟩

/-- The same for a command that may be cancelled, which leaves everything as it was. -/
theorem runs_executeOrCancel {command : String} {r : Outcome String}
    (h : Runs (c.executeOrCancel command) t (r, c')) :
    (c.held = none ∧ t = [] ∧ r = .error c.notConnected ∧ c' = c) ∨
      ∃ o reply t', c.held = some o ∧
        t = ⟨.runOrCancel o.service o.id PowerShell.program (PowerShell.arguments command),
          reply⟩ :: t' ∧
        ((reply = none ∧ t' = [] ∧ r = .error (c.cancelled command) ∧ c' = c) ∨
          ∃ reply', reply = some reply' ∧
            Runs (c.keep (c.conclude command reply')) t' (r, c')) := by
  unfold executeOrCancel at h
  split at h
  · next service id hservice hid =>
    obtain ⟨reply, t', rfl, h₁⟩ := runs_call.1 h
    refine .inr ⟨⟨service, id⟩, reply, t', held_eq_some hservice hid, rfl, ?_⟩
    cases reply with
    | none =>
      obtain ⟨rfl, hr⟩ := runs_done.1 h₁
      obtain ⟨rfl, rfl⟩ := Prod.mk.inj hr
      exact .inl ⟨rfl, rfl, rfl, rfl⟩
    | some reply' => exact .inr ⟨reply', rfl, h₁⟩
  · next hnone =>
    obtain ⟨rfl, hr⟩ := runs_done.1 h
    obtain ⟨rfl, rfl⟩ := Prod.mk.inj hr
    exact .inl ⟨held_eq_none hnone, rfl, rfl, rfl⟩

/-- The failure of a command that an outcome is, if it is one. -/
def failureOf {α : Type} : Outcome α → List Failure
  | .error e => if e.kind = .commandFailed then [e] else []
  | .ok _ => []

/-- After a command was run, the shell is held as before, and a failure of it is kept. -/
theorem leads_keep {command : String} {reply : Outcome ShellOutput} {r : Outcome String}
    (h : Runs (c.keep (c.conclude command reply)) t (r, c')) (hc : c.Coherent) :
    Leads c t c' ∧ c'.errors = c.errors ++ failureOf r := by
  obtain ⟨rfl, ⟨output, ho, rfl, rfl⟩ | ⟨e, record, he, rfl, rfl⟩⟩ := runs_keep h
  · rw [ho]
    exact ⟨.refl hc, (List.append_nil _).symm⟩
  · rw [he, failureOf, if_pos (kind_of_conclude he)]
    exact ⟨.report record hc rfl, rfl⟩

/-- A command that is run in the shell that is held leaves it so. -/
theorem Leads.of_run {o : OpenShell σ} {x : ShellExchange σ} (ho : c.held = some o)
    (hx : x.call.Permitted (some o)) (hruns : x.call.runsIn? = some o) (h : Leads c t c') :
    Leads c (x :: t) c' := by
  have hafter : afterExchange c.held x = c.held := by
    obtain ⟨call, reply⟩ := x
    cases call with
    | run _ _ _ _ => rfl
    | runOrCancel _ _ _ _ => rfl
    | _ => cases hruns
  refine ⟨h.coherent, ?_, ?_⟩
  · refine ⟨ho ▸ hx, ?_⟩
    rw [hafter]
    exact h.tidy
  · rw [openAfter_cons, hafter]
    exact h.held_eq

theorem leads_execute {command : String} {r : Outcome String}
    (h : Runs (c.execute command) t (r, c')) (hc : c.Coherent) :
    Leads c t c' ∧ c'.errors = c.errors ++ failureOf r := by
  rcases runs_execute h with ⟨-, rfl, rfl, rfl⟩ | ⟨o, reply, t', ho, rfl, h₁⟩
  · exact ⟨.refl hc, (List.append_nil _).symm⟩
  · obtain ⟨hl, he⟩ := leads_keep h₁ hc
    exact ⟨.of_run ho (ShellCall.permitted_run o _ _) rfl hl, he⟩

theorem leads_executeOrCancel {command : String} {r : Outcome String}
    (h : Runs (c.executeOrCancel command) t (r, c')) (hc : c.Coherent) :
    Leads c t c' ∧ c'.errors = c.errors ++ failureOf r := by
  rcases runs_executeOrCancel h with ⟨-, rfl, rfl, rfl⟩ | ⟨o, reply, t', ho, rfl, h₁⟩
  · exact ⟨.refl hc, (List.append_nil _).symm⟩
  · rcases h₁ with ⟨rfl, rfl, rfl, rfl⟩ | ⟨reply', rfl, h₂⟩
    -- A command that was cancelled fails, but this is no failure of the command.
    · exact ⟨.of_run ho (ShellCall.permitted_runOrCancel o _ _) rfl (.refl hc),
        (List.append_nil _).symm⟩
    · obtain ⟨hl, he⟩ := leads_keep h₂ hc
      exact ⟨.of_run ho (ShellCall.permitted_runOrCancel o _ _) rfl hl, he⟩

theorem returns_execute (c : Client σ) (command : String) : Returns (c.execute command) := by
  unfold execute
  split
  · exact .ask fun reply => c.returns_keep _
  · exact .done _

theorem returns_executeOrCancel (c : Client σ) (command : String) :
    Returns (c.executeOrCancel command) := by
  unfold executeOrCancel
  split
  · refine .ask fun reply => ?_
    cases reply with
    | none => exact .done _
    | some reply' => exact c.returns_keep _
  · exact .done _

/-! ### Operations in a row -/

/-- The failures of commands that an operation returned, where it is one that runs commands. -/
def keptBy : Operation σ × Outcome Result → List Failure
  | (.execute _, r) => failureOf r
  | (.executeOrCancel _, r) => failureOf r
  | _ => []

theorem failureOf_map {α β : Type} (f : α → β) (r : Outcome α) :
    failureOf (r.map f) = failureOf r := by
  cases r <;> rfl

/-- Reports do nothing to what is held. -/
theorem leads_reportAll {log : List LogRecord} (h : Runs (reportAll log) t ()) (hc : c'.Coherent)
    (hheld : c'.held = c.held) : Leads c t c' := by
  induction log generalizing t with
  | nil =>
    obtain ⟨rfl, -⟩ := runs_done.1 h
    exact ⟨hc, trivial, hheld.symm⟩
  | cons r log ih =>
    obtain ⟨u, t', rfl, h₁⟩ := runs_call.1 h
    have hl := ih h₁
    exact ⟨hc, ⟨ShellCall.permitted_report r, hl.tidy⟩, hl.held_eq⟩

theorem runs_finished {d : ShellTalk σ (Outcome Unit × Client σ)} {r : Outcome Result}
    (h : Runs (finished d) t (r, c')) : ∃ r', Runs d t (r', c') ∧ r = r'.map fun _ => .done := by
  obtain ⟨t₁, t₂, ⟨r', c₁⟩, rfl, h₁, h₂⟩ := runs_bind.1 h
  obtain ⟨rfl, hr⟩ := runs_done.1 h₂
  obtain ⟨rfl, rfl⟩ := Prod.mk.inj hr
  rw [List.append_nil]
  exact ⟨r', h₁, rfl⟩

theorem runs_printed {d : ShellTalk σ (Outcome String × Client σ)} {r : Outcome Result}
    (h : Runs (printed d) t (r, c')) : ∃ r', Runs d t (r', c') ∧ r = r'.map .output := by
  obtain ⟨t₁, t₂, ⟨r', c₁⟩, rfl, h₁, h₂⟩ := runs_bind.1 h
  obtain ⟨rfl, hr⟩ := runs_done.1 h₂
  obtain ⟨rfl, rfl⟩ := Prod.mk.inj hr
  rw [List.append_nil]
  exact ⟨r', h₁, rfl⟩

theorem leads_perform {o : Operation σ} {r : Outcome Result} (h : Runs (c.perform o) t (r, c'))
    (hc : c.Coherent) : Leads c t c' ∧ c'.errors = c.errors ++ keptBy (o, r) := by
  cases o with
  | configure context =>
    obtain ⟨t₁, t₂, u, rfl, h₁, h₂⟩ := runs_bind.1 h
    obtain ⟨rfl, hr⟩ := runs_done.1 h₂
    obtain ⟨rfl, rfl⟩ := Prod.mk.inj hr
    rw [List.append_nil]
    exact ⟨leads_reportAll h₁ hc rfl, (List.append_nil _).symm⟩
  | openOver service =>
    obtain ⟨r', h₁, rfl⟩ := runs_finished h
    have herrors : c'.errors = c.errors := by
      obtain ⟨-, -, -, -, -, -, -, -, ⟨-, -, -, -, rfl⟩ | ⟨-, -, -, -, rfl⟩⟩ :=
        runs_openOver h₁ <;> rfl
    exact ⟨leads_openOver h₁, by rw [herrors]; exact (List.append_nil _).symm⟩
  | execute command =>
    obtain ⟨r', h₁, rfl⟩ := runs_printed h
    rw [keptBy, failureOf_map]
    exact leads_execute h₁ hc
  | executeOrCancel command =>
    obtain ⟨r', h₁, rfl⟩ := runs_printed h
    rw [keptBy, failureOf_map]
    exact leads_executeOrCancel h₁ hc
  | destroy =>
    obtain ⟨r', h₁, rfl⟩ := runs_finished h
    refine ⟨leads_destroy h₁, ?_⟩
    obtain ⟨rfl, -⟩ := runs_destroy h₁
    exact (List.append_nil _).symm

/-- What operations in a row do, with a result for each of them. -/
theorem leads_performAll {os : List (Operation σ)} {rs : List (Outcome Result)}
    (h : Runs (c.performAll os) t (rs, c')) (hc : c.Coherent) :
    rs.length = os.length ∧ Leads c t c' ∧
      c'.errors = c.errors ++ (os.zip rs).flatMap keptBy := by
  induction os generalizing c t rs with
  | nil =>
    obtain ⟨rfl, hr⟩ := runs_done.1 h
    obtain ⟨rfl, rfl⟩ := Prod.mk.inj hr
    exact ⟨rfl, .refl hc, (List.append_nil _).symm⟩
  | cons o os ih =>
    obtain ⟨t₁, t', ⟨r, c₁⟩, rfl, h₁, h₂⟩ := runs_bind.1 h
    obtain ⟨t₂, t₃, ⟨rs', c₂⟩, rfl, h₃, h₄⟩ := runs_bind.1 h₂
    obtain ⟨rfl, hr⟩ := runs_done.1 h₄
    obtain ⟨rfl, rfl⟩ := Prod.mk.inj hr
    obtain ⟨hl₁, he₁⟩ := leads_perform h₁ hc
    obtain ⟨hlen, hl₂, he₂⟩ := ih h₃ hl₁.coherent
    refine ⟨by rw [List.length_cons, hlen]; rfl, ?_, ?_⟩
    · rw [List.append_nil]
      exact hl₁.trans hl₂
    · rw [he₂, he₁, List.append_assoc]
      rfl

theorem returns_reportAll (log : List LogRecord) :
    Returns (reportAll log : ShellTalk σ Unit) := by
  induction log with
  | nil => exact .done _
  | cons r log ih => exact .ask fun _ => ih

theorem returns_perform (c : Client σ) (o : Operation σ) : Returns (c.perform o) := by
  cases o with
  | configure context => exact (returns_reportAll _).bind fun _ => .done _
  | openOver service => exact (c.returns_openOver service).bind fun _ => .done _
  | execute command => exact (c.returns_execute command).bind fun _ => .done _
  | executeOrCancel command => exact (c.returns_executeOrCancel command).bind fun _ => .done _
  | destroy => exact c.returns_destroy.bind fun _ => .done _

theorem returns_performAll (c : Client σ) (os : List (Operation σ)) :
    Returns (c.performAll os) := by
  induction os generalizing c with
  | nil => exact .done _
  | cons o os ih => exact (c.returns_perform o).bind fun r => (ih r.2).bind fun _ => .done _

theorem kind_of_mem_failureOf {α : Type} {r : Outcome α} {e : Failure} (h : e ∈ failureOf r) :
    e.kind = .commandFailed := by
  cases r with
  | ok a => exact absurd h List.not_mem_nil
  | error e' =>
    rw [failureOf] at h
    split at h
    · next hkind =>
      rw [List.mem_singleton.1 h]
      exact hkind
    · exact absurd h List.not_mem_nil

/-- Only failures of commands are kept. -/
theorem kind_of_mem_keptBy {e : Failure} {x : Operation σ × Outcome Result} (h : e ∈ keptBy x) :
    e.kind = .commandFailed := by
  obtain ⟨o, r⟩ := x
  cases o with
  | execute command => exact kind_of_mem_failureOf h
  | executeOrCancel command => exact kind_of_mem_failureOf h
  | _ => exact absurd h List.not_mem_nil

/-- **A client holds one shell and closes what it opened.**  A new client performs some
operations one after the other, against any outside.  Each of them has a result.  Then:

* the client holds the name of a shell exactly when it holds a service, and the two are those
  of the shell that the calls have left open;
* a shell was opened only while none was open, and commands were run and shells closed only
  in the open one, over the service that had opened it;
* up to the next opening, a shell that was opened has run commands, and then was closed at most
  once, over that service, after which nothing was run or closed;
* the failures that are kept are the failures of commands that were returned, in order;
* closing leaves nothing held, however it goes, and closing once more makes no call and
  succeeds. -/
theorem shells_closed_where_opened {ω : Type} (answer : (x : ShellCall σ) → ω → x.Reply × ω)
    (w : ω) (config : Config) (os : List (Operation σ)) :
    let played := (performAll { config } os).play answer w
    ∃ results c, played.result? = some (results, c) ∧ results.length = os.length ∧
      c.shellId.isSome = c.transport.isSome ∧
      openAfter none played.exchanges = c.held ∧
      (∀ before x after, played.exchanges = before ++ x :: after →
        (∀ service, x.call.opens? = some service → openAfter none before = none) ∧
        (∀ o, x.call.runsIn? = some o → openAfter none before = some o) ∧
        (∀ o, x.call.closes? = some o → openAfter none before = some o)) ∧
      (∀ before service id after,
        played.exchanges = before ++ ⟨.openShell service, .ok id⟩ :: after →
        Stay ⟨service, id⟩ (untilOpened after)) ∧
      c.errors = (os.zip results).flatMap keptBy ∧
      (∀ e ∈ c.errors, e.kind = .commandFailed) ∧
      (∀ w', ∃ r c', (c.destroy.play answer w').result? = some (r, c') ∧
        c'.shellId = none ∧ c'.transport = none ∧
        ∀ w'', c'.destroy.play answer w'' = ⟨some (.ok (), c'), [], w''⟩) := by
  intro played
  obtain ⟨⟨results, c⟩, hresult⟩ :=
    (returns_performAll ({ config } : Client σ) os).play answer w
  obtain ⟨hlen, hleads, herrors⟩ := leads_performAll (runs_of_play hresult) rfl
  have htidy : Tidy none played.exchanges := hleads.tidy
  refine ⟨results, c, hresult, hlen, hleads.coherent, hleads.held_eq, ?_, ?_, herrors, ?_, ?_⟩
  · intro before x after hcut
    obtain ⟨hopens, hruns, hcloses⟩ := (hcut ▸ htidy).cut.1
    exact ⟨hopens, hruns, hcloses⟩
  · intro before service id after hcut
    exact (hcut ▸ htidy).cut.2.stay
  · intro e he
    rw [herrors, List.nil_append] at he
    obtain ⟨x, -, hx⟩ := List.mem_flatMap.1 he
    exact kind_of_mem_keptBy hx
  · intro w'
    obtain ⟨⟨r, c'⟩, hr⟩ := c.returns_destroy.play answer w'
    obtain ⟨rfl, -⟩ := runs_destroy (runs_of_play hr)
    refine ⟨r, c.emptied, hr, rfl, rfl, ?_⟩
    intro w''
    rw [destroy_emptied, play_done]

end RemoteHost.Winrm.Client
