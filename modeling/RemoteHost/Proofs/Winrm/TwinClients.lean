/-
RemoteHost/Proofs/Winrm/TwinClients.lean

Clients that differ in their passwords at most.

Such clients are twins, and so are the services of their shells.  What twins do is in step: they
make the same calls, to twins of services, and as long as they get the same replies, they come to
the same results and are twins again (`InStep`).  That holds of one task, and by induction of tasks
in a row (`Twins.carryOut`, `Twins.carryOutAll`).  Where they are configured on the way, that may
be with two passwords again.
-/
import Mathlib.Data.List.Forall2
import RemoteHost.Proofs.Winrm.ShellHost

namespace RemoteHost.Winrm

/-! ### Twins -/

/-- The configuration with another password. -/
def Config.withPassword (c : Config) (p : String) : Config := { c with password := p }

/-- The way to log in, with another password. -/
def Authentication.withPassword (p : String) : Authentication → Authentication
  | basic username _ => basic username p
  | ntlm login => ntlm { login with password := p }

/-- The service with another password to log in. -/
def Service.withPassword (s : Service) (p : String) : Service :=
  { s with authentication := s.authentication.withPassword p }

/-- The configurations differ in their passwords at most. -/
def Config.Twins (a b : Config) : Prop := ∃ p, b = a.withPassword p

/-- The services differ in their passwords at most. -/
def Service.Twins (s t : Service) : Prop := ∃ p, t = s.withPassword p

/-- The clients differ in their passwords at most, and in those of the services of their shells. -/
structure Client.Twins (c d : Client Service) : Prop where
  config : c.config.Twins d.config
  transport : Option.Rel Service.Twins c.transport d.transport
  shellId : c.shellId = d.shellId
  errors : c.errors = d.errors

theorem Config.Twins.refl (a : Config) : a.Twins a := ⟨a.password, rfl⟩

theorem Config.Twins.target {a b : Config} (h : a.Twins b) : a.target = b.target := by
  obtain ⟨p, rfl⟩ := h
  rfl

theorem Config.Twins.port {a b : Config} (h : a.Twins b) : a.port = b.port := by
  obtain ⟨p, rfl⟩ := h
  rfl

theorem Client.twins_of_config {a b : Config} (h : a.Twins b) :
    Client.Twins { config := a } { config := b } := ⟨h, .none, rfl, rfl⟩

/-! ### Services of twin configurations -/

theorem Authentication.ofName_withPassword (env : Environment) (username p q : String) :
    ofName env username q = (ofName env username p).withPassword q := by
  unfold ofName
  split <;> rfl

theorem Config.endpoint_congr {c d : Config} (htarget : c.target = d.target)
    (hport : c.port = d.port) (hhttps : c.https = d.https) : c.endpoint = d.endpoint := by
  have hhost : c.hostText = d.hostText := by rw [hostText, hostText, htarget]
  have hscheme : c.scheme = d.scheme := by rw [scheme, scheme, hhttps]
  unfold endpoint
  rw [hhost, hscheme, hport, htarget]

theorem Service.ofConfig_withPassword (c : Config) (a : Authentication) (p : String) :
    ofConfig (c.withPassword p) (a.withPassword p) = (ofConfig c a).map (·.withPassword p) := by
  have hendpoint : (c.withPassword p).endpoint = c.endpoint := Config.endpoint_congr rfl rfl rfl
  unfold ofConfig
  rw [hendpoint]
  cases c.endpoint with
  | error e => rfl
  | ok endpoint => rfl

theorem Client.checkLogin_congr {c d : Config} (htarget : c.target = d.target)
    (husername : c.username = d.username) : checkLogin c = checkLogin d := by
  unfold checkLogin
  rw [htarget, husername]

theorem Client.service_withPassword (env : Environment) (c : Config) (p : String) :
    service env (c.withPassword p) = (service env c).map (·.withPassword p) := by
  have hcheck : checkLogin (c.withPassword p) = checkLogin c := checkLogin_congr rfl rfl
  have hauthentication : Authentication.ofName env c.username p =
      (Authentication.ofName env c.username c.password).withPassword p :=
    Authentication.ofName_withPassword env c.username c.password p
  have hservice : Service.ofConfig (c.withPassword p) (Authentication.ofName env c.username p) =
      (·.withPassword p) <$> Service.ofConfig c (.ofName env c.username c.password) := by
    rw [hauthentication]
    exact Service.ofConfig_withPassword c _ p
  have hfold : service env (c.withPassword p) = checkLogin (c.withPassword p) >>= fun _ =>
      Service.ofConfig (c.withPassword p) (Authentication.ofName env c.username p) := rfl
  rw [hfold, hcheck, hservice, ← map_bind]
  rfl

/-! ### Dialogues in step -/

/-- The dialogues make the same calls, to twins of services, and with the same replies they come to
results that are related. -/
inductive InStep {α β : Type} (R : α → β → Prop) :
    ShellTalk Service α → ShellTalk Service β → Prop
  | done {a : α} {b : β} : R a b → InStep R (.done a) (.done b)
  | openShell {s s' : Service} {next : Outcome String → ShellTalk Service α}
      {next' : Outcome String → ShellTalk Service β} : s.Twins s' →
      (∀ r, InStep R (next r) (next' r)) →
      InStep R (.ask (.openShell s) next) (.ask (.openShell s') next')
  | run {s s' : Service} {shell command : String} {arguments : List String}
      {next : Outcome ShellOutput → ShellTalk Service α}
      {next' : Outcome ShellOutput → ShellTalk Service β} : s.Twins s' →
      (∀ r, InStep R (next r) (next' r)) →
      InStep R (.ask (.run s shell command arguments) next)
        (.ask (.run s' shell command arguments) next')
  | runOrCancel {s s' : Service} {shell command : String} {arguments : List String}
      {next : Option (Outcome ShellOutput) → ShellTalk Service α}
      {next' : Option (Outcome ShellOutput) → ShellTalk Service β} : s.Twins s' →
      (∀ r, InStep R (next r) (next' r)) →
      InStep R (.ask (.runOrCancel s shell command arguments) next)
        (.ask (.runOrCancel s' shell command arguments) next')
  | closeShell {s s' : Service} {shell : String} {next : Outcome Unit → ShellTalk Service α}
      {next' : Outcome Unit → ShellTalk Service β} : s.Twins s' →
      (∀ r, InStep R (next r) (next' r)) →
      InStep R (.ask (.closeShell s shell) next) (.ask (.closeShell s' shell) next')
  | localFile {path : String} {next : Except String Bytes → ShellTalk Service α}
      {next' : Except String Bytes → ShellTalk Service β} :
      (∀ r, InStep R (next r) (next' r)) →
      InStep R (.ask (.localFile path) next) (.ask (.localFile path) next')
  | report {record : LogRecord} {next : Unit → ShellTalk Service α}
      {next' : Unit → ShellTalk Service β} :
      (∀ r, InStep R (next r) (next' r)) →
      InStep R (.ask (.report record) next) (.ask (.report record) next')

namespace InStep

variable {α β α' β' : Type} {R : α → β → Prop} {Q : α' → β' → Prop}

/-- What goes on from related results in step is in step as a whole. -/
theorem bind {t : ShellTalk Service α} {t' : ShellTalk Service β}
    {f : α → ShellTalk Service α'} {f' : β → ShellTalk Service β'} (h : InStep R t t')
    (hf : ∀ a b, R a b → InStep Q (f a) (f' b)) : InStep Q (t >>= f) (t' >>= f') := by
  induction h with
  | done hab => exact hf _ _ hab
  | openShell hs _ ih => exact .openShell hs ih
  | run hs _ ih => exact .run hs ih
  | runOrCancel hs _ ih => exact .runOrCancel hs ih
  | closeShell hs _ ih => exact .closeShell hs ih
  | localFile _ ih => exact .localFile ih
  | report _ ih => exact .report ih

theorem mono {R' : α → β → Prop} {t : ShellTalk Service α} {t' : ShellTalk Service β}
    (h : InStep R t t') (hR : ∀ a b, R a b → R' a b) : InStep R' t t' := by
  induction h with
  | done hab => exact .done (hR _ _ hab)
  | openShell hs _ ih => exact .openShell hs ih
  | run hs _ ih => exact .run hs ih
  | runOrCancel hs _ ih => exact .runOrCancel hs ih
  | closeShell hs _ ih => exact .closeShell hs ih
  | localFile _ ih => exact .localFile ih
  | report _ ih => exact .report ih

end InStep

namespace Client

open Dialogue

variable {env : Environment} {c d : Client Service} {α : Type}

/-! ### The shell that is held -/

theorem destroy_eq (c : Client Service) :
    c.destroy =
      match c.held with
      | some o => .ask (.closeShell o.service o.id) fun r => .done (r, c.emptied)
      | none => .done (.ok (), c.emptied) := by
  unfold destroy held
  cases c.shellId <;> cases c.transport <;> rfl

theorem execute_eq (c : Client Service) (command : String) :
    c.execute command =
      match c.held with
      | some o =>
        .ask (.run o.service o.id PowerShell.program (PowerShell.arguments command)) fun r =>
          c.keep (c.conclude command r)
      | none => .done (.error c.notConnected, c) := by
  unfold execute held
  cases c.transport <;> cases c.shellId <;> rfl

theorem executeOrCancel_eq (c : Client Service) (command : String) :
    c.executeOrCancel command =
      match c.held with
      | some o =>
        .ask (.runOrCancel o.service o.id PowerShell.program (PowerShell.arguments command))
          fun
            | none => .done (.error (c.cancelled command), c)
            | some r => c.keep (c.conclude command r)
      | none => .done (.error c.notConnected, c) := by
  unfold executeOrCancel held
  cases c.transport with
  | none => rfl
  | some service =>
    cases c.shellId with
    | none => rfl
    | some id => exact congrArg (ask _) (funext fun r => by cases r <;> rfl)

/-- The results are the same, and the clients are twins. -/
def SameEnd (x y : α × Client Service) : Prop := x.1 = y.1 ∧ x.2.Twins y.2

namespace Twins

/-- Both hold a shell of the same name, over twins of services, or both hold none. -/
theorem held_cases (h : c.Twins d) :
    (c.held = none ∧ d.held = none) ∨
      ∃ s s' id, s.Twins s' ∧ c.held = some ⟨s, id⟩ ∧ d.held = some ⟨s', id⟩ := by
  obtain ⟨a, transport, shellId, errors⟩ := c
  obtain ⟨b, transport', shellId', errors'⟩ := d
  obtain ⟨-, htransport, rfl, -⟩ := h
  cases htransport with
  | none => exact .inl ⟨rfl, rfl⟩
  | some hs =>
    cases shellId with
    | none => exact .inl ⟨rfl, rfl⟩
    | some id => exact .inr ⟨_, _, id, hs, rfl, rfl⟩

/-! ### Texts -/

theorem address_eq (h : c.Twins d) : c.address = d.address := by
  rw [address, address, h.config.target, h.config.port]

theorem notConnected_eq (h : c.Twins d) : c.notConnected = d.notConnected := by
  rw [notConnected, notConnected, h.config.target]

theorem naming_eq (h : c.Twins d) (command : String) : c.naming command = d.naming command := by
  rw [naming, naming, h.config.target]

theorem cancelled_eq (h : c.Twins d) (command : String) :
    c.cancelled command = d.cancelled command := by
  rw [cancelled, cancelled, h.naming_eq]

theorem conclude_eq (h : c.Twins d) (command : String) (r : Outcome ShellOutput) :
    c.conclude command r = d.conclude command r := by
  have hfailure : ∀ reason, c.commandFailure command reason = d.commandFailure command reason := by
    intro reason
    rw [commandFailure, commandFailure, h.naming_eq]
  cases r with
  | error e => exact congrArg Except.error (hfailure e.message)
  | ok out => rw [conclude, conclude, hfailure]

/-! ### Operations -/

theorem emptied (h : c.Twins d) : c.emptied.Twins d.emptied := ⟨h.config, .none, rfl, h.errors⟩

theorem destroy (h : c.Twins d) : InStep SameEnd c.destroy d.destroy := by
  rw [destroy_eq, destroy_eq]
  obtain ⟨hc, hd⟩ | ⟨s, s', id, hs, hc, hd⟩ := h.held_cases
  · rw [hc, hd]
    exact .done ⟨rfl, h.emptied⟩
  · rw [hc, hd]
    exact .closeShell hs fun r => .done ⟨rfl, h.emptied⟩

theorem reportClosing (h : c.Twins d) (r : Outcome Unit) :
    InStep Eq (c.reportClosing r) (d.reportClosing r) := by
  cases r with
  | ok u => exact .done rfl
  | error e =>
    rw [Client.reportClosing, Client.reportClosing, h.config.target]
    exact .report fun u => .done rfl

theorem openOver (h : c.Twins d) {s s' : Service} (hs : s.Twins s') :
    InStep SameEnd (c.openOver s) (d.openOver s') := by
  refine h.destroy.bind ?_
  rintro ⟨closing, c₁⟩ ⟨_, d₁⟩ ⟨rfl, h₁⟩
  refine (h₁.reportClosing closing).bind fun _ _ _ => .openShell hs fun r => ?_
  cases r with
  | ok id => exact .done ⟨rfl, h₁.config, .some hs, rfl, h₁.errors⟩
  | error e =>
    rw [h₁.address_eq]
    exact .report fun _ => .done ⟨rfl, h₁⟩

theorem keep (h : c.Twins d) (r : Outcome String) : InStep SameEnd (c.keep r) (d.keep r) := by
  cases r with
  | ok output => exact .done ⟨rfl, h⟩
  | error e =>
    have herrors : c.errors ++ [e] = d.errors ++ [e] := by rw [h.errors]
    exact .report fun _ => .done ⟨rfl, h.config, h.transport, h.shellId, herrors⟩

theorem execute (h : c.Twins d) (command : String) :
    InStep SameEnd (c.execute command) (d.execute command) := by
  rw [execute_eq, execute_eq, h.notConnected_eq]
  obtain ⟨hc, hd⟩ | ⟨s, s', id, hs, hc, hd⟩ := h.held_cases
  · rw [hc, hd]
    exact .done ⟨rfl, h⟩
  · rw [hc, hd]
    refine .run hs fun r => ?_
    rw [h.conclude_eq]
    exact h.keep _

theorem executeOrCancel (h : c.Twins d) (command : String) :
    InStep SameEnd (c.executeOrCancel command) (d.executeOrCancel command) := by
  rw [executeOrCancel_eq, executeOrCancel_eq, h.notConnected_eq, h.cancelled_eq]
  obtain ⟨hc, hd⟩ | ⟨s, s', id, hs, hc, hd⟩ := h.held_cases
  · rw [hc, hd]
    exact .done ⟨rfl, h⟩
  · rw [hc, hd]
    refine .runOrCancel hs fun r => ?_
    cases r with
    | none => exact .done ⟨rfl, h⟩
    | some r =>
      show InStep SameEnd (c.keep (c.conclude command r)) (d.keep (d.conclude command r))
      rw [h.conclude_eq]
      exact h.keep _

theorem init (h : c.Twins d) : InStep SameEnd (c.init env) (d.init env) := by
  obtain ⟨p, hp⟩ := h.config
  unfold Client.init initWith
  rw [hp, service_withPassword]
  cases service env c.config with
  | error e => exact .done ⟨rfl, h⟩
  | ok s => exact h.openOver ⟨p, rfl⟩

end Twins

/-! ### Tasks -/

/-- The tasks are the same, but for the password that they may configure. -/
inductive Task.Alike : Task → Task → Prop
  | same (task : Task) : Alike task task
  | configure {a b : Json} : (Config.ofContext a).1.Twins (Config.ofContext b).1 →
      (Config.ofContext a).2 = (Config.ofContext b).2 → Alike (.configure a) (.configure b)

theorem InStep.finished {t t' : ShellTalk Service (Outcome Unit × Client Service)}
    (h : InStep SameEnd t t') : InStep SameEnd (finished t) (finished t') := by
  refine h.bind ?_
  rintro ⟨r, c⟩ ⟨_, d⟩ ⟨rfl, h⟩
  exact .done ⟨rfl, h⟩

theorem InStep.printed {t t' : ShellTalk Service (Outcome String × Client Service)}
    (h : InStep SameEnd t t') : InStep SameEnd (printed t) (printed t') := by
  refine h.bind ?_
  rintro ⟨r, c⟩ ⟨_, d⟩ ⟨rfl, h⟩
  exact .done ⟨rfl, h⟩

theorem inStep_reportAll (log : List LogRecord) : InStep Eq (reportAll log) (reportAll log) := by
  induction log with
  | nil => exact .done rfl
  | cons r log ih => exact .report fun _ => ih

theorem Twins.configure (h : c.Twins d) {a b : Json}
    (hconfig : (Config.ofContext a).1.Twins (Config.ofContext b).1)
    (hlog : (Config.ofContext a).2 = (Config.ofContext b).2) :
    InStep SameEnd (c.carryOut env (.configure a)) (d.carryOut env (.configure b)) := by
  show InStep SameEnd (reportAll (Config.ofContext a).2 >>= _)
    (reportAll (Config.ofContext b).2 >>= _)
  rw [hlog]
  exact (inStep_reportAll _).bind fun _ _ _ =>
    .done ⟨rfl, hconfig, h.transport, h.shellId, h.errors⟩

theorem Twins.carryOut (h : c.Twins d) {task task' : Task} (htask : task.Alike task') :
    InStep SameEnd (c.carryOut env task) (d.carryOut env task') := by
  cases htask with
  | configure hconfig hlog => exact h.configure hconfig hlog
  | same =>
    cases task with
    | configure context => exact h.configure (.refl _) rfl
    | init => exact InStep.finished h.init
    | execute command => exact InStep.printed (h.execute command)
    | executeOrCancel command => exact InStep.printed (h.executeOrCancel command)
    | destroy => exact InStep.finished h.destroy

theorem Twins.carryOutAll (h : c.Twins d) {tasks tasks' : List Task}
    (htasks : List.Forall₂ Task.Alike tasks tasks') :
    InStep SameEnd (c.carryOutAll env tasks) (d.carryOutAll env tasks') := by
  induction htasks generalizing c d with
  | nil => exact .done ⟨rfl, h⟩
  | cons htask _ ih =>
    -- A task leaves twins again, and these carry out the others.
    refine (h.carryOut htask).bind ?_
    rintro ⟨r, c₁⟩ ⟨_, d₁⟩ ⟨rfl, h₁⟩
    refine (ih h₁).bind ?_
    rintro ⟨rs, c₂⟩ ⟨_, d₂⟩ ⟨rfl, h₂⟩
    exact .done ⟨rfl, h₂⟩

end Client

end RemoteHost.Winrm
