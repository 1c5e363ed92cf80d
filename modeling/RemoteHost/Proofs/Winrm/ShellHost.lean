/-
RemoteHost/Proofs/Winrm/ShellHost.lean

The host of a client's shell, and the host that the configuration of the client names.

A client opens its shell on the host that its configuration names at that time (`init`), and the
shell keeps the service over which it was opened.  A client may be configured anew at any time,
and that leaves the shell open.  So the shell of a client goes back to the last `init` that
succeeded, and the configuration to the last time that the client was configured
(`runs_carryOutAll`).  The two name the same host and login exactly where what was configured in
between, if anything was, names them too (`shell_host_named_iff`).

Where it does not, commands still run in the open shell, and their failures name the other host
(`reconfigured_client_misnames_host`).
-/
import RemoteHost.Proofs.Winrm.ClientShells
import RemoteHost.Winrm.Remote

namespace RemoteHost.Winrm

/-- The two configurations name the same host, the same port and the same login. -/
def Config.SamePlace (a b : Config) : Prop :=
  a.target = b.target ∧ a.port = b.port ∧ a.username = b.username ∧ a.password = b.password

theorem Config.SamePlace.refl (a : Config) : a.SamePlace a := ⟨rfl, rfl, rfl, rfl⟩

namespace Client

open Dialogue

/-! ### Tasks -/

/-- A task of a client that opens its shell on the host of its configuration. -/
inductive Task where
  | configure (context : Json)
  | init
  | execute (command : String)
  | executeOrCancel (command : String)
  | destroy

/-- Carry out a task. -/
def carryOut (env : Environment) (c : Client Service) :
    Task → ShellTalk Service (Outcome Result × Client Service)
  | .configure context => c.perform (.configure context)
  | .init => finished (c.init env)
  | .execute command => c.perform (.execute command)
  | .executeOrCancel command => c.perform (.executeOrCancel command)
  | .destroy => c.perform .destroy

/-- Carry out tasks one after the other. -/
def carryOutAll (env : Environment) (c : Client Service) :
    List Task → ShellTalk Service (List (Outcome Result) × Client Service)
  | [] => pure ([], c)
  | task :: tasks => do
    let (r, c) ← c.carryOut env task
    let (rs, c) ← c.carryOutAll env tasks
    pure (r :: rs, c)

/-- The context that a task configures the client with. -/
def Task.context? : Task → Option Json
  | .configure context => some context
  | _ => none

/-- The context that the last of some tasks to configure the client does so with. -/
def lastContext? (tasks : List Task) : Option Json := (tasks.filterMap Task.context?).getLast?

/-- The configuration after some tasks. -/
def configuredBy (config : Config) (tasks : List Task) : Config :=
  match lastContext? tasks with
  | some context => (Config.ofContext context).1
  | none => config

/-- The task, with this result, puts another shell in the place of the one that is held, or
none. -/
def Replaces : Task × Outcome Result → Prop
  | (.init, .ok _) => True
  | (.destroy, _) => True
  | _ => False

theorem lastContext?_append (tasks tasks' : List Task) :
    lastContext? (tasks ++ tasks') = (lastContext? tasks').or (lastContext? tasks) := by
  rw [lastContext?, List.filterMap_append, List.getLast?_append]
  rfl

theorem configuredBy_append (config : Config) (tasks tasks' : List Task) :
    configuredBy config (tasks ++ tasks') = configuredBy (configuredBy config tasks) tasks' := by
  unfold configuredBy
  rw [lastContext?_append]
  cases lastContext? tasks' with
  | none => rfl
  | some context => rfl

variable {env : Environment} {c c' : Client Service} {t : List (ShellExchange Service)}

/-! ### What a task does -/

theorem held_of_keep {o : Outcome String} {r : Outcome String}
    (h : Runs (c.keep o) t (r, c')) : c'.held = c.held ∧ c'.config = c.config := by
  obtain ⟨-, ⟨-, -, -, rfl⟩ | ⟨-, -, -, -, rfl⟩⟩ := runs_keep h
  · exact ⟨rfl, rfl⟩
  · exact ⟨rfl, rfl⟩

/-- A command leaves the shell and the configuration as they are. -/
theorem held_of_execute {command : String} {r : Outcome String}
    (h : Runs (c.execute command) t (r, c')) : c'.held = c.held ∧ c'.config = c.config := by
  rcases runs_execute h with ⟨-, -, -, rfl⟩ | ⟨o, reply, t', -, -, h₁⟩
  · exact ⟨rfl, rfl⟩
  · exact held_of_keep h₁

theorem held_of_executeOrCancel {command : String} {r : Outcome String}
    (h : Runs (c.executeOrCancel command) t (r, c')) :
    c'.held = c.held ∧ c'.config = c.config := by
  rcases runs_executeOrCancel h with ⟨-, -, -, rfl⟩ | ⟨o, reply, t', -, -, h₁⟩
  · exact ⟨rfl, rfl⟩
  · rcases h₁ with ⟨-, -, -, rfl⟩ | ⟨reply', -, h₂⟩
    · exact ⟨rfl, rfl⟩
    · exact held_of_keep h₂

/-- Without a service to name, and without an HTTP client, the client stays as it is; with both,
another shell is opened over the service. -/
theorem runs_initWith {http : Except String Unit} {r : Outcome Unit}
    (h : Runs (c.initWith http env) t (r, c')) :
    (∃ e, service env c.config = .error e ∧ t = [] ∧ r = .error e ∧ c' = c) ∨
      (∃ s reason, service env c.config = .ok s ∧ http = .error reason ∧ t = [] ∧
        r = .error (noHttpClient reason) ∧ c' = c) ∨
      ∃ s, service env c.config = .ok s ∧ http = .ok () ∧ Runs (c.openOver s) t (r, c') := by
  unfold initWith at h
  cases hservice : service env c.config with
  | error e =>
    simp only [hservice] at h
    obtain ⟨rfl, hr⟩ := runs_done.1 h
    obtain ⟨rfl, rfl⟩ := Prod.mk.inj hr
    exact .inl ⟨e, rfl, rfl, rfl, rfl⟩
  | ok s =>
    simp only [hservice] at h
    cases http with
    | error reason =>
      obtain ⟨rfl, hr⟩ := runs_done.1 h
      obtain ⟨rfl, rfl⟩ := Prod.mk.inj hr
      exact .inr (.inl ⟨s, reason, rfl, rfl, rfl, rfl, rfl⟩)
    | ok u => exact .inr (.inr ⟨s, rfl, rfl, h⟩)

/-- Without a service to name, the client stays as it is; with one, another shell is opened over it
in the place of the one that is held, or none is held any more. -/
theorem runs_init {r : Outcome Unit} (h : Runs (c.init env) t (r, c')) :
    c'.config = c.config ∧
      ((∃ e, r = .error e ∧ c' = c) ∨ c'.held = none ∨
        ∃ s id, service env c.config = .ok s ∧ r = .ok () ∧ c'.held = some ⟨s, id⟩) := by
  rcases runs_initWith h with ⟨e, -, -, rfl, rfl⟩ | ⟨_, _, _, hhttp, _⟩ | ⟨s, hservice, -, hopen⟩
  · exact ⟨rfl, .inl ⟨e, rfl, rfl⟩⟩
  · cases hhttp
  · obtain ⟨-, -, -, -, -, -, -, -, ⟨id, -, -, rfl, rfl⟩ | ⟨-, -, -, -, rfl⟩⟩ :=
      runs_openOver hopen
    · exact ⟨rfl, .inr (.inr ⟨s, id, hservice, rfl, rfl⟩)⟩
    · exact ⟨rfl, .inr (.inl rfl)⟩

/-- The shell that is held after a task was held before, or the task has opened it on the host that
the configuration names. -/
theorem runs_carryOut {task : Task} {r : Outcome Result}
    (h : Runs (c.carryOut env task) t (r, c')) :
    c'.config = configuredBy c.config [task] ∧
      ∀ o, c'.held = some o → (c.held = some o ∧ ¬ Replaces (task, r)) ∨
        (task = .init ∧ r = .ok .done ∧ service env c.config = .ok o.service) := by
  cases task with
  | configure context =>
    obtain ⟨t₁, t₂, u, rfl, h₁, h₂⟩ := runs_bind.1 h
    obtain ⟨rfl, hr⟩ := runs_done.1 h₂
    obtain ⟨rfl, rfl⟩ := Prod.mk.inj hr
    exact ⟨rfl, fun o ho => .inl ⟨ho, id⟩⟩
  | init =>
    obtain ⟨r', h₁, rfl⟩ := runs_finished h
    obtain ⟨hconfig, ⟨e, rfl, rfl⟩ | hnone | ⟨s, id, hservice, rfl, hheld⟩⟩ := runs_init h₁
    · exact ⟨rfl, fun o ho => .inl ⟨ho, fun hreplaces => hreplaces⟩⟩
    · refine ⟨hconfig, fun o ho => ?_⟩
      rw [hnone] at ho
      cases ho
    · refine ⟨hconfig, fun o ho => .inr ⟨rfl, rfl, ?_⟩⟩
      obtain rfl := Option.some.inj (hheld.symm.trans ho)
      exact hservice
  | execute command =>
    obtain ⟨r', h₁, rfl⟩ := runs_printed h
    obtain ⟨hheld, hconfig⟩ := held_of_execute h₁
    exact ⟨hconfig, fun o ho => .inl ⟨hheld.symm.trans ho, id⟩⟩
  | executeOrCancel command =>
    obtain ⟨r', h₁, rfl⟩ := runs_printed h
    obtain ⟨hheld, hconfig⟩ := held_of_executeOrCancel h₁
    exact ⟨hconfig, fun o ho => .inl ⟨hheld.symm.trans ho, id⟩⟩
  | destroy =>
    obtain ⟨r', h₁, rfl⟩ := runs_finished h
    obtain ⟨rfl, -⟩ := runs_destroy h₁
    refine ⟨rfl, fun o ho => ?_⟩
    cases ho

/-! ### Tasks in a row -/

/-- The shell that is held after some tasks was held before them, or the last task to open one has
opened it on the host that the configuration named at that time. -/
theorem runs_carryOutAll {tasks : List Task} {rs : List (Outcome Result)}
    (h : Runs (c.carryOutAll env tasks) t (rs, c')) :
    rs.length = tasks.length ∧ c'.config = configuredBy c.config tasks ∧
      ∀ o, c'.held = some o →
        (c.held = some o ∧ ∀ x ∈ tasks.zip rs, ¬ Replaces x) ∨
        ∃ before after, tasks.zip rs = before ++ (.init, .ok .done) :: after ∧
          (∀ x ∈ after, ¬ Replaces x) ∧
          service env (configuredBy c.config (before.map Prod.fst)) = .ok o.service := by
  induction tasks generalizing c t rs with
  | nil =>
    obtain ⟨rfl, hr⟩ := runs_done.1 h
    obtain ⟨rfl, rfl⟩ := Prod.mk.inj hr
    exact ⟨rfl, rfl, fun o ho => .inl ⟨ho, fun x hx => absurd hx List.not_mem_nil⟩⟩
  | cons task tasks ih =>
    obtain ⟨t₁, t', ⟨r, c₁⟩, rfl, h₁, h₂⟩ := runs_bind.1 h
    obtain ⟨t₂, t₃, ⟨rs', c₂⟩, rfl, h₃, h₄⟩ := runs_bind.1 h₂
    obtain ⟨rfl, hr⟩ := runs_done.1 h₄
    obtain ⟨rfl, rfl⟩ := Prod.mk.inj hr
    obtain ⟨hconfig, hheld⟩ := runs_carryOut h₁
    obtain ⟨hlen, hconfigs, horigin⟩ := ih h₃
    have hcons : ∀ tasks', configuredBy c.config (task :: tasks') =
        configuredBy c₁.config tasks' := by
      intro tasks'
      rw [hconfig, ← configuredBy_append]
      rfl
    refine ⟨congrArg (· + 1) hlen, by rw [hconfigs, hcons], fun o ho => ?_⟩
    -- The later tasks kept the shell, and then the first one decides, or one of them opened it.
    rcases horigin o ho with ⟨ho₁, hkeeps⟩ | ⟨before, after, hzip, hkeeps, hservice⟩
    · rcases hheld o ho₁ with ⟨ho₀, hkeep⟩ | ⟨rfl, rfl, hservice⟩
      · exact .inl ⟨ho₀, List.forall_mem_cons.2 ⟨hkeep, hkeeps⟩⟩
      · exact .inr ⟨[], tasks.zip rs', rfl, hkeeps, hservice⟩
    · refine .inr ⟨(task, r) :: before, after, ?_, hkeeps, ?_⟩
      · rw [List.zip_cons_cons, hzip]
        rfl
      · rw [List.map_cons, hcons]
        exact hservice

theorem returns_init (env : Environment) (c : Client Service) : Returns (c.init env) := by
  unfold init initWith
  split
  · exact .done _
  · exact c.returns_openOver _

theorem returns_carryOut (env : Environment) (c : Client Service) (task : Task) :
    Returns (c.carryOut env task) := by
  cases task with
  | init => exact (returns_init env c).bind fun _ => .done _
  | configure context => exact c.returns_perform (.configure context)
  | execute command => exact c.returns_perform (.execute command)
  | executeOrCancel command => exact c.returns_perform (.executeOrCancel command)
  | destroy => exact c.returns_perform .destroy

theorem returns_carryOutAll (env : Environment) (c : Client Service) (tasks : List Task) :
    Returns (c.carryOutAll env tasks) := by
  induction tasks generalizing c with
  | nil => exact .done _
  | cons task tasks ih =>
    exact (returns_carryOut env c task).bind fun r => (ih r.2).bind fun _ => .done _

/-! ### The host that is named -/

/-- What was configured since then decides whether the configuration still names the same place. -/
theorem samePlace_configuredBy_iff {config : Config} {tasks : List Task} :
    (configuredBy config tasks).SamePlace config ↔
      ∀ context, lastContext? tasks = some context →
        (Config.ofContext context).1.SamePlace config := by
  unfold configuredBy
  cases lastContext? tasks with
  | none => exact ⟨nofun, fun _ => .refl config⟩
  | some context =>
    constructor
    · rintro hsame _ ⟨⟩
      exact hsame
    · intro hsame
      exact hsame context rfl

/-- A command goes to the shell that is held, and if it fails, the failure names the host of the
configuration. -/
theorem execute_in_held {o : OpenShell Service} {command : String} {r : Outcome String}
    (ho : c.held = some o) (h : Runs (c.execute command) t (r, c')) :
    (∃ reply rest, t =
      ⟨.run o.service o.id PowerShell.program (PowerShell.arguments command), reply⟩ :: rest) ∧
    ∀ e, r = .error e → ∃ reason, e.message =
      "'" ++ command ++ "' on " ++ c.config.target ++ " failed: " ++ reason := by
  rcases runs_execute h with ⟨hnone, -⟩ | ⟨o', reply, t', ho', rfl, h₁⟩
  · rw [ho] at hnone
    cases hnone
  · obtain rfl := Option.some.inj (ho.symm.trans ho')
    refine ⟨⟨reply, t', rfl⟩, ?_⟩
    rintro e rfl
    obtain ⟨hr, -⟩ := runs_keep h₁
    cases reply with
    | error e' =>
      obtain rfl := Except.error.inj hr
      exact ⟨e'.message, rfl⟩
    | ok out =>
      simp only [conclude] at hr
      split at hr
      · cases hr
      · obtain rfl := Except.error.inj hr
        exact ⟨_, rfl⟩

/-- A new client carries out some tasks one after the other, against any outside.  If it holds a
shell then, the last `init` that succeeded has opened it over the service of the configuration of
that time.  The client's configuration still names the host, the port and the login of the shell
exactly where the last context that it was configured with since then, if there is one, names
them.  Commands go to the shell in any case, and their failures name the host of the
configuration. -/
theorem shell_host_named_iff {ω : Type} (answer : (x : ShellCall Service) → ω → x.Reply × ω)
    (w : ω) (env : Environment) (config : Config) (tasks : List Task) :
    let played := (carryOutAll env { config } tasks).play answer w
    ∃ results c, played.result? = some (results, c) ∧ results.length = tasks.length ∧
      ∀ o, c.held = some o → ∃ before opened after,
        tasks.zip results = before ++ (.init, .ok .done) :: after ∧
        (∀ x ∈ after, ¬ Replaces x) ∧
        opened = configuredBy config (before.map Prod.fst) ∧
        service env opened = .ok o.service ∧
        (c.config.SamePlace opened ↔
          ∀ context, lastContext? (after.map Prod.fst) = some context →
            (Config.ofContext context).1.SamePlace opened) ∧
        ∀ command w',
          let run := (c.execute command).play answer w';
          (∃ reply rest, run.exchanges =
            ⟨.run o.service o.id PowerShell.program (PowerShell.arguments command), reply⟩ ::
              rest) ∧
          ∀ e c', run.result? = some (.error e, c') → ∃ reason, e.message =
            "'" ++ command ++ "' on " ++ c.config.target ++ " failed: " ++ reason := by
  intro played
  obtain ⟨⟨results, c⟩, hresult⟩ := (returns_carryOutAll env { config } tasks).play answer w
  obtain ⟨hlen, hconfig, horigin⟩ := runs_carryOutAll (runs_of_play hresult)
  refine ⟨results, c, hresult, hlen, fun o ho => ?_⟩
  -- A new client holds no shell, so one of the tasks has opened the one that it holds.
  rcases horigin o ho with ⟨hnone, -⟩ | ⟨before, after, hzip, hkeeps, hservice⟩
  · cases hnone
  · have htasks : tasks = before.map Prod.fst ++ .init :: after.map Prod.fst := by
      have hfst : (tasks.zip results).map Prod.fst = tasks :=
        List.map_fst_zip (Nat.le_of_eq hlen.symm)
      rw [← hfst, hzip, List.map_append, List.map_cons]
    have hsince : c.config =
        configuredBy (configuredBy config (before.map Prod.fst)) (after.map Prod.fst) := by
      rw [hconfig, htasks, configuredBy_append]
      rfl
    refine ⟨before, _, after, hzip, hkeeps, rfl, hservice, ?_, ?_⟩
    · rw [hsince]
      exact samePlace_configuredBy_iff
    · intro command w' run
      obtain ⟨⟨r, c'⟩, hr⟩ := (c.returns_execute command).play answer w'
      obtain ⟨hruns, hnames⟩ := execute_in_held ho (runs_of_play hr)
      refine ⟨hruns, fun e c'' he => ?_⟩
      obtain ⟨rfl, -⟩ := Prod.mk.inj (Option.some.inj (hr.symm.trans he))
      exact hnames e rfl

/-! ### A client that is configured anew -/

/-- An outside where every command complains. -/
def complaining : (x : ShellCall Service) → Unit → x.Reply × Unit
  | .openShell _, w => (.ok "S", w)
  | .run _ _ _ _, w => (.ok { stdout := "", stderr := "boom", exitCode := some 1 }, w)
  | .runOrCancel _ _ _ _, w => (none, w)
  | .closeShell _ _, w => (.ok (), w)
  | .localFile _, w => (.ok [], w)
  | .report _, w => ((), w)

/-- A host that a client opens its shell on. -/
def firstHost : Config := { target := "::1", username := "admin", password := "pw" }

/-- The service of that host. -/
def firstService : Service where
  endpoint := { scheme := .http, host := .ipv6 ⟨[0, 0, 0, 0, 0, 0, 0, 1]⟩, port := some 5985
                path := "/wsman" }
  authentication := .basic "admin" "pw"
  operationTimeout := "PT60S"

/-- The context of another host. -/
def secondHost : Json :=
  .obj [("target", .str "::2"), ("username", .str "admin"), ("password", .str "pw")]

/-- A client opens a shell on one host and is configured for another one: the command runs in the
shell on the first host, and the failure and the log name the second one. -/
theorem reconfigured_client_misnames_host :
    let played := (carryOutAll (fun _ => none) { config := firstHost }
      [.init, .configure secondHost, .execute "dir"]).play complaining ()
    service (fun _ => none) firstHost = .ok firstService ∧
    played.exchanges =
      [⟨.openShell firstService, (.ok "S" : Outcome String)⟩,
        ⟨.run firstService "S" PowerShell.program (PowerShell.arguments "dir"),
          (.ok { stdout := "", stderr := "boom", exitCode := some 1 } : Outcome ShellOutput)⟩,
        ⟨.report (.error "'dir' on ::2 failed: boom"), ()⟩] ∧
    ∃ c, played.result? =
        some ([.ok .done, .ok .done,
          .error ⟨.commandFailed, "'dir' on ::2 failed: boom", some "FAIL"⟩], c) ∧
      c.held = some ⟨firstService, "S"⟩ ∧ ¬ c.config.SamePlace firstHost := by
  have hservice : service (fun _ => none) firstHost = .ok firstService := by rfl
  refine ⟨hservice, by rfl, _, by rfl, by rfl, ?_⟩
  rintro ⟨htarget, -⟩
  exact absurd htarget (by decide)

end Client

end RemoteHost.Winrm
