/-
RemoteHost/Proofs/Winrm/DebugText.lean

What the debug texts tell about the password.

The text of a service, and that of a way to log in, leave the password out, so they are the same
for two configurations that differ in nothing else.  The text of a client shows its whole
configuration.  So for twin clients it is the same only where the passwords are
(`Twins.debug_eq_iff`), whatever they have done before (`debug_shows_password_iff`).
-/
import RemoteHost.Proofs.Text.Quoted
import RemoteHost.Proofs.Winrm.TwinClients

namespace RemoteHost.Winrm

variable {env : Environment}

/-! ### Texts without the password -/

theorem Authentication.debug_withPassword (a : Authentication) (p : String) :
    (a.withPassword p).debug = a.debug := by
  cases a with
  | basic => rw [withPassword, debug, debug]
  | ntlm => rw [withPassword, debug, debug]

theorem Service.debug_congr {s t : Service} (haddress : s.address = t.address)
    (hauthentication : s.authentication.debug = t.authentication.debug) : s.debug = t.debug := by
  delta debug
  rw [haddress, hauthentication]

theorem Service.debug_withPassword (s : Service) (p : String) :
    (s.withPassword p).debug = s.debug :=
  debug_congr rfl (s.authentication.debug_withPassword p)

theorem Service.map_debug_withPassword (c : Config) (a : Authentication) (p : String) :
    (ofConfig (c.withPassword p) (a.withPassword p)).map (·.debug) =
      (ofConfig c a).map (·.debug) := by
  rw [ofConfig_withPassword]
  cases ofConfig c a with
  | error e => rfl
  | ok s => exact congrArg Except.ok (s.debug_withPassword p)

/-! ### The text of a client -/

theorem append_quoted_append_inj (a₁ a₂ a₃ a₄ a₅ a₆ a₇ : String) {front p q : String}
    (h : front ++ Text.quoted p ++ a₁ ++ a₂ ++ a₃ ++ a₄ ++ a₅ ++ a₆ ++ a₇ =
      front ++ Text.quoted q ++ a₁ ++ a₂ ++ a₃ ++ a₄ ++ a₅ ++ a₆ ++ a₇) : p = q := by
  simp only [String.append_left_inj, String.append_right_inj] at h
  exact Text.quoted_injective h

theorem Config.debug_withPassword_inj (c : Config) {p q : String} :
    (c.withPassword p).debug = (c.withPassword q).debug ↔ p = q := by
  constructor
  · intro h
    exact append_quoted_append_inj _ _ _ _ _ _ _ h
  · rintro rfl
    rfl

theorem Config.Twins.debug_eq_iff {a b : Config} (h : a.Twins b) :
    a.debug = b.debug ↔ a.password = b.password := by
  obtain ⟨p, rfl⟩ := h
  exact Config.debug_withPassword_inj a

namespace Client

theorem append_append_inj (a₁ a₂ a₃ a₄ a₅ : String) {front x y : String} :
    front ++ x ++ a₁ ++ a₂ ++ a₃ ++ a₄ ++ a₅ = front ++ y ++ a₁ ++ a₂ ++ a₃ ++ a₄ ++ a₅ ↔
      x = y := by
  simp only [String.append_left_inj, String.append_right_inj]

variable {c d : Client Service}

theorem debug_eq_iff_config (hshell : c.shellId = d.shellId) (herrors : c.errors = d.errors) :
    c.debug = d.debug ↔ c.config.debug = d.config.debug := by
  delta debug
  rw [hshell, herrors]
  exact append_append_inj _ _ _ _ _

/-- Twin clients have the same text only where they have the same password. -/
theorem Twins.debug_eq_iff (h : c.Twins d) :
    c.debug = d.debug ↔ c.config.password = d.config.password :=
  (debug_eq_iff_config h.shellId h.errors).trans h.config.debug_eq_iff

/-- The ways to log in with a configuration: the one that fits the user name, and NTLM. -/
def ways (env : Environment) (c : Config) : List Authentication :=
  [.ofName env c.username c.password, .ntlm (.ofName env c.username c.password)]

theorem ways_withPassword (env : Environment) (c : Config) (p : String) :
    ways env (c.withPassword p) = (ways env c).map (·.withPassword p) :=
  congrArg (fun a => [a, Authentication.ntlm (.ofName env c.username p)])
    (Authentication.ofName_withPassword env c.username c.password p)

/-- Of what there is to debug of two clients, only their own texts tell their passwords apart: not
the ways to log in with their configurations, and not the services. -/
structure DebugAlike (env : Environment) (c d : Client Service) : Prop where
  client : c.debug = d.debug ↔ c.config.password = d.config.password
  authentication : (ways env c.config).map (·.debug) = (ways env d.config).map (·.debug)
  service : (ways env c.config).map (fun a => (Service.ofConfig c.config a).map (·.debug)) =
    (ways env d.config).map fun a => (Service.ofConfig d.config a).map (·.debug)

theorem Twins.debugAlike (h : c.Twins d) : DebugAlike env c d := by
  obtain ⟨p, hp⟩ := h.config
  refine ⟨h.debug_eq_iff, ?_, ?_⟩
  · simp only [hp, ways_withPassword, List.map_map, Function.comp_def,
      Authentication.debug_withPassword]
  · simp only [hp, ways_withPassword, List.map_map, Function.comp_def,
      Service.map_debug_withPassword]

/-- Two clients differ in their passwords at most, and carry out the same tasks, but for the
passwords that these may configure.  As long as the outside replies the same, they come to the same
results and differ in their passwords at most again.  Before and after, the debug text of the one
client is that of the other exactly where the passwords are the same, and those of the ways to log
in and of the services are the same in any case. -/
theorem debug_shows_password_iff (env : Environment) (h : c.Twins d) {tasks tasks' : List Task}
    (htasks : List.Forall₂ Task.Alike tasks tasks') :
    DebugAlike env c d ∧
      InStep (fun x y => x.1 = y.1 ∧ x.2.Twins y.2 ∧ DebugAlike env x.2 y.2)
        (c.carryOutAll env tasks) (d.carryOutAll env tasks') :=
  ⟨h.debugAlike, (h.carryOutAll htasks).mono fun _ _ hend => ⟨hend.1, hend.2, hend.2.debugAlike⟩⟩

/-- Clients of one host with two passwords, and with a shell that is opened and closed again. -/
theorem debug_shows_password_iff_two_passwords :
    let c : Client Service :=
      { config := { target := "win01", username := "admin", password := "pw" } }
    let d : Client Service := { config := { target := "win01", username := "admin" } }
    let env : Environment := fun _ => none
    let tasks : List Task := [.init, .destroy]
    c.Twins d ∧ List.Forall₂ Task.Alike tasks tasks ∧ DebugAlike env c d ∧
      InStep (fun x y => x.1 = y.1 ∧ x.2.Twins y.2 ∧ DebugAlike env x.2 y.2)
        (c.carryOutAll env tasks) (d.carryOutAll env tasks) := by
  intro c d env tasks
  have htwins : c.Twins d := twins_of_config ⟨"", rfl⟩
  have htasks : List.Forall₂ Task.Alike tasks tasks := .cons (.same _) (.cons (.same _) .nil)
  exact ⟨htwins, htasks, debug_shows_password_iff env htwins htasks⟩

/-- The debug text of a client tells that it has no password. -/
theorem debug_tells_empty_password :
    let c : Client Service :=
      { config := { target := "win01", username := "admin", password := "pw" } }
    let d : Client Service := { config := { target := "win01", username := "admin" } }
    c.Twins d ∧ c.debug ≠ d.debug := by
  intro c d
  have htwins : c.Twins d := twins_of_config ⟨"", rfl⟩
  refine ⟨htwins, fun hsame => ?_⟩
  have hpassword : "pw" = "" := htwins.debug_eq_iff.1 hsame
  exact absurd hpassword (by decide)

end Client

end RemoteHost.Winrm
