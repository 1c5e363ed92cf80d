/-
RemoteHost/Proofs/Settings.lean

What the environment has to say in settings that are given in part.

A field that is given hides its variable, so the environment is looked at only for the fields
that are left to it (`resolve_congr`).  What it does not supply either is missing: the first
credential that is lacking on both sides is what a failure names, and with none lacking there is a
result, in which every value that was given stands as it was (`resolve_cases`).
-/
import RemoteHost.Settings

namespace RemoteHost.Settings

variable {env env₁ env₂ : Environment} {s : Settings} {v? : Option String} {k : String}

/-! ### Fields that are left to the environment -/

/-- The text is absent or empty. -/
def Unset (v : Option String) : Prop := v = none ∨ v = some ""

instance (v : Option String) : Decidable (Unset v) := inferInstanceAs (Decidable (_ ∨ _))

/-- A field of the settings. -/
inductive Field where
  | host
  | username
  | password
  | insecure
  | useCerts
  | apiVersion

/-- The variable that a field is looked up in. -/
def Field.key : Field → String
  | host => "STORAGE_HOST"
  | username => "STORAGE_USERNAME"
  | password => "STORAGE_PASSWORD"
  | insecure => "STORAGE_INSECURE"
  | useCerts => "STORAGE_USE_CERTS"
  | apiVersion => "STORAGE_API_VERSION"

/-- The settings leave a field to the environment.  A flag that is off is a value, an empty text
is none. -/
def Leaves (s : Settings) : Field → Prop
  | .host => Unset s.host
  | .username => Unset s.username
  | .password => Unset s.password
  | .insecure => s.insecure = none
  | .useCerts => s.useCerts = none
  | .apiVersion => Unset s.apiVersion

theorem nonEmpty?_of_ne {v : String} (h : v ≠ "") : nonEmpty? v = some v :=
  if_neg fun hempty => h (String.isEmpty_iff.1 hempty)

theorem bind_nonEmpty?_eq_none_iff : v?.bind nonEmpty? = none ↔ Unset v? := by
  cases v? with
  | none => exact iff_of_true rfl (.inl rfl)
  | some v =>
    by_cases h : v = ""
    · subst h
      exact iff_of_true rfl (.inr rfl)
    · rw [Option.bind_some, nonEmpty?_of_ne h]
      refine iff_of_false nofun ?_
      rintro (hnone | hempty)
      · cases hnone
      · exact h (Option.some.inj hempty)

/-- A text that is given is taken as it is. -/
theorem text_of_given {v : String} (h : v ≠ "") : text env (some v) k = some v := by
  rw [text, Option.bind_some, nonEmpty?_of_ne h, Option.some_or]

theorem text_eq_none_iff : text env v? k = none ↔ Unset v? ∧ Unset (env k) := by
  rw [text, Option.or_eq_none_iff, bind_nonEmpty?_eq_none_iff, bind_nonEmpty?_eq_none_iff]

theorem text_congr (h : Unset v? → env₁ k = env₂ k) :
    text env₁ v? k = text env₂ v? k := by
  cases hv : v?.bind nonEmpty? with
  | none => rw [text, text, h (bind_nonEmpty?_eq_none_iff.1 hv)]
  | some v => rw [text, text, hv, Option.some_or, Option.some_or]

theorem flag_congr {b? : Option Bool} (h : b? = none → env₁ k = env₂ k) :
    flag env₁ b? k = flag env₂ b? k := by
  cases b? with
  | none =>
    unfold flag
    rw [h rfl]
  | some b => rfl

theorem required_congr (field : String) (h : Unset v? → env₁ k = env₂ k) :
    required env₁ v? field k = required env₂ v? field k := by
  unfold required
  rw [text_congr h]

/-- The environment is looked at for the fields that are left to it, and for nothing else. -/
theorem resolve_congr (h : ∀ f, s.Leaves f → env₁ f.key = env₂ f.key) :
    resolve env₁ s = resolve env₂ s := by
  have hhost := required_congr "host" (h .host)
  have husername := required_congr "username" (h .username)
  have hpassword := required_congr "password" (h .password)
  have hinsecure := flag_congr (h .insecure)
  have huseCerts := flag_congr (h .useCerts)
  have hapiVersion := text_congr (h .apiVersion)
  simp only [Field.key] at hhost husername hpassword hinsecure huseCerts hapiVersion
  unfold resolve
  rw [hhost, husername, hpassword, hinsecure, huseCerts, hapiVersion]

/-! ### Credentials -/

/-- A text that has to be there. -/
inductive Credential where
  | host
  | username
  | password

namespace Credential

/-- The credentials in the order in which they are looked for. -/
def all : List Credential := [host, username, password]

/-- The field of a credential. -/
def field : Credential → Field
  | host => .host
  | username => .username
  | password => .password

/-- What a failure calls a credential. -/
def name : Credential → String
  | host => "host"
  | username => "username"
  | password => "password"

/-- The text that is given for a credential. -/
def given (s : Settings) : Credential → Option String
  | host => s.host
  | username => s.username
  | password => s.password

/-- The credential is given neither in the settings nor in the environment. -/
def Lacking (env : Environment) (s : Settings) (c : Credential) : Prop :=
  Unset (c.given s) ∧ Unset (env c.field.key)

instance (env : Environment) (s : Settings) : DecidablePred (Lacking env s) := fun c =>
  inferInstanceAs (Decidable (Unset (c.given s) ∧ Unset (env c.field.key)))

end Credential

/-- The first credential that is lacking. -/
def firstLacking (env : Environment) (s : Settings) : Option Credential :=
  Credential.all.find? fun c => c.Lacking env s

/-- The failure for a credential that is lacking. -/
def lackingFailure (c : Credential) : Failure := missing c.name c.field.key

theorem required_of_lacking {c : Credential} (h : c.Lacking env s) :
    required env (c.given s) c.name c.field.key = .error (lackingFailure c) := by
  rw [required, text_eq_none_iff.2 h]
  rfl

theorem required_of_not_lacking {c : Credential} (h : ¬ c.Lacking env s) :
    ∃ v, text env (c.given s) c.field.key = some v ∧
      required env (c.given s) c.name c.field.key = .ok v := by
  have hsome : text env (c.given s) c.field.key ≠ none := fun hnone => h (text_eq_none_iff.1 hnone)
  obtain ⟨v, hv⟩ := Option.ne_none_iff_exists'.1 hsome
  exact ⟨v, hv, by rw [required, hv]⟩

/-! ### Complete settings -/

/-- Every value that was given stands as it was. -/
structure Keeps (s : Settings) (a : Access) : Prop where
  host : ∀ v, s.host = some v → v ≠ "" → a.host = v
  username : ∀ v, s.username = some v → v ≠ "" → a.username = v
  password : ∀ v, s.password = some v → v ≠ "" → a.password = v
  insecure : ∀ b, s.insecure = some b → a.insecure = b
  useCerts : ∀ b, s.useCerts = some b → a.useCerts = b
  apiVersion : ∀ v, s.apiVersion = some v → v ≠ "" → a.apiVersion = some v

theorem eq_of_text {v w : String} (h : text env v? k = some w) (hv : v? = some v)
    (hne : v ≠ "") : w = v := by
  rw [hv, text_of_given hne] at h
  exact (Option.some.inj h).symm

theorem flag_of_given {b? : Option Bool} {b : Bool} (h : b? = some b) :
    (flag env b? k).1 = b := by
  rw [h, flag]

/-- With a credential lacking there is a failure that names the first one, and no warning;
otherwise there is a result that keeps what was given. -/
theorem resolve_cases (env : Environment) (s : Settings) :
    (∃ c, firstLacking env s = some c ∧ resolve env s = (.error (lackingFailure c), [])) ∨
      (firstLacking env s = none ∧ ∃ a log, resolve env s = (.ok a, log) ∧ s.Keeps a) := by
  have hfind : ∀ c cs, List.find? (fun c : Credential => c.Lacking env s) (c :: cs) =
      if c.Lacking env s then some c else cs.find? fun c => c.Lacking env s := by
    intro c cs
    rw [List.find?_cons]
    by_cases hc : c.Lacking env s
    · rw [decide_eq_true hc, if_pos hc]
    · rw [decide_eq_false hc, if_neg hc]
  rw [firstLacking, Credential.all, hfind, hfind, hfind, List.find?_nil]
  unfold resolve
  -- The credentials are looked for one after the other, until one is lacking.
  by_cases hhost : Credential.host.Lacking env s
  · have hfails : required env s.host "host" "STORAGE_HOST" = _ := required_of_lacking hhost
    rw [if_pos hhost, hfails]
    exact .inl ⟨.host, rfl, rfl⟩
  obtain ⟨host, hhostText, hhostFound⟩ := required_of_not_lacking hhost
  have hfound : required env s.host "host" "STORAGE_HOST" = .ok host := hhostFound
  rw [if_neg hhost, hfound]
  by_cases husername : Credential.username.Lacking env s
  · have hfails : required env s.username "username" "STORAGE_USERNAME" = _ :=
      required_of_lacking husername
    rw [if_pos husername, hfails]
    exact .inl ⟨.username, rfl, rfl⟩
  obtain ⟨username, husernameText, husernameFound⟩ := required_of_not_lacking husername
  have hfound : required env s.username "username" "STORAGE_USERNAME" = .ok username :=
    husernameFound
  rw [if_neg husername, hfound]
  by_cases hpassword : Credential.password.Lacking env s
  · have hfails : required env s.password "password" "STORAGE_PASSWORD" = _ :=
      required_of_lacking hpassword
    rw [if_pos hpassword, hfails]
    exact .inl ⟨.password, rfl, rfl⟩
  obtain ⟨password, hpasswordText, hpasswordFound⟩ := required_of_not_lacking hpassword
  have hfound : required env s.password "password" "STORAGE_PASSWORD" = .ok password :=
    hpasswordFound
  rw [if_neg hpassword, hfound]
  refine .inr ⟨rfl, _, _, rfl, ?_⟩
  exact {
    host := fun v hv hne => eq_of_text hhostText hv hne
    username := fun v hv hne => eq_of_text husernameText hv hne
    password := fun v hv hne => eq_of_text hpasswordText hv hne
    insecure := fun b hb => flag_of_given hb
    useCerts := fun b hb => flag_of_given hb
    apiVersion := fun v hv hne => by
      dsimp only
      rw [hv, text_of_given hne] }

/-- **What is given hides the environment.**  Settings resolve to the same result or failure, with
the same warnings, in any two environments that agree on the fields that the settings leave to them.

Every value that is given stands in the result as it is.  There is a failure exactly if a credential
is given neither in the settings nor in the environment; it names the first such credential, and
there is no warning then. -/
theorem given_hides_environment (s : Settings) :
    (∀ env₁ env₂ : Environment, (∀ f, s.Leaves f → env₁ f.key = env₂ f.key) →
      resolve env₁ s = resolve env₂ s) ∧
    ∀ env,
      (∀ a log, resolve env s = (.ok a, log) → s.Keeps a) ∧
      ∀ e log, resolve env s = (.error e, log) ↔
        log = [] ∧ ∃ c, firstLacking env s = some c ∧ e = lackingFailure c := by
  refine ⟨fun env₁ env₂ h => resolve_congr h, fun env => ?_⟩
  obtain ⟨c, hc, hresolve⟩ | ⟨hnone, a, log, hresolve, hkeeps⟩ := resolve_cases env s
  · rw [hresolve, hc]
    refine ⟨nofun, fun e log => ?_⟩
    simp only [Prod.mk.injEq, Except.error.injEq, Option.some.injEq, exists_eq_left']
    exact ⟨fun h => ⟨h.2.symm, h.1.symm⟩, fun h => ⟨h.2.symm, h.1.symm⟩⟩
  · rw [hresolve, hnone]
    constructor
    · rintro a' log' h
      cases h
      exact hkeeps
    · intro e log'
      exact iff_of_false nofun fun h => nomatch h.2

end RemoteHost.Settings
