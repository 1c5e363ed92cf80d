/-
RemoteHost/Proofs/Winrm/ShellCustody.lean

Which shell is open, and over which service, read off the calls that were made.

An observer who sees the calls with their replies knows the open shell at any time
(`openAfter`).  `Tidy s t` says that the calls `t`, made from the time on at which `s` is open,
keep to three rules: a shell is opened only while none is open, a command is run only in the
open shell, over the service over which it was opened, and only that shell is closed, over
the same service.

The rules are about single calls.  What becomes of a shell follows from them (`Tidy.stay`):
up to the opening of the next one it runs commands, then it may be closed once, and after that
nothing is run or closed.
-/
import RemoteHost.Winrm.ShellCall

namespace RemoteHost.Winrm

/-- A shell that was opened, and the service over which it was. -/
structure OpenShell (σ : Type) where
  service : σ
  id : String
  deriving DecidableEq, Repr

variable {σ : Type}

/-! ### What calls are about -/

namespace ShellCall

/-- The service over which a call opens a shell. -/
def opens? : ShellCall σ → Option σ
  | openShell service => some service
  | _ => none

/-- The shell in which a call runs a command. -/
def runsIn? : ShellCall σ → Option (OpenShell σ)
  | run service shell _ _ => some ⟨service, shell⟩
  | runOrCancel service shell _ _ => some ⟨service, shell⟩
  | _ => none

/-- The shell that a call closes. -/
def closes? : ShellCall σ → Option (OpenShell σ)
  | closeShell service shell => some ⟨service, shell⟩
  | _ => none

/-- The call keeps to the rules while a shell is open, or none. -/
structure Permitted (s : Option (OpenShell σ)) (c : ShellCall σ) : Prop where
  opens : ∀ service, c.opens? = some service → s = none
  runsIn : ∀ o, c.runsIn? = some o → s = some o
  closes : ∀ o, c.closes? = some o → s = some o

variable {s : Option (OpenShell σ)}

/-- A call that closes a shell runs nothing. -/
theorem runsIn?_of_closes? {c : ShellCall σ} {o : OpenShell σ} (h : c.closes? = some o) :
    c.runsIn? = none := by
  cases c with
  | closeShell service shell => rfl
  | _ => cases h

theorem permitted_report (r : LogRecord) : Permitted s (.report r) where
  opens _ h := by cases h
  runsIn _ h := by cases h
  closes _ h := by cases h

theorem permitted_openShell (service : σ) : Permitted none (.openShell service) where
  opens _ _ := rfl
  runsIn _ h := by cases h
  closes _ h := by cases h

theorem permitted_closeShell (o : OpenShell σ) :
    Permitted (some o) (.closeShell o.service o.id) where
  opens _ h := by cases h
  runsIn _ h := by cases h
  closes _ h := h

theorem permitted_run (o : OpenShell σ) (command : String) (arguments : List String) :
    Permitted (some o) (.run o.service o.id command arguments) where
  opens _ h := by cases h
  runsIn _ h := h
  closes _ h := by cases h

theorem permitted_runOrCancel (o : OpenShell σ) (command : String) (arguments : List String) :
    Permitted (some o) (.runOrCancel o.service o.id command arguments) where
  opens _ h := by cases h
  runsIn _ h := h
  closes _ h := by cases h

end ShellCall

/-! ### The observer -/

/-- A call for shells, with the reply to it. -/
abbrev ShellExchange (σ : Type) := Exchange (ShellCall σ) ShellCall.Reply

/-- The shell that an exchange opens. -/
def opened? : ShellExchange σ → Option (OpenShell σ)
  | ⟨.openShell service, (.ok id : Outcome String)⟩ => some ⟨service, id⟩
  | _ => none

/-- A call that does not open a shell opens none. -/
theorem opened?_of_opens? {x : ShellExchange σ} (h : x.call.opens? = none) : opened? x = none := by
  obtain ⟨c, reply⟩ := x
  cases c with
  | openShell service => cases h
  | _ => rfl

/-- The open shell after an exchange, from the one before it.  A shell counts as closed even
where closing it fails. -/
def afterExchange (s : Option (OpenShell σ)) (x : ShellExchange σ) : Option (OpenShell σ) :=
  if x.call.closes?.isSome then none else (opened? x).orElse fun _ => s

/-- The open shell after some exchanges, from the one before them. -/
def openAfter (s : Option (OpenShell σ)) (t : List (ShellExchange σ)) : Option (OpenShell σ) :=
  t.foldl afterExchange s

@[simp] theorem openAfter_cons (s : Option (OpenShell σ)) (x : ShellExchange σ)
    (t : List (ShellExchange σ)) : openAfter s (x :: t) = openAfter (afterExchange s x) t := rfl

theorem openAfter_append (s : Option (OpenShell σ)) (t₁ t₂ : List (ShellExchange σ)) :
    openAfter s (t₁ ++ t₂) = openAfter (openAfter s t₁) t₂ := List.foldl_append

/-! ### The rules -/

/-- All calls keep to the rules, from the time on at which this shell is open, or none. -/
def Tidy : Option (OpenShell σ) → List (ShellExchange σ) → Prop
  | _, [] => True
  | s, x :: t => x.call.Permitted s ∧ Tidy (afterExchange s x) t

variable {s : Option (OpenShell σ)} {o : OpenShell σ} {x : ShellExchange σ}
  {t t₁ t₂ : List (ShellExchange σ)}

theorem Tidy.one (h : x.call.Permitted s) : Tidy s [x] := ⟨h, trivial⟩

theorem tidy_append : Tidy s (t₁ ++ t₂) ↔ Tidy s t₁ ∧ Tidy (openAfter s t₁) t₂ := by
  induction t₁ generalizing s with
  | nil => exact ⟨fun h => ⟨trivial, h⟩, fun h => h.2⟩
  | cons x t₁ ih =>
    show x.call.Permitted s ∧ Tidy (afterExchange s x) (t₁ ++ t₂) ↔
      (x.call.Permitted s ∧ Tidy (afterExchange s x) t₁) ∧
        Tidy (openAfter (afterExchange s x) t₁) t₂
    rw [ih, and_assoc]

/-- Tidy calls are tidy wherever they are cut. -/
theorem Tidy.cut (h : Tidy s (t₁ ++ x :: t₂)) :
    x.call.Permitted (openAfter s t₁) ∧ Tidy (afterExchange (openAfter s t₁) x) t₂ :=
  (tidy_append.1 h).2

/-! ### The stay of a shell -/

/-- The exchanges before the next shell is opened. -/
def untilOpened (t : List (ShellExchange σ)) : List (ShellExchange σ) :=
  t.takeWhile fun x => (opened? x).isNone

/-- While no shell is open, nothing is run and nothing is closed. -/
theorem Tidy.idle (h : Tidy none t) :
    ∀ x ∈ untilOpened t, x.call.runsIn? = none ∧ x.call.closes? = none := by
  induction t with
  | nil =>
    intro x hx
    exact absurd hx List.not_mem_nil
  | cons y t ih =>
    obtain ⟨hy, ht⟩ := h
    have hruns : y.call.runsIn? = none := by
      cases hr : y.call.runsIn? with
      | none => rfl
      | some o => exact absurd (hy.runsIn o hr) (Option.some_ne_none o).symm
    have hcloses : y.call.closes? = none := by
      cases hc : y.call.closes? with
      | none => rfl
      | some o => exact absurd (hy.closes o hc) (Option.some_ne_none o).symm
    intro x hx
    cases hopened : opened? y with
    | some o =>
      rw [untilOpened, List.takeWhile_cons, hopened] at hx
      exact absurd hx List.not_mem_nil
    | none =>
      rw [untilOpened, List.takeWhile_cons, hopened] at hx
      rw [afterExchange, hcloses, hopened] at ht
      rcases List.mem_cons.1 hx with rfl | hx
      · exact ⟨hruns, hcloses⟩
      · exact ih ht x hx

/-- What a shell is used for until the next one is opened: commands are run in it, and then it
may be closed, after which nothing is run and nothing is closed. -/
def Stay (o : OpenShell σ) (t : List (ShellExchange σ)) : Prop :=
  ∃ uses idle, t = uses ++ idle ∧
    (∀ x ∈ uses, x.call.closes? = none ∧ ∀ p, x.call.runsIn? = some p → p = o) ∧
    (∀ x ∈ idle, x.call.runsIn? = none) ∧
    (idle = [] ∨ ∃ x rest, idle = x :: rest ∧ x.call.closes? = some o ∧
      ∀ y ∈ rest, y.call.closes? = none)

theorem Stay.cons (hcloses : x.call.closes? = none)
    (hruns : ∀ p, x.call.runsIn? = some p → p = o) (h : Stay o t) : Stay o (x :: t) := by
  obtain ⟨uses, idle, rfl, huses, hidle⟩ := h
  refine ⟨x :: uses, idle, rfl, ?_, hidle⟩
  intro y hy
  rcases List.mem_cons.1 hy with rfl | hy
  · exact ⟨hcloses, hruns⟩
  · exact huses y hy

/-- A shell that is open stays so until it is closed. -/
theorem Tidy.stay (h : Tidy (some o) t) : Stay o (untilOpened t) := by
  induction t with
  | nil => exact ⟨[], [], rfl, by simp, by simp, .inl rfl⟩
  | cons y t ih =>
    obtain ⟨hy, ht⟩ := h
    -- No shell is opened while this one is open, so the call belongs to the stay.
    have hopens : y.call.opens? = none := by
      cases hs : y.call.opens? with
      | none => rfl
      | some service => exact absurd (hy.opens service hs) (Option.some_ne_none o)
    have hopened : opened? y = none := opened?_of_opens? hopens
    have huntil : untilOpened (y :: t) = y :: untilOpened t := by
      rw [untilOpened, List.takeWhile_cons, hopened]
      rfl
    rw [huntil]
    cases hcloses : y.call.closes? with
    | none =>
      rw [afterExchange, hcloses, hopened] at ht
      refine (ih ht).cons hcloses ?_
      intro p hp
      exact (Option.some.inj (hy.runsIn p hp)).symm
    | some p =>
      obtain rfl := Option.some.inj (hy.closes p hcloses)
      rw [afterExchange, hcloses] at ht
      have hidle := Tidy.idle ht
      refine ⟨[], y :: untilOpened t, rfl, by simp, ?_, ?_⟩
      · intro x hx
        rcases List.mem_cons.1 hx with rfl | hx
        · exact ShellCall.runsIn?_of_closes? hcloses
        · exact (hidle x hx).1
      · exact .inr ⟨y, untilOpened t, rfl, hcloses, fun x hx => (hidle x hx).2⟩

end RemoteHost.Winrm
