/-
RemoteHost/Proofs/Esxi/ModuleParameters.lean

The command that sets the parameters of a kernel module, as a shell reads it.

The words up to `-p` are read as they are meant, the name of the module included,
whatever it is (`readAll_moduleParameters`).  The parameters are not quoted as a word
but put between double quotes as they are.  They are read as the one word that is meant
exactly when they are inert there (`moduleParameters_read_iff`); a parameter that is not
can end the word, add another one, or have a command run (`parameter_is_expanded`).
-/
import RemoteHost.Esxi.Command
import RemoteHost.Proofs.Shell.SimpleCommand

namespace RemoteHost.Esxi.Command

open Shell

variable {module : String} {params : List (String × String)}

/-! ### The words that are meant -/

/-- The parameters as one word. -/
def parameterWord (params : List (String × String)) : String :=
  String.intercalate " " (parameterWords params)

/-- The words before it. -/
def leadingWords (module : String) : List String :=
  ["esxcli", "system", "module", "parameters", "set", "-m", module, "-p"]

theorem parameterWords_perm (params : List (String × String)) :
    (parameterWords params).Perm (params.map fun (k, v) => k ++ "=" ++ v) :=
  List.mergeSort_perm _ _

theorem parameterWords_pairwise (params : List (String × String)) :
    (parameterWords params).Pairwise (· ≤ ·) := by
  have hle : ∀ a b : String, (!decide (b < a)) = true ↔ a ≤ b := by
    intro a b
    rw [Bool.not_eq_true', decide_eq_false_iff_not]
    exact Iff.rfl
  have hsorted : (parameterWords params).Pairwise fun a b => (!decide (b < a)) = true := by
    apply List.pairwise_mergeSort
    · intro a b c
      simp only [hle]
      exact String.le_trans
    · intro a b
      rw [Bool.or_eq_true, hle, hle]
      exact String.le_total a b
  exact hsorted.imp fun {a b} => (hle a b).mp

/-! ### The words that are read -/

/-- The text of the command, character by character. -/
theorem toList_moduleParameters (module : String) (params : List (String × String)) :
    (moduleParameters module params).toList =
      "esxcli system module parameters set -m ".toList ++ (quoteChars module.toList ++
        (" -p \"".toList ++ ((parameterWord params).toList ++ ['"']))) := by
  have happend : ∀ a b c d e : String, (a ++ b ++ c ++ d ++ e).toList =
      a.toList ++ (b.toList ++ (c.toList ++ (d.toList ++ e.toList))) := by
    intro a b c d e
    simp only [String.toList_append, List.append_assoc]
  rw [← toList_quote]
  exact happend "esxcli system module parameters set -m " (quote module) " -p \""
    (parameterWord params) "\""

/-- The words before the parameters are read as they are meant, whatever the module is
called; then the parameters are read between double quotes. -/
theorem readAll_moduleParameters (module : String) (params : List (String × String)) :
    Reading.start.readAll (moduleParameters module params).toList =
      Reading.readAll ⟨(leadingWords module).map String.toList, some [], .double⟩
        ((parameterWord params).toList ++ ['"']) := by
  have hcommand : Reading.start.read "esxcli system module parameters set -m ".toList =
      .ok ⟨((leadingWords module).take 6).map String.toList, none, .plain⟩ := rfl
  have hmodule := Reading.read_quoteChars (((leadingWords module).take 6).map String.toList)
    module.toList
  have hflag : Reading.read
      ⟨((leadingWords module).take 6).map String.toList, some module.toList, .plain⟩
        " -p \"".toList =
      .ok ⟨(leadingWords module).map String.toList, some [], .double⟩ := rfl
  rw [toList_moduleParameters, Reading.readAll_append_of_read hcommand,
    Reading.readAll_append_of_read hmodule, Reading.readAll_append_of_read hflag]

theorem nul_mem_moduleParameters_iff :
    '\x00' ∈ (moduleParameters module params).toList ↔
      '\x00' ∈ module.toList ∨ '\x00' ∈ (parameterWord params).toList := by
  have hcommand : '\x00' ∉ "esxcli system module parameters set -m ".toList := by decide
  have hflag : '\x00' ∉ " -p \"".toList := by decide
  have hquote : '\x00' ∉ ['"'] := by decide
  have hmodule : '\x00' ∈ quoteChars module.toList ↔ '\x00' ∈ module.toList :=
    mem_quoteChars (by decide) (by decide)
  rw [toList_moduleParameters]
  simp only [List.mem_append, hcommand, hflag, hquote, hmodule, false_or, or_false]

/-- **Parameters of a module as a shell reads them.**  The command is read as the words that
are meant, with the sorted parameters as its last one, exactly when neither the name nor the
parameters hold a NUL and the parameters are inert between double quotes. -/
theorem moduleParameters_read_iff (module : String) (params : List (String × String)) :
    ∃ tokens : List String,
      tokens.Perm (params.map fun (k, v) => k ++ "=" ++ v) ∧ tokens.Pairwise (· ≤ ·) ∧
      (simpleCommand (moduleParameters module params) =
          .ok ["esxcli", "system", "module", "parameters", "set", "-m", module, "-p",
            String.intercalate " " tokens] ↔
        '\x00' ∉ module.toList ∧ '\x00' ∉ (String.intercalate " " tokens).toList ∧
          inert (String.intercalate " " tokens).toList) := by
  refine ⟨parameterWords params, parameterWords_perm params, parameterWords_pairwise params, ?_⟩
  -- The name of the command is fixed, so only the last word is in question.
  have hname : ∃ v ∈ (leadingWords module).head?, v ∉ reservedWords ∧ '=' ∉ v.toList :=
    ⟨"esxcli", rfl, by decide, by decide⟩
  have hwords : Reading.start.readAll (moduleParameters module params).toList =
      .ok ((leadingWords module ++ [parameterWord params]).map String.toList) ↔
        inert (parameterWord params).toList := by
    rw [readAll_moduleParameters]
    exact Reading.readAll_doubleQuoted_iff _ [] (parameterWord params).toList
  change simpleCommand (moduleParameters module params) =
      .ok (leadingWords module ++ [parameterWord params]) ↔
    '\x00' ∉ module.toList ∧ '\x00' ∉ (parameterWord params).toList ∧
      inert (parameterWord params).toList
  rw [simpleCommand_eq_ok_iff, nul_mem_moduleParameters_iff, not_or, hwords]
  constructor
  · rintro ⟨⟨hmodule, hparams⟩, hinert, -⟩
    exact ⟨hmodule, hparams, hinert⟩
  · rintro ⟨hmodule, hparams, hinert⟩
    exact ⟨⟨hmodule, hparams⟩, hinert, hname⟩

/-- A parameter may run another command in the place of its value, end the command, or give
it one more word. -/
theorem parameter_is_expanded :
    simpleCommand (moduleParameters "ixgben" [("name", "$(reboot)")]) = .error (.expansion '$') ∧
    simpleCommand (moduleParameters "ixgben" [("name", "\"; reboot \"")]) = .error (.operator ';') ∧
    simpleCommand (moduleParameters "ixgben" [("name", "a\" \"b")]) =
      .ok ["esxcli", "system", "module", "parameters", "set", "-m", "ixgben", "-p", "name=a",
        "b"] := by
  decide +kernel

end RemoteHost.Esxi.Command
