/-
RemoteHost/Proofs/PowerShell.lean

Reading the script that some arguments carry (`script?`), as the program does that runs it.
What was written is read back (`script?_arguments`).

The whole text that a command gives to the program, with what every script begins with, is read
by `textOf?`.  A text is read from one command only (`textOf?_eq_some_iff`), so different scripts
have different arguments (`arguments_injective`).
-/
import RemoteHost.PowerShell
import RemoteHost.Proofs.Text.Base64
import RemoteHost.Proofs.Text.Search
import RemoteHost.Proofs.Text.Utf16

namespace RemoteHost.PowerShell

/-- The script that some arguments carry: their last one is base64 of UTF-16, which begins
as every script does. -/
def script? (arguments : List String) : Option String := do
  let text ← arguments.getLast?
  let bytes ← Base64.decode? (Utf8.encode text)
  let script ← Utf16.decode? bytes
  Text.dropPrefix? script preamble

theorem script?_arguments (script : String) : script? (arguments script) = some script := by
  have hb : Base64.decode? (Utf8.encode (Base64.encode (Utf16.encode (preamble ++ script)))) =
      some (Utf16.encode (preamble ++ script)) := Base64.decode?_eq_some_iff.2 rfl
  simp only [script?, arguments, List.getLast?_cons_cons, List.getLast?_singleton,
    Option.bind_eq_bind, Option.bind_some, hb, Utf16.decode?_encode, Text.dropPrefix?_append]

/-! ### Commands for the program -/

/-- The arguments before the text: that the user's settings and questions are left out, and that a
text follows in base64 of UTF-16. -/
def switches : List String := ["-NoProfile", "-NonInteractive", "-EncodedCommand"]

/-- A text as an argument. -/
def encodedText (text : String) : String := Base64.encode (Utf16.encode text)

/-- The text that an argument stands for. -/
def decodedText? (argument : String) : Option String :=
  (Base64.decode? (Utf8.encode argument)).bind Utf16.decode?

theorem decodedText?_eq_some_iff {argument text : String} :
    decodedText? argument = some text ↔ argument = encodedText text := by
  rw [decodedText?, Option.bind_eq_some_iff]
  constructor
  · rintro ⟨bytes, hbytes, htext⟩
    rw [Utf16.decode?_eq_some_iff] at htext
    rw [Base64.decode?_eq_some_iff] at hbytes
    rw [hbytes, htext, encodedText]
  · rintro rfl
    exact ⟨Utf16.encode text, Base64.decode?_eq_some_iff.2 rfl, Utf16.decode?_encode text⟩

theorem arguments_eq (script : String) :
    arguments script = switches ++ [encodedText (preamble ++ script)] := rfl

/-- The text that a command gives to the program to run; none for another program, or with other
switches. -/
def textOf? (command : String × List String) : Option String :=
  if command.1 = program ∧ command.2.dropLast = switches then command.2.getLast?.bind decodedText?
  else none

/-- There is one command for each text. -/
theorem textOf?_eq_some_iff {command : String × List String} {text : String} :
    textOf? command = some text ↔ command = (program, switches ++ [encodedText text]) := by
  obtain ⟨program', arguments'⟩ := command
  constructor
  · intro h
    rw [textOf?, Option.ite_none_right_eq_some] at h
    obtain ⟨⟨rfl, hswitches⟩, hlast⟩ := h
    obtain ⟨argument, hargument, htext⟩ := Option.bind_eq_some_iff.1 hlast
    have hsplit : arguments'.dropLast ++ [argument] = arguments' :=
      List.dropLast_append_getLast? argument hargument
    rw [← decodedText?_eq_some_iff.1 htext, ← hswitches, hsplit]
  · intro h
    obtain ⟨rfl, rfl⟩ := Prod.mk.inj h
    rw [textOf?, if_pos ⟨rfl, List.dropLast_concat⟩, List.getLast?_concat, Option.bind_some,
      decodedText?_eq_some_iff]

theorem textOf?_arguments (script : String) :
    textOf? (program, arguments script) = some (preamble ++ script) :=
  textOf?_eq_some_iff.2 (by rw [arguments_eq])

/-- Different scripts have different arguments. -/
theorem arguments_injective : Function.Injective arguments := by
  intro script other h
  have hscript := script?_arguments script
  rw [h, script?_arguments] at hscript
  exact (Option.some.inj hscript).symm

end RemoteHost.PowerShell
