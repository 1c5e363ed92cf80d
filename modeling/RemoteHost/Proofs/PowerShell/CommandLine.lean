/-
RemoteHost/Proofs/PowerShell/CommandLine.lean

How long a command line gets.

A text that goes to PowerShell grows on the way: each code unit becomes two bytes, and three bytes
become four characters.  What comes before it is the same for all texts, so the length of the line
is known from the width of the text (`length_commandLine`).  Neither the program nor an argument
has a blank, so the line falls into them again (`words_commandLine`).  A script that is made of
parts is as wide as its texts and literals (`width_render`), and a literal may be twice as wide as
its value, as every apostrophe stands in it twice (`width_quote`).
-/
import RemoteHost.Proofs.PowerShell
import RemoteHost.Proofs.PowerShell.Literals
import RemoteHost.Proofs.Text.Lines

namespace RemoteHost.PowerShell

open Utf16

/-! ### Lines -/

/-- A command as one line: the program and its arguments, with a space between any two. -/
def commandLine (command : String × List String) : String :=
  " ".intercalate (command.1 :: command.2)

/-- What a line begins with, whatever is run. -/
def lineOpening : String := "powershell.exe -NoProfile -NonInteractive -EncodedCommand "

theorem commandLine_eq (text : String) :
    commandLine (program, switches ++ [encodedText text]) = lineOpening ++ encodedText text := by
  have hopening : program ++ " " ++ "-NoProfile" ++ " " ++ "-NonInteractive" ++ " " ++
      "-EncodedCommand" ++ " " = lineOpening := by
    simp only [program, String.reduceAppend]
    rfl
  rw [← hopening]
  rfl

theorem length_encodedText (text : String) :
    (encodedText text).length = 4 * ((2 * width text + 2) / 3) := by
  rw [encodedText, Base64.encode, String.length_ofList, Base64.length_encodeChars, length_encode]

/-- The length of a line, by the width of the script in it. -/
theorem length_commandLine (script : String) :
    (commandLine (program, arguments script)).length =
      58 + 4 * ((2 * width (preamble ++ script) + 2) / 3) := by
  have hopening : lineOpening.length = 58 := by decide
  rw [arguments_eq, commandLine_eq, String.length_append, hopening, length_encodedText]

/-- All characters of a line are from the first 128. -/
theorem ascii_of_mem_commandLine (script : String) :
    ∀ c ∈ (commandLine (program, arguments script)).toList, c.toNat < 128 := by
  have hopening : lineOpening.toList.all (fun c => decide (c.toNat < 128)) := by decide
  intro c hc
  rw [arguments_eq, commandLine_eq, String.toList_append, List.mem_append, encodedText,
    Base64.toList_encode] at hc
  rcases hc with hc | hc
  · exact of_decide_eq_true (List.all_eq_true.1 hopening c hc)
  · exact Base64.ascii_of_mem_encodeChars hc

theorem isWord_encodedText {text : String} (h : 0 < width text) :
    Text.IsWord (encodedText text).toList := by
  constructor
  · intro hnil
    have hlength := length_encodedText text
    rw [← String.length_toList, hnil, List.length_nil] at hlength
    omega
  · intro c hc
    rw [encodedText, Base64.toList_encode] at hc
    exact Base64.isBlank_of_mem_encodeChars hc

/-- The words of a line are the program and the arguments: none of them is empty or has a blank. -/
theorem words_commandLine (script : String) :
    Text.words (commandLine (program, arguments script)) = program :: arguments script := by
  have hopening : lineOpening.toList =
      "powershell.exe -NoProfile -NonInteractive -EncodedCommand".toList ++ [' '] := by decide
  have hwidth : 0 < width (preamble ++ script) := by
    have hpreamble : width preamble = 42 := by decide
    rw [width_append]
    omega
  have hwords : Text.wordsOf "powershell.exe -NoProfile -NonInteractive -EncodedCommand".toList =
      (program :: switches).map String.toList := by decide
  rw [arguments_eq, commandLine_eq, Text.words, String.toList_append, hopening, List.append_assoc,
    List.singleton_append, Text.wordsOf_append_cons (by decide), hwords,
    Text.wordsOf_word (isWord_encodedText hwidth), List.map_append, List.map_map]
  simp

/-! ### Literals -/

theorem length_units_doubled (s : List Char) :
    (units (doubled s)).length = (units s).length + s.count '\'' := by
  induction s with
  | nil => rfl
  | cons c s ih =>
    have hcons : doubled (c :: s) = (if c = '\'' then ['\'', '\''] else [c]) ++ doubled s := rfl
    rw [hcons, units_append, List.length_append, ih, units_cons, List.length_append,
      List.count_cons]
    by_cases hc : c = '\''
    · subst hc
      show 2 + _ = 1 + _ + (_ + 1)
      omega
    · rw [if_neg hc, if_neg (by simpa using hc), units_cons]
      simp only [units, List.flatMap_nil, List.append_nil]
      omega

/-- A literal has two quotes, and every apostrophe of its value once more. -/
theorem width_quote (v : String) : width (quote v) = 2 + width v + v.toList.count '\'' := by
  rw [width, toList_quote, units_cons, units_append, List.length_append, List.length_append,
    length_units_doubled, width]
  show 1 + (_ + 1) = _
  omega

/-- A value is at most doubled. -/
theorem width_quote_le (v : String) : width (quote v) ≤ 2 + 2 * width v := by
  have hcount : v.toList.count '\'' ≤ v.toList.length := List.count_le_length
  have hlength := length_le_length_units v.toList
  rw [width_quote, width]
  omega

/-! ### Scripts that are made of parts -/

/-- A script is as wide as its texts and its literals. -/
theorem width_render (p : Parts) :
    width p.render = (p.texts.map width).sum + (p.fills.map fun f => width (quote f.2)).sum := by
  obtain ⟨fills, last⟩ := p
  induction fills with
  | nil => simp [render_nil, Parts.texts]
  | cons f fills ih =>
    simp only [Parts.texts, List.map_append, List.map_map, List.map_cons, List.map_nil,
      List.sum_append, List.sum_cons, List.sum_nil, render_cons, width_append] at ih ⊢
    omega

end RemoteHost.PowerShell
