/-
RemoteHost/Shell/Quote.lean

Quoting a text as one word of a POSIX shell command.

A text of harmless characters stays as it is.  Every other text goes between
single quotes; the two characters that cannot stand there, the quote itself and
the exclamation mark that some shells expand, are written outside of them behind
a backslash.
-/
import RemoteHost.Text.Ascii

namespace RemoteHost.Shell

/-- A character that means itself wherever it stands in a word. -/
def isPlain (c : Char) : Bool :=
  Text.isLetter c || Text.isDigit c || c ∈ ['-', '_', '=', '/', ',', '.', '+']

/-- A character between single quotes. -/
def quoteChar (c : Char) : List Char :=
  if c = '\'' ∨ c = '!' then ['\'', '\\', c, '\''] else [c]

/-- A text as one word. -/
def quoteChars (s : List Char) : List Char :=
  if s ≠ [] ∧ s.all isPlain then s else '\'' :: s.flatMap quoteChar ++ ['\'']

/-- A text as one word. -/
def quote (s : String) : String := String.ofList (quoteChars s.toList)

@[simp] theorem toList_quote (s : String) : (quote s).toList = quoteChars s.toList := by
  simp [quote]

end RemoteHost.Shell
