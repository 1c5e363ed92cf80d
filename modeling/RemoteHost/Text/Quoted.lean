/-
RemoteHost/Text/Quoted.lean

The quoted form of a text, for debug output and for error messages that show
a value.

The form is a double-quoted string.  A quote and a backslash are escaped, the
common control characters have a letter, and a character that would not show
by itself, being unassigned, invisible or a mark on the one before it, is
written with its code point.
-/
import RemoteHost.Text.Category

namespace RemoteHost.Text

/-! ### Characters that do not show -/

/-- Control, format, private and unassigned characters, separators other than the
space, and marks. -/
def isHidden (c : Char) : Bool :=
  let n := Category.name c
  startsWith n "C" || (startsWith n "Z" && c != ' ') || Category.isExtending c

/-! ### Quoting -/

/-- A code point in braces. -/
def codePointEscape (c : Char) : List Char :=
  '\\' :: 'u' :: '\x7b' :: hexDigits c.toNat ++ ['\x7d']

/-- A character inside double quotes. -/
def quotedChar (c : Char) : List Char :=
  if c = '"' then ['\\', '"']
  else if c = '\\' then ['\\', '\\']
  else if c = '\n' then ['\\', 'n']
  else if c = '\r' then ['\\', 'r']
  else if c = '\t' then ['\\', 't']
  else if c = '\x00' then ['\\', '0']
  else if ' ' ≤ c ∧ c ≤ '~' then [c]
  else if isHidden c then codePointEscape c
  else [c]

/-- A text in double quotes. -/
def quotedChars (s : List Char) : List Char := '"' :: s.flatMap quotedChar ++ ['"']

/-- A text in double quotes. -/
def quoted (s : String) : String := String.ofList (quotedChars s.toList)

end RemoteHost.Text
