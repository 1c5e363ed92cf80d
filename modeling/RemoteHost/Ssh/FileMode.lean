/-
RemoteHost/Ssh/FileMode.lean

Permission modes of files, written as octal numerals such as `0644` or `0o755`.

Blanks around a numeral do not count, nor do leading marks `0o`.  A sign is allowed
as far as the number stays between 0 and octal 7777.
-/
import RemoteHost.Failure
import RemoteHost.Text.Ascii

namespace RemoteHost.Ssh

/-- The permission bits of a file. -/
abbrev FileMode := Fin 4096

namespace FileMode

/-- The numeral without its leading marks `0o`. -/
def dropMarks : List Char → List Char
  | '0' :: 'o' :: r => dropMarks r
  | s => s

/-- The number that a signed octal numeral stands for, unless it is below 0. -/
def value? : List Char → Option Nat
  | '-' :: r =>
    if r.isEmpty then none else (Text.digitsValue 8 r).bind fun n => if n = 0 then some 0 else none
  | s => Text.natValue 8 s

/-- The mode that a text spells. -/
def ofText? (text : String) : Option FileMode := do
  let n ← value? (dropMarks (Text.trim text).toList)
  if h : n < 4096 then some ⟨n, h⟩ else none

/-- The failure for a text that spells no mode. -/
def invalid (text : String) : Failure where
  kind := .invalidMode
  message := "'" ++ text ++ "' is not an octal permission mode"

/-- The mode that a text spells. -/
def parse (text : String) : Outcome FileMode :=
  match ofText? text with
  | some m => .ok m
  | none => .error (invalid text)

/-- The text of the mode for files that are given none. -/
def defaultText : String := "0655"

end FileMode

end RemoteHost.Ssh
