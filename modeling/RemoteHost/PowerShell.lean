/-
RemoteHost/PowerShell.lean

Scripts for PowerShell: string literals, and the arguments that run a script.

A script is handed over as base64 of its UTF-16 form, so that no character of it has a
meaning to the shells on the way.
-/
import RemoteHost.Text.Base64
import RemoteHost.Text.Utf16

namespace RemoteHost.PowerShell

/-- The program that runs scripts. -/
def program : String := "powershell.exe"

/-- What every script begins with: reports of progress would go to the error stream. -/
def preamble : String := "$ProgressPreference = 'SilentlyContinue'; "

/-- The arguments with which the program runs a script. -/
def arguments (script : String) : List String :=
  ["-NoProfile", "-NonInteractive", "-EncodedCommand",
    Base64.encode (Utf16.encode (preamble ++ script))]

/-- A text between single quotes, with every apostrophe in it written twice. -/
def quote (s : String) : String :=
  "'" ++ String.ofList (s.toList.flatMap fun c => if c = '\'' then ['\'', '\''] else [c]) ++ "'"

end RemoteHost.PowerShell
