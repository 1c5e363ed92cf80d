/-
RemoteHost/Ssh/Material.lean

Key material as callers give it: as text, or as the base64 of that text.

Text is recognised by a dash line at its start or by a space in it, which base64
has not.  Anything else is decoded, whatever blanks it is wrapped with; what does
not decode to text stands for itself.
-/
import RemoteHost.Text.Base64
import RemoteHost.Text.Blank
import RemoteHost.Text.Search
import RemoteHost.Text.Utf8

namespace RemoteHost.Ssh.Material

/-- The text is not base64: it begins with a dash line or holds a space. -/
def isPlain (s : List Char) : Bool := "-----".toList.isPrefixOf s || s.contains ' '

/-- The text without any blanks. -/
def withoutBlanks (s : List Char) : List Char := s.filter (!Text.isBlank ·)

/-- The text that some material stands for. -/
def decode (raw : String) : String :=
  let s := Text.trimChars raw.toList
  if isPlain s then String.ofList s
  else
    match (Base64.decode? (Utf8.encodeChars (withoutBlanks s))).bind Utf8.decode? with
    | some text => text
    | none => String.ofList s

end RemoteHost.Ssh.Material
