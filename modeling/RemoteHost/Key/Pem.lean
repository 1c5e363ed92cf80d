/-
RemoteHost/Key/Pem.lean

Text encapsulation of binary data between two boundary lines.

Text may stand before the first boundary, on lines of its own, and nothing but a
line end after the last.  The base64 in between is wrapped: every line but the
last has exactly the agreed width.
-/
import RemoteHost.Text.Base64
import RemoteHost.Text.Utf8

namespace RemoteHost.Pem

/-- What opens the first boundary. -/
def opening : Bytes := Text.asciiBytes "-----BEGIN "

/-- What opens the last boundary. -/
def closing : Bytes := Text.asciiBytes "-----END "

/-- What ends a boundary. -/
def dashes : Bytes := Text.asciiBytes "-----"

/-- The text after a line end, if one comes first. -/
def dropLineEnd? : Bytes → Option Bytes
  | 13 :: 10 :: r => some r
  | 13 :: r => some r
  | 10 :: r => some r
  | _ => none

/-- The text before a line end, if one comes last. -/
def dropFinalLineEnd? (s : Bytes) : Option Bytes :=
  match s.reverse with
  | 10 :: 13 :: r => some r.reverse
  | 10 :: r => some r.reverse
  | 13 :: r => some r.reverse
  | _ => none

/-- The text without a line end at its end. -/
def dropFinalLineEnd (s : Bytes) : Bytes := (dropFinalLineEnd? s).getD s

/-- The text from the first boundary on, which begins a line. -/
def skipPreamble : Bytes → Option Bytes
  | [] => none
  | 0 :: _ => none
  | b :: r => if b = 10 ∧ opening.isPrefixOf r then some r else skipPreamble r

/-- The front of a text up to a dash, which is a label: printable characters with
single spaces between them. -/
def labelChars (afterSpace : Bool) : Bytes → Option Bytes
  | [] => some []
  | b :: r =>
    if b = 45 then some []
    else if b = 32 then
      if afterSpace then none else (labelChars true r).map (b :: ·)
    else if 33 ≤ b ∧ b ≤ 126 then (labelChars false r).map (b :: ·)
    else none

/-- The text without `tail` at its end. -/
def dropSuffix? (tail s : Bytes) : Option Bytes :=
  if tail.isSuffixOf s then some (s.take (s.length - tail.length)) else none

/-- The text without `front` at its start. -/
def dropPrefix? (front s : Bytes) : Option Bytes :=
  if front.isPrefixOf s then some (s.drop front.length) else none

/-- The lines of wrapped text put together; the first argument bounds their number. -/
def unwrap (width : Nat) : Nat → Bytes → Option Bytes
  | 0, s => if s.isEmpty then some [] else none
  | fuel + 1, s =>
    if s.length ≤ width then some (dropFinalLineEnd s)
    else do
      let rest ← dropLineEnd? (s.drop width)
      let more ← unwrap width fuel rest
      some (s.take width ++ more)

/-- The label and the data of an encapsulation with lines of a given width. -/
def decode? (width : Nat) (text : String) : Option (String × Bytes) := do
  let s := Utf8.encode text
  let s ← if opening.isPrefixOf s then some s else skipPreamble s
  let s := s.drop opening.length
  let label ← labelChars false s
  let s ← dropPrefix? dashes (s.drop label.length)
  let s ← dropLineEnd? s
  let s ← dropSuffix? dashes (dropFinalLineEnd s)
  let s ← dropSuffix? label s
  let s ← dropSuffix? closing s
  let body ← dropFinalLineEnd? s
  guard (body ≠ [])
  let data ← Base64.decode? (← unwrap width body.length body)
  let name ← Utf8.decode? label
  some (name, data)

end RemoteHost.Pem
