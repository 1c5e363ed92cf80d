/-
RemoteHost/Winrm/Response.lean

What the service answers, read off the text of its envelopes.

A response is searched for the few pieces of markup that matter and is not read as XML
otherwise.  What a search finds is cut out of the text; each further search goes on in
what is left behind it.
-/
import RemoteHost.Text.Base64
import RemoteHost.Text.Blank
import RemoteHost.Text.Search
import RemoteHost.Text.Utf8
import RemoteHost.Winrm.Envelope

namespace RemoteHost.Winrm

/-- What a command leaves: its output, the output of its error stream and its exit code,
if it reported one. -/
structure ShellOutput where
  stdout : String := ""
  stderr : String := ""
  exitCode : Option Int := none
  deriving DecidableEq, Repr

namespace Response

/-! ### Attributes and elements -/

/-- The value of the first attribute with a name. -/
def attribute? (name : String) (s : List Char) : Option (List Char) := do
  let (_, rest) ← Text.cut (name ++ "=\"").toList s
  let (value, _) ← Text.splitOnce '"' rest
  some value

/-- The text, trimmed, that follows the first tag of this form up to the next tag. -/
def textAfter? (tag : String) (s : List Char) : Option (List Char) := do
  let (_, rest) ← Text.cut tag.toList s
  let (value, _) ← Text.splitOnce '<' rest
  some (Text.trimChars value)

/-- A value that stands in an attribute or in an element. -/
def value? (name element : String) (s : List Char) : Option (List Char) :=
  (attribute? name s).orElse fun _ => textAfter? ("<" ++ element ++ ">") s

/-- A name that is not empty. -/
def identifier? (value : Option (List Char)) : Option String :=
  match value with
  | some (c :: s) => some (String.ofList (c :: s))
  | _ => none

/-- The shell that a response names.  Some servers name it in the selector only. -/
def shellId? (response : String) : Option String :=
  let s := response.toList
  identifier? ((value? "ShellId" "rsp:ShellId" s).orElse fun _ =>
    textAfter? "<w:Selector Name=\"ShellId\">" s)

/-- The command that a response names. -/
def commandId? (response : String) : Option String :=
  identifier? (value? "CommandId" "rsp:CommandId" response.toList)

/-! ### Streams -/

/-- The text of a piece of a stream: nothing where it is not base64. -/
def pieceText (data : List Char) : List Char :=
  match Base64.decode? (Utf8.encodeChars (Text.trimChars data)) with
  | some bytes => Utf8.decodeLossyFrom 0 bytes
  | none => []

/-- The tag with its attributes up to here is one of an element without content. -/
def isSelfClosing (attributes : List Char) : Bool := attributes.getLast? == some '/'

/-- One step through the elements of a stream: the text of the next element, and what is
left of the response behind it; none when there is no further element. -/
def nextPiece? (name : String) (s : List Char) : Option (List Char × List Char) := do
  let (_, rest) ← Text.cut ("Name=\"" ++ name ++ "\"").toList s
  let (attributes, content) ← Text.splitOnce '>' rest
  if isSelfClosing attributes then some ([], content)
  else
    let (data, behind) ← Text.cut "</rsp:Stream>".toList content
    some (pieceText data, behind)

/-- Every step leaves less of the response. -/
theorem length_lt_of_nextPiece {name : String} {s text rest : List Char}
    (h : nextPiece? name s = some (text, rest)) : rest.length < s.length := by
  unfold nextPiece? at h
  obtain ⟨⟨_, s₁⟩, h₁, h⟩ := Option.bind_eq_some_iff.1 h
  obtain ⟨⟨attributes, s₂⟩, h₂, h⟩ := Option.bind_eq_some_iff.1 h
  have l₁ := Text.length_le_of_cut h₁
  have l₂ := Text.length_lt_of_splitOnce h₂
  simp only at h
  split at h
  · simp only [Option.some.injEq, Prod.mk.injEq] at h
    rw [← h.2]
    omega
  · obtain ⟨⟨_, s₃⟩, h₃, h⟩ := Option.bind_eq_some_iff.1 h
    have l₃ := Text.length_le_of_cut h₃
    simp only [Option.some.injEq, Prod.mk.injEq] at h
    rw [← h.2]
    omega

/-- The text of a stream: that of its pieces, one after the other. -/
def streamText (name : String) (s : List Char) : List Char :=
  match h : nextPiece? name s with
  | none => []
  | some (text, rest) =>
    have := length_lt_of_nextPiece h
    text ++ streamText name rest
  termination_by s.length

/-! ### Responses to a request for output -/

/-- A part of what a command leaves, and whether the command has ended. -/
structure Part where
  output : ShellOutput
  isDone : Bool
  deriving DecidableEq, Repr

/-- A numeral for an exit code: a sign is optional, and it has to fit into 32 bits. -/
def exitCodeOf? (s : List Char) : Option Int :=
  match s with
  | '-' :: r =>
    match Text.natValue 10 ('+' :: r) with
    | some n => if n ≤ 1 <<< 31 then some (-n) else none
    | none => none
  | s =>
    match Text.natValue 10 s with
    | some n => if n < 1 <<< 31 then some n else none
    | none => none

/-- The exit code that a response reports. -/
def exitCode? (s : List Char) : Option Int := do
  let (_, rest) ← Text.cut "<rsp:ExitCode>".toList s
  let (code, _) ← Text.cut "</rsp:ExitCode>".toList rest
  exitCodeOf? (Text.trimChars code)

/-- The part of the output that a response carries. -/
def part (response : String) : Part :=
  let s := response.toList
  { output :=
      { stdout := String.ofList (streamText "stdout" s)
        stderr := String.ofList (streamText "stderr" s)
        exitCode := exitCode? s }
    isDone := Text.occurs Protocol.commandDone.toList s }

/-! ### Faults -/

/-- The words of a fault of the service, with its number if it has one. -/
def managementFault? (s : List Char) : Option (List Char) := do
  let (_, rest) ← Text.cut "<f:Message>".toList s
  let (words, _) ← Text.cut "</f:Message>".toList rest
  let words := Text.trimChars words
  match value? "Code" "f:Code" s with
  | some code => some (words ++ " (code ".toList ++ code ++ [')'])
  | none => some words

/-- The words of a fault of the protocol. -/
def soapFault? (s : List Char) : Option (List Char) := do
  let (_, rest) ← Text.cut "<s:Text".toList s
  let (_, rest) ← Text.splitOnce '>' rest
  let (words, _) ← Text.cut "</s:Text>".toList rest
  some (Text.trimChars words)

/-- The words of the fault that a response reports. -/
def fault? (response : String) : Option String :=
  let s := response.toList
  ((managementFault? s).orElse fun _ => soapFault? s).map String.ofList

end Response

end RemoteHost.Winrm
