/-
RemoteHost/Proofs/Winrm/ResponsePlaces.lean

Reading a response at places of it.

A response may be read by parts, of which each search leaves two, or at places of it, counted in
bytes, with searches that go on from a place and pieces that are cut out between two of them.  The
readers here do the latter.  The one of a stream is a loop that goes from place to place, and it is
allowed a number of rounds (`scan`).  A round that is not the last one leads to a later place
(`scan_round`), from which the text that is left is read (`scan_append`).

The readers come to the same results as those by parts, on every response, with one round more than
the response has characters or with any larger number of rounds (`read_at_places`).  So each of them
ends, and none cuts the response outside of it or inside of a character.
-/
import RemoteHost.Proofs.Text.Places
import RemoteHost.Proofs.Winrm.StreamTags

namespace RemoteHost.Winrm.Response

open Text

/-! ### Readers -/

/-- The first reading, or the second one where that finds nothing. -/
def orElse {α : Type} (r r' : Reading (Option α)) : Reading (Option α) := do
  match ← r with
  | some a => pure (some a)
  | none => r'

/-- The text, trimmed, that a reading finds. -/
def trimmed (r : Reading (Option (List Char))) : Reading (Option (List Char)) :=
  Option.map trimChars <$> r

/-- A value that stands in an attribute or in an element. -/
def valueAt (name element : String) (s : List Char) : Reading (Option (List Char)) :=
  orElse (enclosedBehind (name ++ "=\"").toList ['"'] s)
    (trimmed (enclosedBehind ("<" ++ element ++ ">").toList ['<'] s))

/-- The shell that a response names. -/
def shellIdAt (response : String) : Reading (Option String) :=
  let s := response.toList
  identifier? <$> orElse (valueAt "ShellId" "rsp:ShellId" s)
    (trimmed (enclosed "<w:Selector Name=\"ShellId\">".toList ['<'] s))

/-- The command that a response names. -/
def commandIdAt (response : String) : Reading (Option String) :=
  identifier? <$> valueAt "CommandId" "rsp:CommandId" response.toList

/-- The place of the end of a tag, from a place in it. -/
def tagEnd (place : Nat) (s : List Char) : Reading (Option Nat) := do
  let rest ← textFrom place s
  pure ((placeOf? ['>'] rest).map (place + ·))

/-- The text of a stream from a place on, behind the text that was read before, in so many rounds.
An element without content is left at the end of its tag, and any other one at its closing tag. -/
def scan (name : String) (s : List Char) : Nat → Nat → List Char → Reading (List Char)
  | 0, _, _ => throw .rounds
  | rounds + 1, place, out => do
    match placeOf? ("Name=\"" ++ name ++ "\"").toList (← textFrom place s) with
    | none => pure out
    | some found =>
      match ← tagEnd (place + found) s with
      | none => pure out
      | some close =>
        if isSelfClosing (← textUpTo close s) then scan name s rounds (close + 1) out
        else
          match ← textUntil "</rsp:Stream>".toList (close + 1) s with
          | none => pure out
          | some (data, stop) => scan name s rounds stop (out ++ pieceText data)

/-- The part of the output that a response carries, with so many rounds for each stream. -/
def partAt (rounds : Nat) (response : String) : Reading Part := do
  let s := response.toList
  let stdout ← scan "stdout" s rounds 0 []
  let stderr ← scan "stderr" s rounds 0 []
  let code ← enclosed "<rsp:ExitCode>".toList "</rsp:ExitCode>".toList s
  pure
    { output :=
        { stdout := String.ofList stdout
          stderr := String.ofList stderr
          exitCode := code.bind fun code => exitCodeOf? (trimChars code) }
      isDone := occurs Protocol.commandDone.toList s }

/-- The words of a fault of the service, with its number if it has one. -/
def managementFaultAt (s : List Char) : Reading (Option (List Char)) := do
  match ← trimmed (enclosed "<f:Message>".toList "</f:Message>".toList s) with
  | none => pure none
  | some words =>
    match ← valueAt "Code" "f:Code" s with
    | some code => pure (some (words ++ " (code ".toList ++ code ++ [')']))
    | none => pure (some words)

/-- The words of a fault of the protocol. -/
def soapFaultAt (s : List Char) : Reading (Option (List Char)) := do
  match placeOf? "<s:Text".toList s with
  | none => pure none
  | some start =>
    match ← tagEnd start s with
    | none => pure none
    | some close => trimmed (Option.map Prod.fst <$> textUntil "</s:Text>".toList (close + 1) s)

/-- The words of the fault that a response reports. -/
def faultAt (response : String) : Reading (Option String) :=
  let s := response.toList
  Option.map String.ofList <$> orElse (managementFaultAt s) (soapFaultAt s)

/-! ### Values -/

@[simp] theorem orElse_pure {α : Type} (o o' : Option α) :
    orElse (pure o) (pure o') = pure (o.orElse fun _ => o') := by
  cases o <;> rfl

@[simp] theorem trimmed_pure (o : Option (List Char)) :
    trimmed (pure o) = pure (o.map trimChars) := rfl

theorem attribute?_eq (name : String) (s : List Char) :
    attribute? name s = between? (name ++ "=\"").toList ['"'] s := by
  simp only [attribute?, between?, cut_singleton]

theorem textAfter?_eq (tag : String) (s : List Char) :
    textAfter? tag s = (between? tag.toList ['<'] s).map trimChars := by
  simp only [textAfter?, between?, cut_singleton]
  cases cut tag.toList s with
  | none => rfl
  | some r => cases h : splitOnce '<' r.2 <;> simp [h]

theorem valueAt_eq (name element : String) (s : List Char) :
    valueAt name element s = pure (value? name element s) := by
  rw [valueAt, enclosedBehind_eq, enclosedBehind_eq, trimmed_pure, orElse_pure, value?,
    attribute?_eq, textAfter?_eq]

theorem shellIdAt_eq (response : String) : shellIdAt response = pure (shellId? response) := by
  rw [shellIdAt, valueAt_eq, enclosed_eq, trimmed_pure, orElse_pure, ← textAfter?_eq]
  rfl

theorem commandIdAt_eq (response : String) :
    commandIdAt response = pure (commandId? response) := by
  rw [commandIdAt, valueAt_eq]
  rfl

/-! ### Streams -/

/-- Behind a mark, a tag ends where the next angle bracket stands. -/
theorem tagEnd_append (a : List Char) {mark : List Char} (hmark : '>' ∉ mark) (b : List Char) :
    tagEnd (byteLength a) (a ++ (mark ++ b)) =
      pure ((splitOnce '>' b).map fun r => byteLength (a ++ (mark ++ r.1))) := by
  rw [tagEnd, textFrom_append, pure_bind, placeOf?, cut_append (quiet_of_not_mem hmark),
    cut_singleton]
  cases splitOnce '>' b <;> simp

/-- Behind the end of a tag. -/
theorem textUntil_behind_tag (pat front content : List Char) :
    textUntil pat (byteLength front + 1) (front ++ '>' :: content) =
      pure ((cut pat content).map fun r => (r.1, byteLength (front ++ '>' :: r.1))) := by
  have h := textUntil_append pat (front ++ ['>']) content
  simp only [List.append_assoc, List.singleton_append] at h
  rw [← h, byteLength_append front ['>']]
  rfl

/-- It does not matter what stands in front of the attributes of a tag. -/
theorem isSelfClosing_mark (stream : OutputStream) (a attributes : List Char) :
    isSelfClosing (a ++ (stream.mark ++ attributes)) = isSelfClosing attributes := by
  have hmark : stream.mark.getLast? = some '"' := by cases stream <;> rfl
  rw [isSelfClosing, isSelfClosing, List.getLast?_append, List.getLast?_append, hmark]
  cases attributes.getLast? <;> rfl

/-- A round in which no element of the stream is found any more. -/
theorem scan_of_none {stream : OutputStream} {b : List Char} (h : cut stream.mark b = none)
    (rounds : Nat) (a out : List Char) :
    scan stream.name (a ++ b) (rounds + 1) (byteLength a) out = pure out := by
  rw [scan, textFrom_append, pure_bind, mark_eq, placeOf?, h]
  rfl

/-- A round in which the tag of an element is found: the places that it goes to. -/
theorem scan_of_mark {stream : OutputStream} {b before rest : List Char}
    (h : cut stream.mark b = some (before, rest)) (rounds : Nat) (a out : List Char) :
    scan stream.name (a ++ b) (rounds + 1) (byteLength a) out =
      match splitOnce '>' rest with
      | none => pure out
      | some (attributes, content) =>
        let tag := before ++ (stream.mark ++ attributes)
        if isSelfClosing attributes then
          scan stream.name (a ++ b) rounds (byteLength (a ++ (tag ++ ['>']))) out
        else
          match cut "</rsp:Stream>".toList content with
          | none => pure out
          | some (data, _) =>
            scan stream.name (a ++ b) rounds (byteLength (a ++ (tag ++ '>' :: data)))
              (out ++ pieceText data) := by
  have hmark : '>' ∉ stream.mark := by cases stream <;> decide
  have hb : b = before ++ (stream.mark ++ rest) := by
    rw [eq_append_of_cut h, List.append_assoc]
  have htag := tagEnd_append (a ++ before) hmark rest
  rw [List.append_assoc a before (stream.mark ++ rest), ← hb] at htag
  rw [scan, textFrom_append, pure_bind, mark_eq, placeOf?, h]
  simp only [Option.map_some]
  rw [← byteLength_append, htag, pure_bind]
  cases hgt : splitOnce '>' rest with
  | none => rfl
  | some r =>
    obtain ⟨attributes, content⟩ := r
    have hs : a ++ b = a ++ before ++ (stream.mark ++ attributes) ++ '>' :: content := by
      rw [hb, (eq_append_of_splitOnce hgt).1]
      simp only [List.append_assoc]
    have hfront := textUpTo_append (a ++ before ++ (stream.mark ++ attributes)) ('>' :: content)
    have huntil := textUntil_behind_tag "</rsp:Stream>".toList
      (a ++ before ++ (stream.mark ++ attributes)) content
    have hplace : byteLength (a ++ before ++ (stream.mark ++ attributes)) + 1 =
        byteLength (a ++ (before ++ (stream.mark ++ attributes) ++ ['>'])) := by
      rw [← List.append_assoc a, ← List.append_assoc a, byteLength_append _ ['>']]
      rfl
    rw [← hs] at hfront huntil
    simp only [Option.map_some, hfront, pure_bind, isSelfClosing_mark, huntil]
    split
    · rw [hplace]
    · cases cut "</rsp:Stream>".toList content with
      | none => rfl
      | some r' => simp only [Option.map_some, List.append_assoc]

/-- One round: it is the last one, where no more of the stream is left, or it moves on to a later
place with the text of one element. -/
theorem scan_round (stream : OutputStream) (rounds : Nat) (a b out : List Char) :
    (streamText stream.name b = [] ∧
      scan stream.name (a ++ b) (rounds + 1) (byteLength a) out = pure out) ∨
    ∃ front rest text, b = front ++ rest ∧ front ≠ [] ∧
      streamText stream.name b = text ++ streamText stream.name rest ∧
      scan stream.name (a ++ b) (rounds + 1) (byteLength a) out =
        scan stream.name (a ++ b) rounds (byteLength (a ++ front)) (out ++ text) := by
  cases hcut : cut stream.mark b with
  | none =>
    have hnext : nextPiece? stream.name b = none := by
      simp only [nextPiece?, mark_eq, hcut, Option.bind_eq_bind, Option.bind_none]
    exact .inl ⟨streamText_of_none hnext, scan_of_none hcut rounds a out⟩
  | some r =>
    -- The tag of an element begins; it may have no end, close itself, or open some data.
    obtain ⟨before, rest⟩ := r
    have hb := eq_append_of_cut hcut
    have hscan := scan_of_mark hcut rounds a out
    cases hgt : splitOnce '>' rest with
    | none =>
      have hnext : nextPiece? stream.name b = none := by
        simp only [nextPiece?, mark_eq, hcut, hgt, Option.bind_eq_bind, Option.bind_some,
          Option.bind_none]
      rw [hgt] at hscan
      exact .inl ⟨streamText_of_none hnext, hscan⟩
    | some r' =>
      obtain ⟨attributes, content⟩ := r'
      obtain ⟨rfl, hattributes⟩ := eq_append_of_splitOnce hgt
      have hnext := nextPiece?_eq hcut hattributes
      have hne : ∀ data, before ++ (stream.mark ++ attributes) ++ '>' :: data ≠ [] := fun data =>
        List.append_ne_nil_of_right_ne_nil _ (List.cons_ne_nil '>' data)
      simp only [hgt] at hscan
      by_cases hclosed : isSelfClosing attributes
      · rw [if_pos hclosed] at hscan hnext
        refine .inr ⟨_, content, [], ?_, hne [], streamText_of_some hnext, ?_⟩
        · rw [hb]
          simp only [List.append_assoc, List.cons_append, List.nil_append]
        · rw [hscan, List.append_nil]
      · rw [if_neg hclosed] at hscan hnext
        cases hdata : cut "</rsp:Stream>".toList content with
        | none =>
          rw [hdata] at hscan hnext
          exact .inl ⟨streamText_of_none hnext, hscan⟩
        | some r'' =>
          obtain ⟨data, behind⟩ := r''
          obtain rfl := eq_append_of_cut hdata
          rw [hdata] at hscan hnext
          -- The closing tag is left to the next round, which finds nothing in it.
          have hquiet : quiet stream.mark "</rsp:Stream>".toList := by cases stream <;> decide
          refine .inr ⟨_, "</rsp:Stream>".toList ++ behind, pieceText data, ?_, hne data, ?_, hscan⟩
          · rw [hb]
            simp only [List.append_assoc, List.cons_append]
          · rw [streamText_append hquiet]
            exact streamText_of_some hnext

/-- From any place on, the reading comes to the text of the stream that is left, in one round more
than there are characters left. -/
theorem scan_append (stream : OutputStream) {rounds : Nat} (a b out : List Char)
    (hrounds : b.length < rounds) :
    scan stream.name (a ++ b) rounds (byteLength a) out =
      pure (out ++ streamText stream.name b) := by
  -- Each round but the last one leaves fewer characters, so the rounds that are allowed last.
  induction rounds generalizing a b out with
  | zero => exact absurd hrounds (Nat.not_lt_zero _)
  | succ rounds ih =>
    obtain ⟨htext, hscan⟩ | ⟨front, rest, text, rfl, hfront, htext, hscan⟩ :=
      scan_round stream rounds a b out
    · rw [hscan, htext, List.append_nil]
    · have hrest : rest.length < rounds := by
        have hpos := List.length_pos_iff.2 hfront
        rw [List.length_append] at hrounds
        omega
      rw [hscan, htext, ← List.append_assoc, ih (a ++ front) rest (out ++ text) hrest,
        List.append_assoc]

theorem scan_eq (stream : OutputStream) {rounds : Nat} {s : List Char} (h : s.length < rounds) :
    scan stream.name s rounds 0 [] = pure (streamText stream.name s) :=
  scan_append stream [] s [] h

theorem exitCode?_eq (s : List Char) :
    exitCode? s = (between? "<rsp:ExitCode>".toList "</rsp:ExitCode>".toList s).bind fun code =>
      exitCodeOf? (trimChars code) := by
  rw [between?_bind]
  rfl

theorem partAt_eq {rounds : Nat} {response : String} (h : response.length < rounds) :
    partAt rounds response = pure (part response) := by
  have hstdout : scan "stdout" response.toList rounds 0 [] =
      pure (streamText "stdout" response.toList) := scan_eq .stdout h
  have hstderr : scan "stderr" response.toList rounds 0 [] =
      pure (streamText "stderr" response.toList) := scan_eq .stderr h
  simp only [partAt, hstdout, hstderr, enclosed_eq, pure_bind, ← exitCode?_eq]
  rfl

/-! ### Faults -/

theorem managementFault?_eq (s : List Char) :
    managementFault? s =
      (between? "<f:Message>".toList "</f:Message>".toList s).bind fun words =>
        match value? "Code" "f:Code" s with
        | some code => some (trimChars words ++ " (code ".toList ++ code ++ [')'])
        | none => some (trimChars words) := by
  rw [between?_bind]
  rfl

theorem managementFaultAt_eq (s : List Char) :
    managementFaultAt s = pure (managementFault? s) := by
  rw [managementFaultAt, enclosed_eq, trimmed_pure, pure_bind, managementFault?_eq, valueAt_eq]
  cases between? "<f:Message>".toList "</f:Message>".toList s with
  | none => rfl
  | some words => cases value? "Code" "f:Code" s <;> rfl

theorem soapFaultAt_eq (s : List Char) : soapFaultAt s = pure (soapFault? s) := by
  rw [soapFaultAt, soapFault?, placeOf?]
  cases h : cut "<s:Text".toList s with
  | none => rfl
  | some r =>
    obtain ⟨before, rest⟩ := r
    have hmark : '>' ∉ "<s:Text".toList := by decide
    have htag := tagEnd_append before hmark rest
    have hs := eq_append_of_cut h
    rw [List.append_assoc] at hs
    rw [← hs] at htag
    simp only [Option.map_some, htag, pure_bind]
    cases hgt : splitOnce '>' rest with
    | none =>
      simp only [Option.map_none, Option.bind_eq_bind, Option.bind_some, hgt, Option.bind_none]
    | some r' =>
      obtain ⟨attributes, content⟩ := r'
      have huntil := textUntil_behind_tag "</s:Text>".toList
        (before ++ ("<s:Text".toList ++ attributes)) content
      have hwhole : before ++ ("<s:Text".toList ++ attributes) ++ '>' :: content = s := by
        rw [hs, (eq_append_of_splitOnce hgt).1]
        simp only [List.append_assoc]
      rw [hwhole] at huntil
      simp only [Option.map_some, huntil, map_pure, trimmed_pure]
      cases hcut : cut "</s:Text>".toList content with
      | none =>
        simp only [Option.map_none, Option.bind_eq_bind, Option.bind_some, hgt, hcut,
          Option.bind_none]
      | some r'' => simp only [Option.map_some, Option.bind_eq_bind, Option.bind_some, hgt, hcut]

theorem faultAt_eq (response : String) : faultAt response = pure (fault? response) := by
  rw [faultAt, managementFaultAt_eq, soapFaultAt_eq, orElse_pure]
  rfl

/-- Every response can be read at places of it: the parts of the output, the names of shells and
commands and the words of faults.  The readers end, that of the output in one round for each stream
more than the response has characters, and a larger number of rounds that it is allowed changes
nothing.  None of them cuts the response outside of it or inside of a character, and they come to
what the searches by parts find. -/
theorem read_at_places (response : String) :
    (∀ more, partAt (response.length + 1 + more) response = pure (part response)) ∧
      shellIdAt response = pure (shellId? response) ∧
      commandIdAt response = pure (commandId? response) ∧
      faultAt response = pure (fault? response) :=
  ⟨fun more => partAt_eq (by omega), shellIdAt_eq response, commandIdAt_eq response,
    faultAt_eq response⟩

end RemoteHost.Winrm.Response
