/-
RemoteHost/Proofs/Winrm/ReceiveResponse.lean

Responses to a request for output, and what is read off them.

A `ReceiveResponse` is what a server says: elements of the output streams in any order, each
with base64 of some bytes among blanks or with a mark that the stream ends, and then the
state of the command, with an exit code or without.  What is read off its text is just that
(`part_text`), although the text is only searched for a few marks.  What a search finds in the
elements is known for tags with any attributes (`StreamTag`), and a `TaggedResponse` has such tags
(`part_of_any_tags`).  The state is quiet for the marks of the streams
(`CommandState.quiet_mark_render`), and it is where the name of the state of a command that has
ended is found (`occurs_done_render`) and the tag of the exit code (`exitCode?_render`).
-/
import RemoteHost.Proofs.Text.Numeral
import RemoteHost.Proofs.Winrm.StreamTags

namespace RemoteHost.Winrm

open Text

/-! ### What stands in a response -/

/-- What an element of a stream holds. -/
inductive StreamContent where
  /-- Base64 of some bytes, with blanks around it. -/
  | data (before : Blanks) (bytes : Bytes) (after : Blanks)
  /-- Nothing: the stream ends. -/
  | ending

/-- An element of a stream. -/
structure StreamElement where
  gap : Blanks
  stream : OutputStream
  command : PlainValue
  content : StreamContent

/-- What follows the attributes of an element. -/
def StreamContent.render : StreamContent → List Char
  | data before bytes after => '>' :: dataText before bytes after ++ "</rsp:Stream>".toList
  | ending => " End=".toList ++ '"' :: ("true".toList ++ '"' :: "/>".toList)

/-- The text of an element. -/
def StreamElement.render (e : StreamElement) : List Char :=
  (e.gap.text ++ "<rsp:Stream Name=".toList) ++ '"' :: (e.stream.name.toList ++ '"' ::
    (" CommandId=".toList ++ '"' :: (e.command.text ++ '"' :: e.content.render)))

/-- The bytes that an element adds to a stream. -/
def StreamElement.piece? (stream : OutputStream) (e : StreamElement) : Option Bytes :=
  if e.stream = stream then
    match e.content with
    | .data _ bytes _ => some bytes
    | .ending => none
  else none

/-- An exit code, which fits into 32 bits. -/
structure ExitCode where
  value : Int
  le_value : -0x80000000 ≤ value
  value_lt : value < 0x80000000

/-- The state of a command: ended, or another one; and the exit code, if it is reported. -/
structure CommandState where
  gap : Blanks
  command : PlainValue
  other : Option PlainValue
  exitCode : Option ExitCode

namespace CommandState

/-- The command has ended. -/
def isDone (s : CommandState) : Bool := s.other.isNone

/-- The name of the state. -/
def name (s : CommandState) : List Char :=
  match s.other with
  | none => doneMark
  | some other => other.text

/-- What follows the attributes. -/
def code (s : CommandState) : List Char :=
  match s.exitCode with
  | none => "/>".toList
  | some code =>
    '>' :: (exitTag ++ ((toString code.value).toList ++
      ("</rsp:ExitCode>".toList ++ "</rsp:CommandState>".toList)))

/-- The text of a state. -/
def render (s : CommandState) : List Char :=
  (s.gap.text ++ "<rsp:CommandState CommandId=".toList) ++ '"' :: (s.command.text ++ '"' ::
    (" State=".toList ++ '"' :: (s.name ++ '"' :: s.code)))

end CommandState

/-- A response to a request for output, with whatever stands before its elements and behind
them. -/
structure ReceiveResponse where
  lead : List Char
  elements : List StreamElement
  state : CommandState
  trail : List Char
  quiet_lead : ∀ mark ∈ marks, quiet mark lead
  quiet_trail : ∀ mark ∈ marks, quiet mark trail

namespace ReceiveResponse

/-- The text of a response. -/
def text (r : ReceiveResponse) : String :=
  String.ofList (r.lead ++ (r.elements.flatMap StreamElement.render ++
    (r.state.render ++ r.trail)))

/-- The bytes that a response adds to a stream, element by element. -/
def pieces (stream : OutputStream) (r : ReceiveResponse) : List Bytes :=
  r.elements.filterMap (StreamElement.piece? stream)

end ReceiveResponse

/-! ### Elements as tags -/

/-- The attribute with the name of the command. -/
def commandAttribute (command : PlainValue) : OtherAttribute where
  blank := ' '
  label := "CommandId=".toList
  value := command
  isBlank_blank := rfl
  plain := by simp
  names_none := .inl (by decide)

/-- The attribute that says that the stream ends. -/
def endAttribute : OtherAttribute where
  blank := ' '
  label := "End=".toList
  value :=
    { text := "true".toList
      plain := by simp
      not_done := not_done_of_not_mem (by decide) }
  isBlank_blank := rfl
  plain := by simp
  names_none := .inl (by decide)

/-- An element of a stream as a tag with its attributes. -/
def StreamElement.tag (e : StreamElement) : StreamTag where
  gap := e.gap
  before := []
  stream := e.stream
  behind := commandAttribute e.command ::
    match e.content with
    | .data _ _ _ => []
    | .ending => [endAttribute]
  content :=
    match e.content with
    | .data before bytes after => .data before bytes after
    | .ending => .closed

theorem StreamElement.render_tag (e : StreamElement) : e.tag.render = e.render := by
  have hopen : "<rsp:Stream Name=".toList = "<rsp:Stream".toList ++ " Name=".toList := rfl
  have hcommand : (commandAttribute e.command).render =
      " CommandId=".toList ++ '"' :: (e.command.text ++ ['"']) := rfl
  obtain ⟨gap, stream, command, content⟩ := e
  cases content <;>
    simp only [tag, render, StreamTag.render, StreamTag.opening, StreamTag.rest, attributesText,
      List.flatMap_cons, List.flatMap_nil, hcommand, hopen, List.append_assoc, List.cons_append,
      List.nil_append, List.append_nil] <;>
    rfl

theorem StreamElement.piece?_tag (stream : OutputStream) (e : StreamElement) :
    e.tag.piece? stream = e.piece? stream := by
  unfold StreamTag.piece? StreamElement.piece? tag
  cases e.content <;> rfl

/-! ### Exit codes -/

theorem digit_or_minus_of_mem {n : Int} {c : Char} (h : c ∈ (toString n).toList) :
    c.isDigit ∨ c = '-' := by
  have hdigits : ∀ m : Nat, c ∈ (toString m).toList → c.isDigit := by
    intro m hm
    rw [Nat.toString_eq_ofList_toDigits, String.toList_ofList] at hm
    exact Nat.isDigit_of_mem_toDigits (by decide) (by decide) hm
  cases n with
  | ofNat m => exact .inl (hdigits m h)
  | negSucc m =>
    have h' : c ∈ ("-" ++ toString (m + 1)).toList := h
    rw [String.toList_append, List.mem_append] at h'
    rcases h' with h' | h'
    · exact .inr (List.mem_singleton.1 h')
    · exact .inl (hdigits (m + 1) h')

theorem exitCodeOf?_toString (code : ExitCode) :
    Response.exitCodeOf? (toString code.value).toList = some code.value := by
  obtain ⟨n, hle, hlt⟩ := code
  have hpow : (1 <<< 31 : Nat) = 0x80000000 := by decide
  cases n with
  | ofNat m =>
    have hm : m < 1 <<< 31 := by
      rw [Int.ofNat_eq_natCast] at hlt
      omega
    have hminus : ∀ r, Nat.toDigits 10 m ≠ '-' :: r := by
      intro r h
      have hmem : '-' ∈ Nat.toDigits 10 m := by
        rw [h]
        exact List.mem_cons_self
      exact absurd (Nat.isDigit_of_mem_toDigits (by decide) (by decide) hmem) (by decide)
    show Response.exitCodeOf? (toString m).toList = _
    rw [Nat.toString_eq_ofList_toDigits, String.toList_ofList, Response.exitCodeOf?]
    · simp only [natValue_toDigits, if_pos hm]
      rfl
    · exact hminus
  | negSucc m =>
    have hm : m + 1 ≤ 1 <<< 31 := by omega
    have hlist : ("-" ++ toString (m + 1)).toList = '-' :: Nat.toDigits 10 (m + 1) := by
      rw [String.toList_append, Nat.toString_eq_ofList_toDigits, String.toList_ofList,
        String.toList_ofList]
      rfl
    show Response.exitCodeOf? ("-" ++ toString (m + 1)).toList = _
    rw [hlist, Response.exitCodeOf?]
    simp only [natValue_plus_toDigits, if_pos hm]
    rfl

namespace CommandState

variable (s : CommandState)

/-- What stands before the exit code and the end of the element. -/
def opening : List Char :=
  (s.gap.text ++ "<rsp:CommandState CommandId=".toList) ++ '"' :: (s.command.text ++ '"' ::
    (" State=".toList ++ '"' :: (s.name ++ ['"'])))

theorem render_eq : s.render = s.opening ++ s.code := by
  simp only [render, opening, List.append_assoc, List.cons_append, List.nil_append]

theorem not_mem_name {c : Char} (hc : c = '"' ∨ c = '<' ∨ c = '>') : c ∉ s.name := by
  cases hother : s.other with
  | none =>
    simp only [name, hother]
    exact not_mem_doneMark hc
  | some other =>
    simp only [name, hother]
    exact other.not_mem hc

theorem isDone_iff : s.isDone ↔ doneMark <:+: s.name := by
  unfold isDone name
  cases s.other with
  | none => exact iff_of_true rfl List.infix_rfl
  | some other => exact iff_of_false Bool.false_ne_true other.not_done

/-- The tags of an exit code have few characters, and the code has digits. -/
theorem not_mem_code {c : Char} (hdigit : c.isDigit = false) (hminus : c ≠ '-')
    (htags : c ∉ "/><rsp:ExitCode></rsp:ExitCode></rsp:CommandState>".toList) : c ∉ s.code := by
  have hend : "/><rsp:ExitCode></rsp:ExitCode></rsp:CommandState>".toList =
      "/>".toList ++ (exitTag ++
        ("</rsp:ExitCode>".toList ++ "</rsp:CommandState>".toList)) := rfl
  rw [hend, List.mem_append, List.mem_append, List.mem_append, not_or, not_or, not_or] at htags
  obtain ⟨hempty, hopen, hclose, hstate⟩ := htags
  cases hcode : s.exitCode with
  | none =>
    simp only [code, hcode]
    exact hempty
  | some code =>
    have hgt : c ≠ '>' := by
      rintro rfl
      exact hempty (by decide)
    have htext : c ∉ (toString code.value).toList := by
      intro h
      rcases digit_or_minus_of_mem h with h | h
      · rw [hdigit] at h
        cases h
      · exact hminus h
    simp only [CommandState.code, hcode, List.mem_cons, List.mem_append, not_or]
    exact ⟨hgt, hopen, htext, hclose, hstate⟩

theorem quiet_mark_render (stream : OutputStream) : quiet stream.mark s.render := by
  have hbefore : '"' ∉ s.gap.text ++ "<rsp:CommandState CommandId=".toList :=
    s.gap.not_mem_append rfl (by decide)
  have hsuffix : ¬ "Name=".toList <:+ s.gap.text ++ "<rsp:CommandState CommandId=".toList := by
    intro h
    have h' := List.suffix_of_suffix_length_le h (List.suffix_append _ _) (by decide)
    exact absurd h' (by decide)
  have hcode : quiet stream.mark s.code := by
    refine quiet_of_not_mem ?_
    exact s.not_mem_code (by decide) (by decide) (by decide)
  have hclash : clash (stream.name.toList ++ ['"']) s.code := by
    cases hexit : s.exitCode <;> simp only [code, hexit] <;> cases stream <;> rfl
  refine quiet_mark_attribute hbefore (s.command.not_mem (.inl rfl)) (.inl hsuffix)
    (by cases stream <;> rfl) ?_
  exact quiet_mark_attribute (by decide) (s.not_mem_name (.inl rfl)) (.inl (by decide)) hclash hcode

end CommandState

/-! ### Searching for the end of the command -/

/-- The end of a command is found in the state of the command, if it is there. -/
theorem occurs_done_render (s : CommandState) {trail : List Char}
    (htrail : quiet doneMark trail) :
    occurs doneMark (s.render ++ trail) = s.isDone := by
  have hbefore : '.' ∉ s.gap.text ++ "<rsp:CommandState CommandId=".toList :=
    s.gap.not_mem_append rfl (by decide)
  cases hother : s.other with
  | none =>
    have hquiet : quiet doneMark
        ((s.gap.text ++ "<rsp:CommandState CommandId=".toList) ++ '"' :: (s.command.text ++ '"' ::
          (" State=".toList ++ ['"']))) :=
      quiet_done_attribute hbefore s.command.not_done (quiet_done_of_not_mem (by decide))
    have hrender : s.render ++ trail =
        ((s.gap.text ++ "<rsp:CommandState CommandId=".toList) ++ '"' :: (s.command.text ++ '"' ::
          (" State=".toList ++ ['"']))) ++
          (doneMark ++ ('"' :: (s.code ++ trail))) := by
      simp only [CommandState.render, CommandState.name, hother, List.append_assoc,
        List.cons_append, List.nil_append]
    rw [hrender, occurs, cut_append_self hquiet, CommandState.isDone, hother]
    rfl
  | some other =>
    have hcode : quiet doneMark s.code := by
      refine quiet_done_of_not_mem ?_
      exact s.not_mem_code (by decide) (by decide) (by decide)
    have hname : ¬ doneMark <:+: s.name := by
      simp only [CommandState.name, hother]
      exact other.not_done
    have hquiet : quiet doneMark s.render := by
      refine quiet_done_attribute hbefore s.command.not_done ?_
      exact quiet_done_attribute (by decide) hname hcode
    have hne : doneMark ≠ [] := by decide
    rw [occurs, cut_eq_none hne (quiet_append hquiet htrail), CommandState.isDone, hother]
    rfl

/-! ### Searching for the exit code -/

theorem quiet_exitTag_opening (s : CommandState) : quiet exitTag s.opening := by
  have hattributes : '<' ∉ '"' :: (s.command.text ++ '"' ::
      (" State=".toList ++ '"' :: (s.name ++ ['"']))) := by
    simp [s.command.not_mem, s.not_mem_name]
  refine quiet_append (quiet_append ?_ (by decide)) ?_
  · exact quiet_exitTag_of_not_mem (s.gap.not_mem rfl)
  · exact quiet_exitTag_of_not_mem hattributes

theorem trimChars_toString (n : Int) : trimChars (toString n).toList = (toString n).toList := by
  have hchars : ∀ c ∈ (toString n).toList, ¬ isBlank c := by
    intro c hc
    rcases digit_or_minus_of_mem hc with h | rfl
    · rw [Char.isDigit_iff_toNat] at h
      simp only [isBlank]
      grind
    · decide
  have h := trimChars_append_append (a := []) (b := []) (by simp) hchars (by simp)
  rwa [List.nil_append, List.append_nil] at h

/-- The exit code is read off the state of the command. -/
theorem exitCode?_render (s : CommandState) {lead trail : List Char} (hlead : quiet exitTag lead)
    (htrail : quiet exitTag trail) :
    Response.exitCode? (lead ++ (s.render ++ trail)) = s.exitCode.map ExitCode.value := by
  have hopening := quiet_append hlead (quiet_exitTag_opening s)
  cases hexit : s.exitCode with
  | none =>
    have hcode : quiet exitTag s.code := by
      simp only [CommandState.code, hexit]
      decide
    have hquiet : quiet exitTag (lead ++ (s.render ++ trail)) := by
      rw [s.render_eq]
      exact quiet_append hlead
        (quiet_append (quiet_append (quiet_exitTag_opening s) hcode) htrail)
    show (cut exitTag _).bind _ = none
    rw [cut_eq_none (by decide) hquiet]
    rfl
  | some code =>
    have htext : '<' ∉ (toString code.value).toList := by
      intro h
      rcases digit_or_minus_of_mem h with h | h
      · exact absurd h (by decide)
      · exact absurd h (by decide)
    have hquiet : quiet exitTag ((lead ++ s.opening) ++ ['>']) :=
      quiet_append hopening (by decide)
    have hclose : quiet "</rsp:ExitCode>".toList (toString code.value).toList :=
      quiet_of_not_mem htext
    have hrender : lead ++ (s.render ++ trail) = ((lead ++ s.opening) ++ ['>']) ++
        (exitTag ++ ((toString code.value).toList ++
          ("</rsp:ExitCode>".toList ++ ("</rsp:CommandState>".toList ++ trail)))) := by
      rw [s.render_eq]
      simp only [CommandState.code, hexit, List.append_assoc, List.cons_append, List.nil_append]
    show (cut exitTag _).bind _ = _
    rw [hrender, cut_append_self hquiet, Option.bind_some]
    show (cut "</rsp:ExitCode>".toList _).bind _ = _
    rw [cut_append_self hclose, Option.bind_some]
    show Response.exitCodeOf? (trimChars _) = _
    rw [trimChars_toString, exitCodeOf?_toString]
    rfl

/-! ### Reading a response -/

/-- The text of a response with elements of any form. -/
def responseText (lead : List Char) (tags : List StreamTag) (state : CommandState)
    (trail : List Char) : List Char := lead ++ (tagsText tags ++ (state.render ++ trail))

section Reading

variable {lead trail : List Char}

theorem streamText_responseText {stream : OutputStream} (hlead : quiet stream.mark lead)
    (htrail : quiet stream.mark trail) (tags : List StreamTag) (state : CommandState) :
    Response.streamText stream.name (responseText lead tags state trail) =
      (tags.filterMap (StreamTag.piece? stream)).flatMap (Utf8.decodeLossyFrom 0) := by
  rw [responseText, streamText_append hlead, streamText_tags,
    streamText_quiet (quiet_append (state.quiet_mark_render stream) htrail), List.append_nil]

theorem occurs_done_responseText (hlead : quiet doneMark lead) (htrail : quiet doneMark trail)
    (tags : List StreamTag) (state : CommandState) :
    occurs doneMark (responseText lead tags state trail) = state.isDone := by
  rw [responseText, ← List.append_assoc,
    occurs_append_of_quiet (quiet_append hlead (quiet_done_tagsText tags)),
    occurs_done_render state htrail]

theorem exitCode?_responseText (hlead : quiet exitTag lead) (htrail : quiet exitTag trail)
    (tags : List StreamTag) (state : CommandState) :
    Response.exitCode? (responseText lead tags state trail) =
      state.exitCode.map ExitCode.value := by
  rw [responseText, ← List.append_assoc]
  exact exitCode?_render state (quiet_append hlead (quiet_exitTag_tagsText tags)) htrail

end Reading

theorem OutputStream.mark_mem (stream : OutputStream) : stream.mark ∈ marks := by
  cases stream <;> simp [marks]

theorem doneMark_mem : doneMark ∈ marks := by simp [marks]

theorem exitTag_mem : exitTag ∈ marks := by simp [marks]

theorem join_map_decodeLossy (pieces : List Bytes) :
    String.join (pieces.map Utf8.decodeLossy) =
      String.ofList (pieces.flatMap (Utf8.decodeLossyFrom 0)) := by
  induction pieces with
  | nil => rfl
  | cons piece pieces ih =>
    rw [List.map_cons, String.join_cons, ih, List.flatMap_cons, String.ofList_append]
    rfl

/-- A response with elements of any form, with whatever stands before them and behind the state of
the command. -/
structure TaggedResponse where
  lead : List Char
  tags : List StreamTag
  state : CommandState
  trail : List Char
  quiet_lead : ∀ mark ∈ marks, quiet mark lead
  quiet_trail : ∀ mark ∈ marks, quiet mark trail

/-- A response as one whose elements may have any form. -/
def ReceiveResponse.tagged (r : ReceiveResponse) : TaggedResponse where
  lead := r.lead
  tags := r.elements.map StreamElement.tag
  state := r.state
  trail := r.trail
  quiet_lead := r.quiet_lead
  quiet_trail := r.quiet_trail

namespace TaggedResponse

variable (r : TaggedResponse)

/-- The text of a response. -/
def text : String := String.ofList (responseText r.lead r.tags r.state r.trail)

/-- What the elements of a stream carry, in order, each decoded by itself. -/
def carried (stream : OutputStream) : String :=
  String.join ((r.tags.filterMap (StreamTag.piece? stream)).map Utf8.decodeLossy)

theorem ofList_streamText_text (stream : OutputStream) :
    String.ofList (Response.streamText stream.name r.text.toList) = r.carried stream := by
  rw [text, String.toList_ofList, streamText_responseText (r.quiet_lead _ stream.mark_mem)
    (r.quiet_trail _ stream.mark_mem), carried, join_map_decodeLossy]

/-- What is read off a response: what its elements carry, the exit code, and whether the command has
ended. -/
theorem part_eq :
    Response.part r.text =
      { output :=
          { stdout := r.carried .stdout
            stderr := r.carried .stderr
            exitCode := r.state.exitCode.map ExitCode.value }
        isDone := r.state.isDone } := by
  have hstdout : String.ofList (Response.streamText "stdout" r.text.toList) = r.carried .stdout :=
    r.ofList_streamText_text .stdout
  have hstderr : String.ofList (Response.streamText "stderr" r.text.toList) = r.carried .stderr :=
    r.ofList_streamText_text .stderr
  have hdone : occurs Protocol.commandDone.toList r.text.toList = r.state.isDone := by
    rw [text, String.toList_ofList]
    exact occurs_done_responseText (r.quiet_lead _ doneMark_mem) (r.quiet_trail _ doneMark_mem) _ _
  have hexit : Response.exitCode? r.text.toList = r.state.exitCode.map ExitCode.value := by
    rw [text, String.toList_ofList]
    exact exitCode?_responseText (r.quiet_lead _ exitTag_mem) (r.quiet_trail _ exitTag_mem) _ _
  simp only [Response.part, hstdout, hstderr, hdone, hexit]

/-- **A response is read for what stands in it.**  There may be any number of elements of both
streams, in any order, each with base64 of any bytes among blanks, or without content in a tag that
closes itself.  Besides the one that names the stream, a tag may have any attributes in any order.
Then each stream is what its own elements carry, and the exit code is the one of the state, if there
is one.  The command has ended just when the name of its state says so. -/
theorem part_of_any_tags :
    let part := Response.part r.text
    part.output.stdout = r.carried .stdout ∧ part.output.stderr = r.carried .stderr ∧
      (part.isDone ↔ doneMark <:+: r.state.name) ∧
      part.output.exitCode = r.state.exitCode.map ExitCode.value := by
  intro part
  have hpart : part = _ := r.part_eq
  rw [hpart]
  exact ⟨rfl, rfl, r.state.isDone_iff, rfl⟩

/-- Elements of both streams in turn, the second stream ended by an element without content.  The
value of the first attribute is the name of the other stream, and the first element ends inside of
a character. -/
def interleaved : TaggedResponse where
  lead := "<s:Body><rsp:ReceiveResponse>".toList
  tags :=
    [ { gap := .of [] rfl
        before := [commandAttribute ⟨"stderr".toList, by simp, not_done_of_not_mem (by decide)⟩]
        stream := .stdout
        behind := []
        content := .data (.of ['\n', ' '] rfl) [97, 0xc3] (.of ['\n'] rfl) },
      { gap := .of [' '] rfl
        before := []
        stream := .stderr
        behind := [commandAttribute ⟨['1'], by simp, not_done_of_not_mem (by decide)⟩]
        content := .data (.of [] rfl) [0xc3, 0xa9] (.of [] rfl) },
      { gap := .of [] rfl
        before := []
        stream := .stdout
        behind := []
        content := .data (.of [] rfl) [98] (.of [] rfl) },
      { gap := .of [] rfl
        before := [endAttribute]
        stream := .stderr
        behind := []
        content := .closed } ]
  state :=
    { gap := .of ['\n'] rfl
      command := ⟨['1'], by simp, not_done_of_not_mem (by decide)⟩
      other := none
      exitCode := some ⟨-1, by decide, by decide⟩ }
  trail := "</rsp:ReceiveResponse></s:Body>".toList
  quiet_lead := by decide
  quiet_trail := by decide

theorem part_of_any_tags_interleaved :
    let part := Response.part interleaved.text
    part.output.stdout = "a\ufffdb" ∧ part.output.stderr = "\u00e9" ∧ part.isDone ∧
      part.output.exitCode = some (-1) := by
  obtain ⟨hstdout, hstderr, hdone, hexit⟩ := interleaved.part_of_any_tags
  exact ⟨hstdout.trans (by decide), hstderr.trans (by decide), hdone.2 List.infix_rfl, hexit⟩

end TaggedResponse

namespace ReceiveResponse

variable (r : ReceiveResponse)

theorem text_tagged : r.tagged.text = r.text := by
  have hrender : (fun e : StreamElement => e.tag.render) = StreamElement.render :=
    funext StreamElement.render_tag
  rw [text, TaggedResponse.text, responseText, tagsText, tagged, List.flatMap_map, hrender]

theorem carried_tagged (stream : OutputStream) :
    r.tagged.carried stream =
      String.ofList ((r.pieces stream).flatMap (Utf8.decodeLossyFrom 0)) := by
  have hpiece : StreamTag.piece? stream ∘ StreamElement.tag = StreamElement.piece? stream :=
    funext (StreamElement.piece?_tag stream)
  rw [TaggedResponse.carried, join_map_decodeLossy, tagged, List.filterMap_map, hpiece, pieces]

/-- What is read off a response is what stands in it: the pieces of each stream, each one
decoded by itself, the exit code, and whether the command has ended. -/
theorem part_text :
    Response.part r.text =
      { output :=
          { stdout := String.ofList ((r.pieces .stdout).flatMap (Utf8.decodeLossyFrom 0))
            stderr := String.ofList ((r.pieces .stderr).flatMap (Utf8.decodeLossyFrom 0))
            exitCode := r.state.exitCode.map ExitCode.value }
        isDone := r.state.isDone } := by
  rw [← r.text_tagged, TaggedResponse.part_eq, r.carried_tagged, r.carried_tagged]
  rfl

end ReceiveResponse

end RemoteHost.Winrm
