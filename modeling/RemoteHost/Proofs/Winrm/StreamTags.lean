/-
RemoteHost/Proofs/Winrm/StreamTags.lean

Elements of the output streams, and what a search for a stream finds in them.

An element of a stream names the stream in an attribute, among any other ones, and holds base64 of
some bytes among blanks, or has no content.  A response is only searched for the attribute that names
the stream, for the end of the tag and for the closing tag.  This finds the elements all the same, one
after the other, and takes none of the other stream's for one of its own (`streamText_tags`): for the
mark of a stream the text is quiet up to where the mark stands for itself.  The name of the state of a
command that has ended and the tag of an exit code do not occur in an element, whatever it holds
(`quiet_done_render`, `quiet_exitTag_render`).
-/
import RemoteHost.Proofs.Text.Base64
import RemoteHost.Proofs.Text.Blank
import RemoteHost.Proofs.Text.Search
import RemoteHost.Winrm.Response

namespace RemoteHost.Winrm

open Text

/-! ### What stands in an element -/

/-- Blanks between or in elements. -/
structure Blanks where
  text : List Char
  all_blank : ∀ c ∈ text, isBlank c

/-- Blanks, by the test for them. -/
def Blanks.of (text : List Char) (h : text.all isBlank) : Blanks where
  text := text
  all_blank := List.all_eq_true.1 h

/-- The name of the state of a command that has ended. -/
def doneMark : List Char := Protocol.commandDone.toList

/-- A value of an attribute that does not close it and does not say that a command has
ended. -/
structure PlainValue where
  text : List Char
  plain : ∀ c ∈ text, c ≠ '"' ∧ c ≠ '<' ∧ c ≠ '>'
  not_done : ¬ doneMark <:+: text

/-- The output streams of a command. -/
inductive OutputStream where
  | stdout
  | stderr
  deriving DecidableEq, Repr

namespace OutputStream

/-- The name of a stream. -/
def name : OutputStream → String
  | stdout => "stdout"
  | stderr => "stderr"

/-- The attribute that names a stream, for which a response is searched. -/
def mark (stream : OutputStream) : List Char :=
  "Name=".toList ++ '"' :: (stream.name.toList ++ ['"'])

end OutputStream

/-- Base64 of some bytes, among blanks. -/
def dataText (before : Blanks) (bytes : Bytes) (after : Blanks) : List Char :=
  before.text ++ (Base64.encodeChars bytes ++ after.text)

/-- The tag that an exit code stands behind. -/
def exitTag : List Char := "<rsp:ExitCode>".toList

/-- The marks for which a response is searched. -/
def marks : List (List Char) :=
  [OutputStream.stdout.mark, OutputStream.stderr.mark, doneMark, exitTag]

/-- An attribute besides the one that names the stream: a blank, whatever stands in front of the
value, and the value.  It does not look like one that names a stream. -/
structure OtherAttribute where
  blank : Char
  label : List Char
  value : PlainValue
  isBlank_blank : isBlank blank
  plain : ∀ c ∈ label, c ≠ '"' ∧ c ≠ '<' ∧ c ≠ '>' ∧ c ≠ '/'
  names_none : ¬ "Name=".toList <:+ label ∨ ∀ stream : OutputStream, value.text ≠ stream.name.toList

/-- The text of an attribute. -/
def OtherAttribute.render (a : OtherAttribute) : List Char :=
  (a.blank :: a.label) ++ '"' :: (a.value.text ++ ['"'])

/-- The text of some attributes. -/
def attributesText (as : List OtherAttribute) : List Char := as.flatMap OtherAttribute.render

/-- What the tag of an element of a stream opens. -/
inductive TagContent where
  /-- Base64 of some bytes, with blanks around it. -/
  | data (before : Blanks) (bytes : Bytes) (after : Blanks)
  /-- Nothing: the tag closes itself. -/
  | closed

/-- What follows the attributes of a tag. -/
def TagContent.render : TagContent → List Char
  | data before bytes after => '>' :: dataText before bytes after ++ "</rsp:Stream>".toList
  | closed => "/>".toList

/-- An element of a stream, with any attributes before and behind the one that names the stream. -/
structure StreamTag where
  gap : Blanks
  before : List OtherAttribute
  stream : OutputStream
  behind : List OtherAttribute
  content : TagContent

namespace StreamTag

/-- What stands in front of the attribute that names the stream. -/
def opening (e : StreamTag) : List Char :=
  (e.gap.text ++ "<rsp:Stream".toList) ++ attributesText e.before

/-- What stands behind the attribute that names the stream. -/
def rest (e : StreamTag) : List Char := attributesText e.behind ++ e.content.render

/-- The text of an element. -/
def render (e : StreamTag) : List Char :=
  e.opening ++ (" Name=".toList ++ '"' :: (e.stream.name.toList ++ '"' :: e.rest))

/-- The bytes that an element adds to a stream. -/
def piece? (stream : OutputStream) (e : StreamTag) : Option Bytes :=
  if e.stream = stream then
    match e.content with
    | .data _ bytes _ => some bytes
    | .closed => none
  else none

end StreamTag

/-! ### Characters of a response -/

theorem Blanks.not_mem (b : Blanks) {c : Char} (hc : isBlank c = false) : c ∉ b.text := by
  intro h
  have hblank := b.all_blank c h
  rw [hc] at hblank
  cases hblank

theorem Blanks.not_mem_append (b : Blanks) {c : Char} {s : List Char} (hc : isBlank c = false)
    (hs : c ∉ s) : c ∉ b.text ++ s := by
  rw [List.mem_append, not_or]
  exact ⟨b.not_mem hc, hs⟩

theorem PlainValue.not_mem (v : PlainValue) {c : Char} (hc : c = '"' ∨ c = '<' ∨ c = '>') :
    c ∉ v.text := by
  intro h
  obtain ⟨h₁, h₂, h₃⟩ := v.plain c h
  rcases hc with rfl | rfl | rfl
  · exact h₁ rfl
  · exact h₂ rfl
  · exact h₃ rfl

theorem not_mem_doneMark {c : Char} (hc : c = '"' ∨ c = '<' ∨ c = '>') : c ∉ doneMark := by
  rcases hc with rfl | rfl | rfl <;> decide

/-- A piece with a character that the text does not have is not in it. -/
theorem not_isInfix {pat s : List Char} {c : Char} (hc : c ∈ pat) (hs : c ∉ s) : ¬ pat <:+: s :=
  fun h => hs (h.subset hc)

/-- The text of an element of a stream is one without these characters. -/
theorem not_mem_data (before after : Blanks) (bytes : Bytes) {c : Char}
    (hc : isBlank c = false) (hsymbol : ∀ n < 64, Base64.symbol n ≠ c) (hpad : c ≠ '=') :
    c ∉ dataText before bytes after := by
  refine before.not_mem_append hc ?_
  rw [List.mem_append, not_or]
  exact ⟨Base64.not_mem_encodeChars hsymbol hpad bytes, after.not_mem hc⟩

/-! ### Searching for a stream -/

theorem quote_not_mem_name (stream : OutputStream) : '"' ∉ stream.name.toList := by
  cases stream <;> decide

theorem quote_mem_mark (stream : OutputStream) : '"' ∈ stream.mark :=
  List.mem_append_right _ List.mem_cons_self

/-- An attribute is quiet for a stream, unless it names the stream. -/
theorem quiet_mark_attribute {stream : OutputStream} {before value rest : List Char}
    (hbefore : '"' ∉ before) (hvalue : '"' ∉ value)
    (h : ¬ "Name=".toList <:+ before ∨
      clash (stream.name.toList ++ ['"']) (value ++ '"' :: rest))
    (hrest : clash (stream.name.toList ++ ['"']) rest) (hquiet : quiet stream.mark rest) :
    quiet stream.mark (before ++ '"' :: (value ++ '"' :: rest)) := by
  have hname : '"' ∉ "Name=".toList := by decide
  exact quiet_between hname hbefore h (quiet_between hname hvalue (.inr hrest) hquiet)

/-- What stands behind a quote can be neither the name of the stream nor a place where its mark
begins. -/
structure Calm (stream : OutputStream) (rest : List Char) : Prop where
  clash : clash (stream.name.toList ++ ['"']) rest
  quiet : quiet stream.mark rest

theorem calm_of_head {stream : OutputStream} {c : Char} {s : List Char} (hc : c ≠ 's')
    (h : quiet stream.mark (c :: s)) : Calm stream (c :: s) where
  clash := by
    obtain ⟨name, hname⟩ : ∃ name, stream.name.toList ++ ['"'] = 's' :: name := by
      cases stream <;> exact ⟨_, rfl⟩
    rw [hname, Text.clash, Bool.or_eq_true, bne_iff_ne]
    exact .inl (Ne.symm hc)
  quiet := h

theorem OtherAttribute.blank_ne (a : OtherAttribute) {c : Char} (hc : isBlank c = false) :
    a.blank ≠ c := by
  rintro rfl
  rw [a.isBlank_blank] at hc
  cases hc

theorem OtherAttribute.not_mem {a : OtherAttribute} {c : Char} (hblank : isBlank c = false)
    (hc : c = '"' ∨ c = '<' ∨ c = '>' ∨ c = '/') : c ∉ a.blank :: a.label := by
  rw [List.mem_cons, not_or]
  constructor
  · exact (a.blank_ne hblank).symm
  · intro h
    obtain ⟨h₁, h₂, h₃, h₄⟩ := a.plain c h
    rcases hc with rfl | rfl | rfl | rfl
    · exact h₁ rfl
    · exact h₂ rfl
    · exact h₃ rfl
    · exact h₄ rfl

/-- An attribute is not taken for one that names a stream. -/
theorem OtherAttribute.calm_render_append (a : OtherAttribute) {stream : OutputStream}
    {rest : List Char} (h : Calm stream rest) : Calm stream (a.render ++ rest) := by
  have hlabel : ¬ "Name=".toList <:+ a.blank :: a.label ∨
      Text.clash (stream.name.toList ++ ['"']) (a.value.text ++ '"' :: rest) := by
    rcases a.names_none with hname | hvalue
    · left
      intro hsuffix
      rcases List.suffix_cons_iff.1 hsuffix with heq | hsuffix
      · have hblank : isBlank 'N' = false := rfl
        exact a.blank_ne hblank (List.cons.inj heq).1.symm
      · exact hname hsuffix
    · right
      exact clash_of_ne (quote_not_mem_name stream) (a.value.not_mem (.inl rfl))
        (Ne.symm (hvalue stream)) [] rest
  have hquiet := quiet_mark_attribute (a.not_mem rfl (.inl rfl)) (a.value.not_mem (.inl rfl))
    hlabel h.clash h.quiet
  have hblank : a.blank ≠ 's' := a.blank_ne rfl
  have hrender : a.render ++ rest =
      a.blank :: (a.label ++ '"' :: (a.value.text ++ '"' :: rest)) := by
    simp only [render, List.append_assoc, List.cons_append, List.nil_append]
  rw [hrender]
  exact calm_of_head hblank hquiet

theorem calm_attributesText_append {stream : OutputStream} {rest : List Char}
    (h : Calm stream rest) (as : List OtherAttribute) :
    Calm stream (attributesText as ++ rest) := by
  induction as with
  | nil => exact h
  | cons a as ih =>
    rw [attributesText, List.flatMap_cons, List.append_assoc]
    exact a.calm_render_append ih

theorem calm_content (stream : OutputStream) (content : TagContent) :
    Calm stream content.render := by
  cases content with
  | data before bytes after =>
    have hs : '"' ∉ '>' :: dataText before bytes after := by
      rw [List.mem_cons, not_or]
      exact ⟨by decide, not_mem_data before after bytes rfl (by decide) (by decide)⟩
    have hclose : quiet stream.mark "/rsp:Stream>".toList := by cases stream <;> decide
    have hlt : '<' ∉ stream.mark := by cases stream <;> decide
    have hquiet : quiet stream.mark (TagContent.data before bytes after).render :=
      quiet_append_cons hlt (not_isInfix (quote_mem_mark stream) hs) hclose
    exact calm_of_head (by decide) hquiet
  | closed =>
    have hclose : quiet stream.mark "/>".toList := by cases stream <;> decide
    exact calm_of_head (by decide) hclose

/-! ### Reading a stream -/

theorem mark_eq (stream : OutputStream) :
    ("Name=\"" ++ stream.name ++ "\"").toList = stream.mark := by
  rw [String.toList_append, String.toList_append, List.append_assoc]
  rfl

theorem pieceText_data (before after : Blanks) (bytes : Bytes) :
    Response.pieceText (dataText before bytes after) = Utf8.decodeLossyFrom 0 bytes := by
  have hsymbols : ∀ c ∈ Base64.encodeChars bytes, ¬ isBlank c := by
    intro c hc
    rw [Base64.isBlank_of_mem_encodeChars hc]
    exact Bool.false_ne_true
  rw [Response.pieceText, dataText,
    trimChars_append_append before.all_blank hsymbols after.all_blank, Base64.decode?_encodeChars]

/-- Behind the mark come the other attributes, and then the piece if the tag is not one of an
element without content. -/
theorem nextPiece?_eq {stream : OutputStream} {s before attributes content : List Char}
    (hcut : cut stream.mark s = some (before, attributes ++ '>' :: content))
    (hgt : '>' ∉ attributes) :
    Response.nextPiece? stream.name s =
      if Response.isSelfClosing attributes then some ([], content)
      else (cut "</rsp:Stream>".toList content).map fun r => (Response.pieceText r.1, r.2) := by
  simp only [Response.nextPiece?, mark_eq, hcut, Option.bind_eq_bind, Option.bind_some,
    splitOnce_append hgt]
  split
  · rfl
  · cases cut "</rsp:Stream>".toList content <;> rfl

theorem isSelfClosing_append (s : List Char) (c : Char) :
    Response.isSelfClosing (s ++ [c]) = (c == '/') := by
  rw [Response.isSelfClosing, List.getLast?_concat]
  rfl

theorem streamText_of_none {name : String} {s : List Char}
    (h : Response.nextPiece? name s = none) : Response.streamText name s = [] := by
  rw [Response.streamText]
  split
  · rfl
  · next heq =>
    rw [h] at heq
    cases heq

theorem streamText_of_some {name : String} {s text rest : List Char}
    (h : Response.nextPiece? name s = some (text, rest)) :
    Response.streamText name s = text ++ Response.streamText name rest := by
  rw [Response.streamText]
  split
  · next heq =>
    rw [h] at heq
    cases heq
  · next heq =>
    rw [h] at heq
    cases heq
    rfl

/-- Quiet text adds nothing to a stream. -/
theorem streamText_append {stream : OutputStream} {s : List Char} (h : quiet stream.mark s)
    (t : List Char) :
    Response.streamText stream.name (s ++ t) = Response.streamText stream.name t := by
  have hnext : Response.nextPiece? stream.name (s ++ t) = Response.nextPiece? stream.name t := by
    simp only [Response.nextPiece?, mark_eq, cut_append h]
    cases cut stream.mark t <;> rfl
  cases ht : Response.nextPiece? stream.name t with
  | none => rw [streamText_of_none ht, streamText_of_none (hnext.trans ht)]
  | some r => rw [streamText_of_some ht, streamText_of_some (hnext.trans ht)]

theorem streamText_quiet {stream : OutputStream} {s : List Char} (h : quiet stream.mark s) :
    Response.streamText stream.name s = [] := by
  refine streamText_of_none ?_
  rw [Response.nextPiece?, mark_eq, cut_eq_none (List.ne_nil_of_mem (quote_mem_mark stream)) h]
  rfl

/-! ### Elements in a row -/

theorem not_mem_attributesText {c : Char} (hc : c = '<' ∨ c = '>') (as : List OtherAttribute) :
    c ∉ attributesText as := by
  rw [attributesText, List.mem_flatMap]
  rintro ⟨a, -, h⟩
  have hblank : isBlank c = false := by rcases hc with rfl | rfl <;> rfl
  have hlabel : c ∉ a.blank :: a.label := a.not_mem hblank (by
    rcases hc with rfl | rfl
    · exact .inr (.inl rfl)
    · exact .inr (.inr (.inl rfl)))
  have hquote : c ≠ '"' := by rcases hc with rfl | rfl <;> decide
  unfold OtherAttribute.render at h
  rcases List.mem_append.1 h with h | h
  · exact hlabel h
  · rw [List.mem_cons, List.mem_append, List.mem_singleton] at h
    rcases h with h | h | h
    · exact hquote h
    · exact a.value.not_mem (.inr hc) h
    · exact hquote h

/-- The quote that ends the last attribute is behind all of them. -/
theorem not_isSelfClosing_attributesText (as : List OtherAttribute) :
    ¬ Response.isSelfClosing (attributesText as) := by
  rcases List.eq_nil_or_concat as with rfl | ⟨as, a, rfl⟩
  · exact Bool.false_ne_true
  · have hlast : attributesText (as.concat a) =
        (attributesText as ++ ((a.blank :: a.label) ++ '"' :: a.value.text)) ++ ['"'] := by
      rw [List.concat_eq_append, attributesText, List.flatMap_append, List.flatMap_singleton]
      simp only [attributesText, OtherAttribute.render, List.append_assoc, List.cons_append]
    rw [hlast, isSelfClosing_append]
    decide

namespace StreamTag

variable (e : StreamTag)

theorem calm_rest (stream : OutputStream) : Calm stream e.rest :=
  calm_attributesText_append (calm_content stream e.content) e.behind

theorem quiet_opening_append {stream : OutputStream} {rest : List Char} (h : Calm stream rest) :
    quiet stream.mark (e.opening ++ rest) := by
  have hgap : quiet stream.mark (e.gap.text ++ "<rsp:Stream".toList) :=
    quiet_of_not_mem (e.gap.not_mem_append rfl (by decide))
  rw [opening, List.append_assoc]
  exact quiet_append hgap (calm_attributesText_append h e.before).quiet

/-- An element is quiet for the other stream. -/
theorem quiet_mark_render {stream : OutputStream} (h : e.stream ≠ stream) :
    quiet stream.mark e.render := by
  have hname : stream.name.toList ≠ e.stream.name.toList := by
    intro hname
    cases hs : e.stream <;> cases stream <;> rw [hs] at h hname
    · exact h rfl
    · exact absurd hname (by decide)
    · exact absurd hname (by decide)
    · exact h rfl
  have hclash := clash_of_ne (quote_not_mem_name stream) (quote_not_mem_name e.stream) hname [] e.rest
  have hrest := e.calm_rest stream
  have hbefore : '"' ∉ " Name=".toList := by decide
  have hquiet := quiet_mark_attribute hbefore (quote_not_mem_name e.stream) (.inr hclash)
    hrest.clash hrest.quiet
  exact e.quiet_opening_append (calm_of_head (by decide) hquiet)

/-- An element is found by its mark, and the rest of it stands behind. -/
theorem cut_mark_render (t : List Char) :
    cut e.stream.mark (e.render ++ t) = some (e.opening ++ [' '], e.rest ++ t) := by
  have hspace : Calm e.stream [' '] := by
    refine calm_of_head (by decide) ?_
    cases e.stream <;> decide
  have hopen : " Name=".toList = [' '] ++ "Name=".toList := rfl
  have hrender : e.render ++ t =
      (e.opening ++ [' ']) ++ (e.stream.mark ++ (e.rest ++ t)) := by
    unfold render OutputStream.mark
    simp only [hopen, List.append_assoc, List.cons_append, List.nil_append]
  rw [hrender, cut_append_self (e.quiet_opening_append hspace)]

/-- What an element adds to its stream. -/
def output : List Char :=
  match e.content with
  | .data _ bytes _ => Utf8.decodeLossyFrom 0 bytes
  | .closed => []

/-- The next piece of a stream is that of the next element of the stream. -/
theorem nextPiece?_render (t : List Char) :
    Response.nextPiece? e.stream.name (e.render ++ t) = some (e.output, t) := by
  have hcut := e.cut_mark_render t
  have hgt : '>' ∉ attributesText e.behind := not_mem_attributesText (.inr rfl) e.behind
  unfold rest output at *
  cases hcontent : e.content with
  | data before bytes after =>
    have hdata : quiet "</rsp:Stream>".toList (dataText before bytes after) :=
      quiet_of_not_mem (not_mem_data before after bytes rfl (by decide) (by decide))
    have hbehind : attributesText e.behind ++ (TagContent.data before bytes after).render ++ t =
        attributesText e.behind ++
          '>' :: (dataText before bytes after ++ ("</rsp:Stream>".toList ++ t)) := by
      simp only [TagContent.render, List.append_assoc, List.cons_append]
    rw [hcontent, hbehind] at hcut
    rw [nextPiece?_eq hcut hgt, if_neg (not_isSelfClosing_attributesText e.behind),
      cut_append_self hdata, Option.map_some, pieceText_data]
  | closed =>
    have hbehind : attributesText e.behind ++ TagContent.closed.render ++ t =
        (attributesText e.behind ++ ['/']) ++ '>' :: t := by
      rw [List.append_assoc, List.append_assoc]
      rfl
    have hgt' : '>' ∉ attributesText e.behind ++ ['/'] := by
      rw [List.mem_append, not_or]
      exact ⟨hgt, by decide⟩
    rw [hcontent, hbehind] at hcut
    rw [nextPiece?_eq hcut hgt', isSelfClosing_append]
    rfl

end StreamTag

/-- The text of some elements. -/
def tagsText (es : List StreamTag) : List Char := es.flatMap StreamTag.render

/-- The elements of a stream add their pieces one after the other, and those of the other stream add
nothing. -/
theorem streamText_tags (stream : OutputStream) (es : List StreamTag) (t : List Char) :
    Response.streamText stream.name (tagsText es ++ t) =
      (es.filterMap (StreamTag.piece? stream)).flatMap (Utf8.decodeLossyFrom 0) ++
        Response.streamText stream.name t := by
  unfold tagsText
  -- The search goes on behind each element, so what comes first is the head of the list.
  induction es with
  | nil => rfl
  | cons e es ih =>
    rw [List.flatMap_cons, List.append_assoc]
    by_cases hs : e.stream = stream
    · subst hs
      rw [streamText_of_some (e.nextPiece?_render _), ih, List.filterMap_cons]
      cases hcontent : e.content with
      | data before bytes after => simp [StreamTag.piece?, StreamTag.output, hcontent]
      | closed => simp [StreamTag.piece?, StreamTag.output, hcontent]
    · rw [streamText_append (e.quiet_mark_render hs), ih, List.filterMap_cons]
      simp [StreamTag.piece?, hs]

/-! ### What does not occur in an element -/

theorem not_done_of_not_mem {s : List Char} (h : '.' ∉ s) : ¬ doneMark <:+: s :=
  not_isInfix (by decide : '.' ∈ doneMark) h

theorem quiet_done_of_not_mem {s : List Char} (h : 'h' ∉ s) : quiet doneMark s :=
  quiet_of_not_mem h

theorem quiet_done_attribute {before value rest : List Char} (hbefore : '.' ∉ before)
    (hvalue : ¬ doneMark <:+: value)
    (hrest : quiet doneMark rest) :
    quiet doneMark (before ++ '"' :: (value ++ '"' :: rest)) := by
  have hquote : '"' ∉ doneMark := not_mem_doneMark (.inl rfl)
  exact quiet_append_cons hquote (not_done_of_not_mem hbefore)
    (quiet_append_cons hquote hvalue hrest)

theorem quiet_done_attributesText_append {rest : List Char} (h : quiet doneMark rest)
    (as : List OtherAttribute) : quiet doneMark (attributesText as ++ rest) := by
  have hquote : '"' ∉ doneMark := not_mem_doneMark (.inl rfl)
  induction as with
  | nil => exact h
  | cons a as ih =>
    have hlabel : ¬ doneMark <:+: a.blank :: a.label :=
      not_isInfix (by decide : '/' ∈ doneMark) (a.not_mem rfl (.inr (.inr (.inr rfl))))
    have hrender : attributesText (a :: as) ++ rest = (a.blank :: a.label) ++
        '"' :: (a.value.text ++ '"' :: (attributesText as ++ rest)) := by
      simp only [attributesText, List.flatMap_cons, OtherAttribute.render, List.append_assoc,
        List.cons_append, List.nil_append]
    rw [hrender]
    exact quiet_append_cons hquote hlabel (quiet_append_cons hquote a.value.not_done ih)

theorem quiet_done_content (content : TagContent) : quiet doneMark content.render := by
  cases content with
  | data before bytes after =>
    have hs : '.' ∉ '>' :: dataText before bytes after := by
      rw [List.mem_cons, not_or]
      exact ⟨by decide, not_mem_data before after bytes rfl (by decide) (by decide)⟩
    have hlt : '<' ∉ doneMark := not_mem_doneMark (.inr (.inl rfl))
    have hclose : quiet doneMark "/rsp:Stream>".toList := quiet_done_of_not_mem (by decide)
    exact quiet_append_cons hlt (not_done_of_not_mem hs) hclose
  | closed => exact quiet_done_of_not_mem (by decide)

theorem StreamTag.quiet_done_render (e : StreamTag) : quiet doneMark e.render := by
  have hgap : quiet doneMark (e.gap.text ++ "<rsp:Stream".toList) :=
    quiet_done_of_not_mem (e.gap.not_mem_append rfl (by decide))
  have hname : ¬ doneMark <:+: e.stream.name.toList := by
    refine not_done_of_not_mem ?_
    cases e.stream <;> decide
  have hrest : quiet doneMark e.rest :=
    quiet_done_attributesText_append (quiet_done_content e.content) e.behind
  rw [render, opening, List.append_assoc]
  exact quiet_append hgap (quiet_done_attributesText_append
    (quiet_done_attribute (by decide) hname hrest) e.before)

theorem quiet_exitTag_of_not_mem {s : List Char} (h : '<' ∉ s) : quiet exitTag s :=
  quiet_of_not_mem h

theorem quiet_exitTag_content (content : TagContent) : quiet exitTag content.render := by
  cases content with
  | data before bytes after =>
    have hs : '<' ∉ '>' :: dataText before bytes after := by
      rw [List.mem_cons, not_or]
      exact ⟨by decide, not_mem_data before after bytes rfl (by decide) (by decide)⟩
    have hclose : quiet exitTag "</rsp:Stream>".toList := by decide
    exact quiet_append (quiet_exitTag_of_not_mem hs) hclose
  | closed => decide

theorem StreamTag.quiet_exitTag_render (e : StreamTag) : quiet exitTag e.render := by
  have hattributes (as : List OtherAttribute) : quiet exitTag (attributesText as) :=
    quiet_exitTag_of_not_mem (not_mem_attributesText (.inl rfl) as)
  have hname : '<' ∉ " Name=".toList ++ '"' :: (e.stream.name.toList ++ ['"']) := by
    cases e.stream <;> decide
  have hrender : e.render = (e.gap.text ++ "<rsp:Stream".toList) ++ (attributesText e.before ++
      ((" Name=".toList ++ '"' :: (e.stream.name.toList ++ ['"'])) ++ e.rest)) := by
    simp only [render, opening, List.append_assoc, List.cons_append, List.nil_append]
  rw [hrender]
  refine quiet_append (quiet_append (quiet_exitTag_of_not_mem (e.gap.not_mem rfl)) (by decide)) ?_
  refine quiet_append (hattributes e.before) (quiet_append (quiet_exitTag_of_not_mem hname) ?_)
  exact quiet_append (hattributes e.behind) (quiet_exitTag_content e.content)

theorem quiet_done_tagsText (es : List StreamTag) : quiet doneMark (tagsText es) :=
  quiet_flatMap fun e _ => e.quiet_done_render

theorem quiet_exitTag_tagsText (es : List StreamTag) : quiet exitTag (tagsText es) :=
  quiet_flatMap fun e _ => e.quiet_exitTag_render

end RemoteHost.Winrm
