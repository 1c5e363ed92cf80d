/-
RemoteHost/Proofs/Winrm/FaultReply.lean

Replies that report a fault of the service, and what is quoted of them.

A `FaultReply` is an element for the fault, with its code among its attributes and its words, if
it has any, in an element of their own, and whatever stands around it.  Its text is only searched
for the first attribute that ends with `Code` and for the first element with words; in such a
reply these are the code and the words of the fault, so they are what is quoted
(`bodyQuotes_of_words`).  Without words the code is quoted only together with all the rest of the
reply (`bodyQuotes_of_no_words`).
-/
import RemoteHost.Proofs.Winrm.FailureWords
import RemoteHost.Proofs.Winrm.ReceiveResponse

namespace RemoteHost.Winrm

open Text

/-! ### What stands in a reply -/

/-- An attribute that is not taken for a code. -/
structure PlainAttribute where
  name : List Char
  value : List Char
  plain : ∀ c ∈ name ++ value, c ≠ '"' ∧ c ≠ '<'
  name_not_code : ¬ "Code".toList <:+ name
  value_not_code : ¬ "Code=".toList <:+ value

/-- The text of an attribute, with the blank in front of it. -/
def PlainAttribute.render (a : PlainAttribute) : List Char :=
  (' ' :: (a.name ++ ['='])) ++ '"' :: (a.value ++ ['"'])

/-- What a reply is searched for to find the code. -/
def codeMark : List Char := "Code=".toList ++ ['"']

/-- What a reply is searched for to find the words. -/
def wordsMark : List Char := "<f:Message>".toList

/-- The end of the words. -/
def wordsEnd : List Char := "</f:Message>".toList

/-- A reply that reports a fault of the service. -/
structure FaultReply where
  lead : List Char
  before : List PlainAttribute
  code : UInt32
  behind : List PlainAttribute
  gap : Blanks
  words : Option (List Char)
  trail : List Char
  quiet_lead : ∀ mark ∈ [codeMark, wordsMark], quiet mark lead
  quiet_words : ∀ w ∈ words, quiet wordsEnd w
  quiet_trail : words = none → quiet wordsMark trail

/-- The code of the fault for no output in time. -/
def timedOutCode : UInt32 := 2150858793

namespace FaultReply

variable (f : FaultReply)

/-- The digits of the code. -/
def digits : List Char := Nat.toDigits 10 f.code.toNat

/-- The reply up to the code. -/
def opening : List Char :=
  f.lead ++ ("<f:WSManFault".toList ++ (f.before.flatMap PlainAttribute.render ++ [' ']))

/-- The reply from the code up to the words. -/
def middle : List Char :=
  f.digits ++ '"' :: (f.behind.flatMap PlainAttribute.render ++ '>' :: f.gap.text)

/-- The words in their element. -/
def wordsText : List Char :=
  match f.words with
  | some w => wordsMark ++ (w ++ wordsEnd)
  | none => []

/-- The text of a reply. -/
def text : String :=
  String.ofList (f.opening ++ (codeMark ++ (f.middle ++ (f.wordsText ++ f.trail))))

end FaultReply

/-! ### Searching for the code and the words -/

namespace PlainAttribute

variable (a : PlainAttribute)

theorem quote_not_mem_value : '"' ∉ a.value := fun h =>
  (a.plain '"' (List.mem_append_right a.name h)).1 rfl

theorem not_mem_name {c : Char} (hc : c = '"' ∨ c = '<') : c ∉ a.name := by
  intro h
  obtain ⟨hquote, hlt⟩ := a.plain c (List.mem_append_left a.value h)
  rcases hc with rfl | rfl
  · exact hquote rfl
  · exact hlt rfl

theorem not_suffix : ¬ "Code=".toList <:+ ' ' :: (a.name ++ ['=']) := by
  rintro ⟨u, hu⟩
  have hu' : (u ++ "Code".toList) ++ ['='] = (' ' :: a.name) ++ ['='] := by
    rw [List.append_assoc]
    exact hu
  have hname : u ++ "Code".toList = ' ' :: a.name := List.append_cancel_right hu'
  cases u with
  | nil => cases (List.cons.inj hname).1
  | cons d u => exact a.name_not_code ⟨u, (List.cons.inj hname).2⟩

theorem quiet_codeMark : quiet codeMark a.render := by
  have hname : '"' ∉ ' ' :: (a.name ++ ['=']) := by
    simp [a.not_mem_name (.inl rfl)]
  refine quiet_between (by decide) hname (.inl a.not_suffix) ?_
  exact quiet_between (by decide) a.quote_not_mem_value (.inl a.value_not_code) rfl

theorem quiet_wordsMark : quiet wordsMark a.render := by
  have hvalue : '<' ∉ a.value := fun h =>
    (a.plain '<' (List.mem_append_right a.name h)).2 rfl
  have hlt : '<' ∉ a.render := by simp [render, a.not_mem_name, hvalue]
  exact quiet_of_not_mem hlt

end PlainAttribute

namespace FaultReply

variable (f : FaultReply)

theorem digit_of_mem {c : Char} (h : c ∈ f.digits) : c.isDigit :=
  Nat.isDigit_of_mem_toDigits (by decide) (by decide) h

theorem not_mem_digits {c : Char} (hc : c.isDigit = false) : c ∉ f.digits := by
  intro h
  rw [f.digit_of_mem h] at hc
  cases hc

theorem quiet_opening : ∀ mark ∈ [codeMark, wordsMark], quiet mark f.opening := by
  intro mark hmark
  have hmark' : mark = codeMark ∨ mark = wordsMark := by simpa using hmark
  have hattributes : quiet mark (f.before.flatMap PlainAttribute.render) := by
    refine quiet_flatMap fun a _ => ?_
    rcases hmark' with rfl | rfl
    · exact a.quiet_codeMark
    · exact a.quiet_wordsMark
  have htag : quiet mark "<f:WSManFault".toList ∧ quiet mark [' '] := by
    rcases hmark' with rfl | rfl <;> decide
  refine quiet_append (f.quiet_lead mark hmark) ?_
  exact quiet_append htag.1 (quiet_append hattributes htag.2)

theorem quiet_wordsMark_middle : quiet wordsMark (codeMark ++ f.middle) := by
  have hattributes : quiet wordsMark (f.behind.flatMap PlainAttribute.render) :=
    quiet_flatMap fun a _ => a.quiet_wordsMark
  have hgap : quiet wordsMark ('>' :: f.gap.text) := by
    refine quiet_of_not_mem ?_
    rw [List.mem_cons, not_or]
    exact ⟨by decide, f.gap.not_mem rfl⟩
  have hdigits : quiet wordsMark (f.digits ++ ['"']) := by
    refine quiet_of_not_mem ?_
    rw [List.mem_append, not_or]
    exact ⟨f.not_mem_digits rfl, by decide⟩
  rw [middle, List.append_cons]
  exact quiet_append (by decide) (quiet_append hdigits (quiet_append hattributes hgap))

theorem value?_text : Response.value? "Code" "f:Code" f.text.toList = some f.digits := by
  have hquiet : quiet codeMark f.opening := f.quiet_opening codeMark List.mem_cons_self
  have hattribute : Response.attribute? "Code" f.text.toList = some f.digits := by
    show (cut codeMark _).bind _ = _
    rw [text, String.toList_ofList, cut_append_self hquiet, Option.bind_some]
    show (splitOnce '"' _).bind _ = _
    rw [middle, List.append_assoc, List.cons_append, splitOnce_append (f.not_mem_digits rfl)]
    rfl
  rw [Response.value?, hattribute]
  rfl

theorem messageWords?_text : messageWords? f.text.toList = f.words := by
  have hopening : quiet wordsMark f.opening :=
    f.quiet_opening wordsMark (List.mem_cons_of_mem _ List.mem_cons_self)
  have hquiet := quiet_append hopening f.quiet_wordsMark_middle
  have htext : f.text.toList =
      (f.opening ++ (codeMark ++ f.middle)) ++ (f.wordsText ++ f.trail) := by
    rw [text, String.toList_ofList]
    simp only [List.append_assoc]
  show (cut wordsMark _).bind _ = _
  rw [htext]
  cases hwords : f.words with
  | none =>
    rw [wordsText, hwords, List.nil_append,
      cut_eq_none (by decide) (quiet_append hquiet (f.quiet_trail hwords))]
    rfl
  | some w =>
    have hrest : f.wordsText ++ f.trail = wordsMark ++ (w ++ (wordsEnd ++ f.trail)) := by
      simp only [wordsText, hwords, List.append_assoc]
    rw [hrest, cut_append_self hquiet, Option.bind_some]
    show (cut wordsEnd _).bind _ = _
    rw [cut_append_self (f.quiet_words w hwords)]
    rfl

variable {f}

/-- What is quoted of a fault with words is its words and its code. -/
theorem bodyQuotes_of_words {w : List Char} (hwords : f.words = some w) :
    bodyQuotes f.text = [String.ofList w, String.ofList f.digits] := by
  unfold bodyQuotes
  rw [f.messageWords?_text, hwords, f.value?_text]
  rfl

/-- Without words it is the words of a fault of the protocol, or all of the reply. -/
theorem bodyQuotes_of_no_words (hwords : f.words = none) :
    bodyQuotes f.text = [((Response.soapFault? f.text.toList).map String.ofList).getD f.text] := by
  unfold bodyQuotes
  rw [f.messageWords?_text, hwords]
  cases Response.soapFault? f.text.toList <;> rfl

end FaultReply

/-! ### The number as a numeral -/

/-- A numeral shows the number only if it is the number: it has no more digits. -/
theorem showsTimedOut_toDigits {n : Nat} (hn : n < 10000000000) :
    showsTimedOut (String.ofList (Nat.toDigits 10 n)) ↔ n = timedOutCode.toNat := by
  have hnumber : Protocol.receiveTimedOut.toList = Nat.toDigits 10 timedOutCode.toNat := by decide
  rw [showsTimedOut, contains, String.toList_ofList, occurs_iff, hnumber]
  constructor
  · intro h
    have hlength : (Nat.toDigits 10 n).length ≤ (Nat.toDigits 10 timedOutCode.toNat).length :=
      (Nat.length_toDigits_le_iff (by decide) (by decide)).2 hn
    have hvalue := congrArg (natValue 10) (h.eq_of_length_le hlength)
    rw [natValue_toDigits, natValue_toDigits] at hvalue
    exact (Option.some.inj hvalue).symm
  · rintro rfl
    exact List.infix_rfl

theorem FaultReply.showsTimedOut_digits (f : FaultReply) :
    showsTimedOut (String.ofList f.digits) ↔ f.code = timedOutCode := by
  have hlt : f.code.toNat < 4294967296 := f.code.toNat_lt
  rw [digits, showsTimedOut_toDigits (by omega), UInt32.toNat_inj]

theorem showsTimedOut_status {status : Nat} (h : status < 1000) :
    showsTimedOut (toString status) = false := by
  have hne : status ≠ timedOutCode.toNat := by
    have htimedOut : 1000 ≤ timedOutCode.toNat := by decide
    omega
  rw [Nat.toString_eq_ofList_toDigits, ← Bool.not_eq_true, showsTimedOut_toDigits (by omega)]
  exact hne

end RemoteHost.Winrm
