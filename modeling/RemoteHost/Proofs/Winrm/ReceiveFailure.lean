/-
RemoteHost/Proofs/Winrm/ReceiveFailure.lean

What a failed request for output does to a command.

A command that was started is followed until it ends (`RemoteShell.follow`).  When a request for its
output fails, the output is asked for once more if the failure shows a certain number, and the
command ends with the failure if not (`play_follow_failed`).  The number is that of the fault for no
output in time, but it is looked for in all that the failure quotes.  So a fault with words is
taken for what it is, as long as the words are without the number; a fault without words is not,
and anything else that shows the number is taken for such a fault
(`asks_again_iff_quoted`).
-/
import RemoteHost.Proofs.Text.Utf8
import RemoteHost.Proofs.Winrm.FaultReply
import RemoteHost.Proofs.Winrm.OutputPieces

namespace RemoteHost.Winrm

open Dialogue RemoteShell Text

/-! ### Following a command -/

namespace Service

/-- Following a command over HTTP. -/
def follow (s : Service) (polls : Nat) (shell id : String) (got : ShellOutput) :
    HttpTalk (Outcome ShellOutput) :=
  (RemoteShell.follow polls shell id got).through s.exchange

variable {ω : Type} {answer : (c : HttpCall) → ω → c.Reply × ω} {w : ω} {s : Service}
  {shell id : String} {polls : Nat} {got : ShellOutput} {e : Failure}

/-- A failed request for output: the command is followed further, or ends. -/
theorem play_follow_failed
    (h : ((s.request (.receiveOutput shell id)).play answer w).result? = some (.error e)) :
    let asked := (s.request (.receiveOutput shell id)).play answer w
    let again := (s.follow polls shell id got).play answer asked.state
    (s.follow (polls + 1) shell id got).play answer w =
      if isIdle e then { again with exchanges := asked.exchanges ++ again.exchanges }
      else ⟨some (.error (commandFailure e.message)), asked.exchanges, asked.state⟩ := by
  intro asked again
  show play answer (s.request (.receiveOutput shell id) >>= fun reply => _) w = _
  rw [play_bind, h]
  cases hidle : isIdle e with
  | true =>
    have hnext : (if isIdle e then receive shell id polls got
        else pure (.error e) : SoapTalk (Outcome ShellOutput)) = receive shell id polls got :=
      if_pos hidle
    simp only [andThen, hnext]
    rfl
  | false =>
    have hnext : (if isIdle e then receive shell id polls got
        else pure (.error e) : SoapTalk (Outcome ShellOutput)) = pure (.error e) := by
      rw [hidle]
      rfl
    simp only [andThen, hnext]
    show (⟨some _, asked.exchanges ++ [], asked.state⟩ : Played HttpCall HttpCall.Reply ω _) = _
    rw [List.append_nil]
    rfl

end Service

/-! ### Faults -/

/-- The trouble is a refusal whose body is a fault, with a status of three digits that is not
that of a failed login. -/
def Trouble.Reports (f : FaultReply) : Trouble → Prop
  | refused response => response.status < 1000 ∧ response.status ≠ 401 ∧
      ∃ bytes, response.body = .ok bytes ∧ Utf8.decodeLossy bytes = f.text
  | _ => False

theorem Trouble.Reports.any_quotes {f : FaultReply} {x : Trouble} (h : x.Reports f) (s : Service) :
    (x.quotes s).any showsTimedOut = (bodyQuotes f.text).any showsTimedOut := by
  cases x with
  | refused response =>
    obtain ⟨hstatus, hne, bytes, hbody, htext⟩ := h
    have hquotes : refusalQuotes s response = toString response.status :: bodyQuotes f.text := by
      unfold refusalQuotes
      simp only [hbody, if_neg hne, htext]
    rw [Trouble.quotes, hquotes, List.any_cons, showsTimedOut_status hstatus, Bool.false_or]
  | unsendable => exact h.elim
  | unanswered causes => exact h.elim
  | unchallenged response => exact h.elim

namespace Service

/-- **The output is asked for again where the number is quoted.**  A request for output fails,
whatever the endpoint and the login are and whatever comes back.  If one of the quotes in the
words for the trouble shows the number of the fault for no output in time, the command is
followed further; if none does, it ends with the failure.  Where the trouble is a fault with
words that do not show the number, the command is so followed further if and only if the code of
the fault is the number.  The code of a fault without words does not count, unless all of the
reply is quoted. -/
theorem asks_again_iff_quoted {ω : Type} (answer : (c : HttpCall) → ω → c.Reply × ω) (w : ω)
    (s : Service) (shell id : String) (polls : Nat) (got : ShellOutput) (e : Failure)
    (h : ((s.request (.receiveOutput shell id)).play answer w).result? = some (.error e)) :
    let asked := (s.request (.receiveOutput shell id)).play answer w
    let again := (s.follow polls shell id got).play answer asked.state
    let trouble := Trouble.after asked.exchanges
    let isQuoted := (trouble.quotes s).any showsTimedOut
    (s.follow (polls + 1) shell id got).play answer w =
        (if isQuoted then { again with exchanges := asked.exchanges ++ again.exchanges }
        else ⟨some (.error (commandFailure e.message)), asked.exchanges, asked.state⟩) ∧
      ∀ f : FaultReply, trouble.Reports f →
        (∀ words, f.words = some words → showsTimedOut (String.ofList words) = false →
          (isQuoted ↔ f.code = timedOutCode)) ∧
        (f.words = none → (isQuoted ↔ showsTimedOut
          (((Response.soapFault? f.text.toList).map String.ofList).getD f.text))) := by
  intro asked again trouble isQuoted
  have hidle : isIdle e = isQuoted := isIdle_of_runs_request (runs_of_play h)
  refine ⟨?_, ?_⟩
  · rw [← hidle]
    exact play_follow_failed h
  · intro f hf
    have hquoted : isQuoted = (bodyQuotes f.text).any showsTimedOut := hf.any_quotes s
    rw [hquoted]
    refine ⟨?_, ?_⟩
    · intro words hwords hshown
      rw [FaultReply.bodyQuotes_of_words hwords, List.any_cons, List.any_cons, List.any_nil, hshown,
        Bool.false_or, Bool.or_false, f.showsTimedOut_digits]
    · intro hwords
      rw [FaultReply.bodyQuotes_of_no_words hwords, List.any_cons, List.any_nil, Bool.or_false]

/-! ### Replies one after the other -/

/-- A server that gives some replies one after the other, to a client without chance and
clock. -/
def replay : (c : HttpCall) → List (Except (List String) Http.Response) →
    c.Reply × List (Except (List String) Http.Response)
  | .post _, reply :: replies => (reply, replies)
  | .post _, [] => (.error ["no reply is left"], [])
  | .nonce, replies => (List.replicate 8 0, replies)
  | .messageId, replies => (List.replicate 16 0, replies)
  | .time, replies => ((0, 0), replies)
  | .localFile _, replies => (.error "no file", replies)
  | .report _, replies => ((), replies)

/-- A service with a plain endpoint and a plain login. -/
def plain : Service where
  endpoint := { scheme := .http, host := .domain "win01", port := some 5985, path := "/wsman" }
  authentication := .basic "admin" "pw"
  operationTimeout := "PT60S"

/-- A response with some text. -/
def textResponse (status : Nat) (text : String) : Except (List String) Http.Response :=
  .ok { status, body := .ok (Utf8.encode text) }

theorem quiet_detail : ∀ mark ∈ [codeMark, wordsMark], quiet mark "<s:Detail>".toList := by
  decide

theorem quiet_late : ∀ w ∈ some "late".toList, quiet wordsEnd w := by
  rintro _ ⟨⟩
  decide

/-- A fault for no output in time, with words. -/
def timedOutFault : FaultReply where
  lead := "<s:Detail>".toList
  before := []
  code := timedOutCode
  behind := []
  gap := noBlanks
  words := some "late".toList
  trail := "</f:WSManFault></s:Detail>".toList
  quiet_lead := quiet_detail
  quiet_words := quiet_late
  quiet_trail := nofun

/-- A fault for no output in time is followed by one more request for output. -/
theorem asks_again_iff_quoted_timed_out :
    let replies := [textResponse 500 timedOutFault.text]
    let asked := (plain.request (.receiveOutput "S" "C")).play replay replies
    let again := (plain.follow 1 "S" "C" {}).play replay asked.state
    (∃ e, asked.result? = some (.error e)) ∧
      (plain.follow 2 "S" "C" {}).play replay replies =
        { again with exchanges := asked.exchanges ++ again.exchanges } := by
  intro replies asked again
  have h : asked.result? = some (.error _) := rfl
  obtain ⟨hplay, hfaults⟩ :=
    asks_again_iff_quoted replay replies plain "S" "C" 1 {} _ h
  have hreports : (Trouble.after asked.exchanges).Reports timedOutFault :=
    ⟨by decide, by decide, _, rfl, Utf8.decodeLossy_encode _⟩
  have hquoted := ((hfaults timedOutFault hreports).1 _ rfl (by decide)).2 rfl
  refine ⟨⟨_, h⟩, ?_⟩
  rw [hplay, if_pos hquoted]

/-! ### Where the number misleads -/

theorem quiet_text :
    ∀ mark ∈ [codeMark, wordsMark], quiet mark "<s:Text>late</s:Text>".toList := by
  decide

/-- The same fault without words, behind those of the protocol. -/
def wordlessFault : FaultReply where
  lead := "<s:Text>late</s:Text>".toList
  before := []
  code := timedOutCode
  behind := []
  gap := noBlanks
  words := none
  trail := []
  quiet_lead := quiet_text
  quiet_words := nofun
  quiet_trail _ := rfl

/-- The plain service at a host with the number in its name. -/
def numbered : Service where
  endpoint := { plain.endpoint with host := .domain "win2150858793" }
  authentication := plain.authentication
  operationTimeout := plain.operationTimeout

/-- A command gets this reply to its first request for output, and after that the end of the
command is reported: whether the command ends well. -/
def endsWell? (s : Service) (reply : Except (List String) Http.Response) : Option Bool :=
  ((s.run 2 "S" "ver" []).play replay
    [textResponse 200 "<rsp:CommandId>C</rsp:CommandId>", reply,
      textResponse 200 Protocol.commandDone, textResponse 200 ""]).result?.map Except.isOk

/-- The number in the words of a refusal that is no fault, or in the name of a host that rejects
the login, is taken for a fault for no output in time; such a fault without words is not. -/
theorem number_misleads :
    (∀ f : FaultReply, f.text ≠ "request 2150858793 denied" ∧ f.text ≠ "") ∧
      endsWell? plain (textResponse 500 "request 2150858793 denied") = some true ∧
      endsWell? numbered (textResponse 401 "") = some true ∧
      wordlessFault.code = timedOutCode ∧
      endsWell? plain (textResponse 500 wordlessFault.text) = some false := by
  have hlt : ∀ f : FaultReply, '<' ∈ f.text.toList := by
    intro f
    rw [FaultReply.text, String.toList_ofList, FaultReply.opening]
    refine List.mem_append_left _ (List.mem_append_right _ (List.mem_append_left _ ?_))
    decide
  refine ⟨?_, by decide +kernel, by decide +kernel, rfl, by decide +kernel⟩
  intro f
  refine ⟨?_, ?_⟩
  · intro h
    have hmem := hlt f
    rw [h] at hmem
    exact absurd hmem (by decide)
  · intro h
    have hmem := hlt f
    rw [h] at hmem
    exact absurd hmem (by decide)

end Service

end RemoteHost.Winrm
