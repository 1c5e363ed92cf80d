/-
RemoteHost/Proofs/Winrm/FailureWords.lean

What the words of a failed exchange are taken from.

Whether a failure only says that there was no output in time is decided by a number that is
looked for in its words.  A failed exchange has one of a few troubles (`Trouble`), and the words
for each of them quote what came from outside: the address, the causes that the network gave, a
header, a status, the body of a reply or a part of it (`Trouble.quotes`).  The number is in the
words if and only if it is in one of the quotes (`isIdle_of_runs_request`): nothing that the
words put around the quotes has a part of it.
-/
import RemoteHost.Proofs.Text.Blank
import RemoteHost.Proofs.Winrm.RequestWords
import RemoteHost.Proofs.Winrm.SendRuns

namespace RemoteHost.Winrm

open Dialogue Text

/-! ### The number in a text -/

/-- The number of the fault that says that there was no output in time is in a text. -/
def showsTimedOut (text : String) : Bool := contains text Protocol.receiveTimedOut

/-- A text between two others that the number does not go over. -/
abbrev Separates (lit : String) : Prop := separates Protocol.receiveTimedOut.toList lit.toList

theorem showsTimedOut_append {lit : String} (h : Separates lit) (a b : String) :
    showsTimedOut (a ++ lit ++ b) = (showsTimedOut a || showsTimedOut b) :=
  contains_append_separator h a b

theorem showsTimedOut_opening {lit : String} (h : Separates lit) (b : String) :
    showsTimedOut (lit ++ b) = showsTimedOut b := by
  have h' := showsTimedOut_append h "" b
  rwa [String.empty_append, show showsTimedOut "" = false from rfl, Bool.false_or] at h'

theorem showsTimedOut_closing {lit : String} (h : Separates lit) (a : String) :
    showsTimedOut (a ++ lit) = showsTimedOut a := by
  have h' := showsTimedOut_append h a ""
  rwa [String.append_empty, show showsTimedOut "" = false from rfl, Bool.or_false] at h'

/-- The number is in the words for a request only where a quote shows it. -/
theorem sought_timedOut : Sought showsTimedOut where
  grows := contains_trans
  between lit hlit a b := by
    have hseparates : ∀ lit ∈ ["://", " failed: ", ": "], Separates lit := by decide
    exact showsTimedOut_append (hseparates lit hlit) a b
  opening lit hlit b := by
    have hseparates : ∀ lit ∈ ["WinRM request to ", "error sending request for url (",
      "builder error for url ("], Separates lit := by decide
    exact showsTimedOut_opening (hseparates lit hlit) b
  closing a := showsTimedOut_closing (by decide) a
  absent := by decide

/-- A text without a digit of the number does not show it. -/
theorem showsTimedOut_of_not_mem {text : String} (h : '2' ∉ text.toList) :
    showsTimedOut text = false := by
  rw [showsTimedOut, contains, ← Bool.not_eq_true, occurs_iff]
  intro hpiece
  exact h (hpiece.subset (by decide))

/-- No phrase for a status has a digit. -/
theorem showsTimedOut_statusText (status : Nat) :
    showsTimedOut (Http.statusText status) = showsTimedOut (toString status) := by
  have hreasons : ∀ p ∈ Http.reasons, '2' ∉ p.2.toList := by decide +kernel
  have hreason :
      '2' ∉ ((Http.reasons.lookup status).getD "<unknown status code>").toList := by
    cases h : Http.reasons.lookup status with
    | none => decide
    | some reason =>
      obtain ⟨l₁, l₂, hl, -⟩ := List.lookup_eq_some_iff.1 h
      refine hreasons (status, reason) ?_
      rw [hl]
      exact List.mem_append_right l₁ List.mem_cons_self
  rw [Http.statusText, showsTimedOut_append (by decide), showsTimedOut_of_not_mem hreason,
    Bool.or_false]

/-! ### Quotes -/

/-- The words of a fault of the service as they stand in its element. -/
def messageWords? (s : List Char) : Option (List Char) := do
  let (_, rest) ← cut "<f:Message>".toList s
  let (words, _) ← cut "</f:Message>".toList rest
  some words

/-- What the words for a refusal quote of the body of the reply: the words of a fault of the
service and the number that is taken for its code; else the words of a fault of the protocol;
else all of it. -/
def bodyQuotes (body : String) : List String :=
  match messageWords? body.toList with
  | some words =>
    String.ofList words ::
      ((Response.value? "Code" "f:Code" body.toList).map String.ofList).toList
  | none =>
    match Response.soapFault? body.toList with
    | some words => [String.ofList words]
    | none => [body]

/-- What is quoted of a header without a challenge that can be read. -/
def headerQuotes (header : String) : List String :=
  match (header.toList.splitOn ',').findSome? Ntlm.tokenOf? with
  | none => [header]
  | some token =>
    match Base64.decode (Utf8.encode (trim token)) with
    | .error e => [e.message]
    | .ok _ => []

/-- What is quoted of a response without a challenge. -/
def challengeQuotes (response : Http.Response) : List String :=
  if response.status ≠ 401 then [toString response.status]
  else ((response.header? "WWW-Authenticate").map headerQuotes).getD []

/-- What is quoted of a response that refuses an envelope. -/
def refusalQuotes (s : Service) (response : Http.Response) : List String :=
  match response.body with
  | .error reason => [reason]
  | .ok bytes =>
    if response.status = 401 then [s.address]
    else toString response.status :: bodyQuotes (Utf8.decodeLossy bytes)

theorem showsTimedOut_trim (words : List Char) :
    showsTimedOut (String.ofList (trimChars words)) = showsTimedOut (String.ofList words) := by
  have hdigits : Protocol.receiveTimedOut.toList.all fun c => !isBlank c := by decide
  have hblank : ∀ c ∈ Protocol.receiveTimedOut.toList, isBlank c = false := by
    intro c hc
    simpa using List.all_eq_true.1 hdigits c hc
  simp only [showsTimedOut, contains, String.toList_ofList]
  exact occurs_trimChars (by decide) hblank words

theorem managementFault?_eq (s : List Char) :
    Response.managementFault? s = (messageWords? s).map fun words =>
      match Response.value? "Code" "f:Code" s with
      | some code => trimChars words ++ " (code ".toList ++ code ++ [')']
      | none => trimChars words := by
  unfold Response.managementFault? messageWords?
  cases cut "<f:Message>".toList s with
  | none => rfl
  | some p =>
    show Option.bind (cut _ p.2) _ = Option.map _ (Option.bind (cut _ p.2) _)
    cases cut "</f:Message>".toList p.2 with
    | none => rfl
    | some q =>
      show (match Response.value? "Code" "f:Code" s with
        | some code => _
        | none => _) = some _
      cases Response.value? "Code" "f:Code" s <;> rfl

theorem showsTimedOut_fault (body : String) :
    showsTimedOut ((Response.fault? body).getD body) = (bodyQuotes body).any showsTimedOut := by
  simp only [Response.fault?, bodyQuotes, managementFault?_eq]
  -- The fault of the service goes before that of the protocol, and that before the whole body.
  cases messageWords? body.toList with
  | none =>
    cases Response.soapFault? body.toList with
    | none => exact (Bool.or_false _).symm
    | some words => exact (Bool.or_false _).symm
  | some words =>
    cases Response.value? "Code" "f:Code" body.toList with
    | none =>
      show showsTimedOut (String.ofList (trimChars words)) = (showsTimedOut _ || false)
      rw [showsTimedOut_trim, Bool.or_false]
    | some code =>
      show showsTimedOut (String.ofList (trimChars words ++ " (code ".toList ++ code ++ [')'])) =
        (showsTimedOut _ || (showsTimedOut (String.ofList code) || false))
      have hwords : String.ofList (trimChars words ++ " (code ".toList ++ code ++ [')']) =
          String.ofList (trimChars words) ++ " (code " ++ String.ofList code ++ ")" := by
        simp only [String.ofList_append, String.ofList_toList]
      rw [hwords, showsTimedOut_closing (by decide), showsTimedOut_append (by decide),
        showsTimedOut_trim, Bool.or_false]

/-! ### Failures -/

theorem isIdle_of_challengeOf {header : String} {e : Failure}
    (h : Ntlm.challengeOf header = .error e) :
    RemoteShell.isIdle e = (headerQuotes header).any showsTimedOut := by
  unfold Ntlm.challengeOf at h
  unfold headerQuotes
  cases htoken : (header.toList.splitOn ',').findSome? Ntlm.tokenOf? with
  | none =>
    simp only [htoken, Except.error.injEq] at h
    subst h
    show showsTimedOut ("server did not send an NTLM challenge (WWW-Authenticate: " ++ header ++
      ")") = (showsTimedOut header || false)
    rw [showsTimedOut_closing (by decide), showsTimedOut_opening (by decide), Bool.or_false]
  | some token =>
    simp only [htoken] at h ⊢
    cases hdecode : Base64.decode (Utf8.encode (trim token)) with
    | error fault =>
      simp only [hdecode, Except.error.injEq] at h
      subst h
      show showsTimedOut ("undecodable NTLM challenge: " ++ fault.message) =
        (showsTimedOut fault.message || false)
      rw [showsTimedOut_opening (by decide), Bool.or_false]
    | ok message =>
      simp only [hdecode] at h
      cases hread : Ntlm.Challenge.read message with
      | ok challenge =>
        simp only [hread] at h
        cases h
      | error fault =>
        simp only [hread, Except.error.injEq] at h
        subst h
        -- The words for a message that is no challenge quote nothing.
        cases fault <;> rfl

theorem isIdle_of_challengeIn {response : Http.Response} {e : Failure}
    (h : Service.challengeIn response = .error e) :
    RemoteShell.isIdle e = (challengeQuotes response).any showsTimedOut := by
  unfold Service.challengeIn at h
  unfold challengeQuotes
  split at h
  · next hstatus =>
    rw [if_pos hstatus]
    obtain rfl := Except.error.inj h
    show showsTimedOut ("expected NTLM challenge, got HTTP " ++ _) = (showsTimedOut _ || false)
    rw [showsTimedOut_opening (by decide), showsTimedOut_statusText, Bool.or_false]
  · next hstatus =>
    rw [if_neg hstatus]
    cases hheader : response.header? "WWW-Authenticate" with
    | none =>
      simp only [hheader, Except.error.injEq] at h
      subst h
      rfl
    | some header =>
      simp only [hheader] at h
      exact isIdle_of_challengeOf h

theorem isIdle_of_conclude {s : Service} {response : Http.Response} {e : Failure}
    (h : s.conclude response = .error e) :
    RemoteShell.isIdle e = (refusalQuotes s response).any showsTimedOut := by
  unfold Service.conclude at h
  unfold refusalQuotes
  cases hbody : response.body with
  | error reason =>
    simp only [hbody, Except.error.injEq] at h
    subst h
    show showsTimedOut ("unable to read WinRM response: " ++ reason) =
      (showsTimedOut reason || false)
    rw [showsTimedOut_opening (by decide), Bool.or_false]
  | ok bytes =>
    simp only [hbody] at h ⊢
    by_cases hstatus : response.status = 401
    · rw [if_pos hstatus] at h ⊢
      obtain rfl := Except.error.inj h
      show showsTimedOut ("HTTP 401 Unauthorized from " ++ s.address) = (showsTimedOut _ || false)
      rw [showsTimedOut_opening (by decide), Bool.or_false]
    · rw [if_neg hstatus] at h ⊢
      split at h
      · cases h
      · obtain rfl := Except.error.inj h
        show showsTimedOut ("WinRM error (HTTP " ++ _ ++ "): " ++ _) = _
        rw [showsTimedOut_append (by decide), showsTimedOut_opening (by decide),
          showsTimedOut_statusText, showsTimedOut_fault, List.any_cons]

/-! ### Troubles -/

/-- What an exchange fails at. -/
inductive Trouble where
  /-- No request can be sent to the endpoint. -/
  | unsendable
  /-- A request gets no response, for some causes. -/
  | unanswered (causes : List String)
  /-- The response to the empty request of an NTLM login has no challenge. -/
  | unchallenged (response : Http.Response)
  /-- The response to the envelope is none to go on with. -/
  | refused (response : Http.Response)

namespace Trouble

/-- The trouble of an exchange that failed after some calls: it lies in the last one. -/
def after (calls : List (Exchange HttpCall HttpCall.Reply)) : Trouble :=
  match calls.getLast? with
  | some ⟨.post _, .error causes⟩ => unanswered causes
  | some ⟨.post request, .ok response⟩ =>
    if request.body = "" then unchallenged response else refused response
  | _ => unsendable

/-- What the words for a trouble quote of what came from outside. -/
def quotes (s : Service) : Trouble → List String
  | unsendable => [s.address]
  | unanswered causes => s.address :: causes
  | unchallenged response => challengeQuotes response
  | refused response => refusalQuotes s response

end Trouble

theorem envelope_ne_empty (r : Request) (endpoint timeout messageId : String) :
    r.envelope endpoint timeout messageId ≠ "" := by
  intro h
  have hend := (String.append_eq_empty_iff.1 h).2
  exact absurd hend (by decide)

variable {s : Service} {envelope : String} {calls : List (Exchange HttpCall HttpCall.Reply)}
  {e : Failure}

/-- The trouble of an envelope that was sent lies in the reply to it. -/
theorem Trouble.after_posted {authorization : String} (henvelope : envelope ≠ "")
    (before : List (Exchange HttpCall HttpCall.Reply))
    (reply : Except (List String) Http.Response) :
    Trouble.after (before ++ [s.posted authorization envelope reply]) =
      match reply with
      | .error causes => .unanswered causes
      | .ok response => .refused response := by
  have hlast : (before ++ [s.posted authorization envelope reply]).getLast? =
      some (s.posted authorization envelope reply) := List.getLast?_concat
  rw [Trouble.after, hlast]
  cases reply with
  | error causes => rfl
  | ok response => exact if_neg henvelope

/-- An envelope that comes back refused or not at all. -/
theorem isIdle_of_conclude_arrived {reply : Except (List String) Http.Response}
    {authorization : String} (henvelope : envelope ≠ "")
    (before : List (Exchange HttpCall HttpCall.Reply))
    (h : s.arrived reply >>= s.conclude = .error e) :
    RemoteShell.isIdle e =
      ((Trouble.after (before ++ [s.posted authorization envelope reply])).quotes s).any
        showsTimedOut := by
  rw [Trouble.after_posted henvelope]
  cases reply with
  | error causes =>
    obtain rfl : s.unsent (Http.unanswered s.endpoint causes) = e := Except.error.inj h
    exact sought_timedOut.unanswered s causes
  | ok response => exact isIdle_of_conclude h

/-- **The words of a failure show the number where a quote does.**  The number that stands for
no output in time is in the words of a failed request if and only if it is in something that
they quote. -/
theorem isIdle_of_runs_request {r : Request} (h : Runs (s.request r) calls (.error e)) :
    RemoteShell.isIdle e = ((Trouble.after calls).quotes s).any showsTimedOut := by
  obtain ⟨random, t, rfl, hrun⟩ := Service.sendRun_of_runs_request h
  have henvelope := envelope_ne_empty r s.address s.operationTimeout (Uuid.ofRandom random)
  -- The outcome of a course is no constructor in general, so the failure is put aside first.
  generalize hr : Except.error e = outcome at hrun
  cases hrun with
  | unsendable hsend =>
    obtain rfl := Except.error.inj hr
    exact sought_timedOut.unsendable s
  | basic reply hsend hauth => exact isIdle_of_conclude_arrived henvelope [_] hr.symm
  | unchallenged reply e' hsend hauth hreply =>
    obtain rfl := Except.error.inj hr
    cases reply with
    | error causes =>
      obtain rfl : s.unsent (Http.unanswered s.endpoint causes) = e := Except.error.inj hreply
      exact sought_timedOut.unanswered s causes
    | ok response => exact isIdle_of_challengeIn hreply
  | answered first challenge nonce secs nanos reply hsend hauth hfirst =>
    exact isIdle_of_conclude_arrived henvelope [_, _, _, _] hr.symm

end RemoteHost.Winrm
