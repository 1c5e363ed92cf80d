/-
RemoteHost/Proofs/Winrm/FaultOfHost.lean

What the name of a host has to do with the cause of a failure.

A client that cannot open its shell reads the cause off the words of the failure.  Each phrase that
it searches for is in these words exactly if it is in one of the texts that they quote
(`sought_phrase`), so the cause that they tell is the first one that a quote tells
(`ofText_eq_among`).  The address of the service is such a quote where a request gets no response
and where the login is rejected, and the address has the name of the host in it.

Two clients that differ in their hosts only, and whose attempts end alike (`Trouble.Alike`), report
failures of one kind exactly where the two addresses tell the same cause
(`failure_kind_ignores_host_iff`).  Two do not (`host_name_counts_as_timeout`).
-/
import RemoteHost.Proofs.Idna.PlainName
import RemoteHost.Proofs.Text.Case
import RemoteHost.Proofs.Winrm.FailureWords
import RemoteHost.Proofs.Winrm.ShellHost

namespace RemoteHost.Winrm

open Dialogue Text

namespace ConnectionFault

variable {f : ConnectionFault} {phrase text lit : String}

/-! ### Phrases -/

/-- The causes that have phrases, in the order in which they are taken. -/
def ranked : List ConnectionFault := [invalidPort, timeout, invalidCredentials]

/-- All phrases. -/
def allPhrases : List String := ranked.flatMap phrases

theorem mem_allPhrases (h : phrase ∈ f.phrases) : phrase ∈ allPhrases := by
  refine List.mem_flatMap.2 ⟨f, ?_, h⟩
  cases f with
  | invalidPort => decide
  | timeout => decide
  | invalidCredentials => decide
  | other => cases h

/-- A text has a phrase in it, in lower or upper case. -/
def has (phrase text : String) : Bool := contains (toLowerAscii text) phrase

theorem has_between {c : Char} (h : parts c phrase.toList (toLowerAscii lit).toList)
    (a b : String) : has phrase (a ++ lit ++ b) = (has phrase a || has phrase b) := by
  rw [has, contains, toLowerAscii_append, toLowerAscii_append, String.toList_append,
    String.toList_append, List.append_assoc, occurs_append_parts h]
  rfl

theorem has_opening (h : quiet phrase.toList (toLowerAscii lit).toList) (b : String) :
    has phrase (lit ++ b) = has phrase b := by
  rw [has, contains, toLowerAscii_append, String.toList_append, occurs_append_of_quiet h]
  rfl

theorem has_closing (h : quiet phrase.toList.reverse (toLowerAscii lit).toList.reverse)
    (a : String) : has phrase (a ++ lit) = has phrase a := by
  rw [has, contains, toLowerAscii_append, String.toList_append, occurs_append_of_quiet_reverse h]
  rfl

theorem has_grows {a b : String} (h : contains b a) (ha : has phrase a) : has phrase b :=
  contains_trans (contains_toLowerAscii h) ha

/-- Each phrase is in the words for a request only where a quote has it. -/
theorem sought_phrase (h : phrase ∈ allPhrases) : Sought (has phrase) where
  grows := has_grows
  between lit hlit a b := by
    have hparts : ∀ p ∈ allPhrases, ∀ lit ∈ ["://", " failed: ", ": "],
        parts ':' p.toList (toLowerAscii lit).toList := by decide +kernel
    exact has_between (hparts phrase h lit hlit) a b
  opening lit hlit b := by
    have hquiet : ∀ p ∈ allPhrases, ∀ lit ∈ ["WinRM request to ",
        "error sending request for url (", "builder error for url ("],
        quiet p.toList (toLowerAscii lit).toList := by decide +kernel
    exact has_opening (hquiet phrase h lit hlit) b
  closing a := by
    have hquiet : ∀ p ∈ allPhrases, quiet p.toList.reverse (toLowerAscii ")").toList.reverse := by
      decide +kernel
    exact has_closing (hquiet phrase h) a
  absent lit hlit := by
    have habsent : ∀ p ∈ allPhrases, ∀ lit ∈ ["http", "https", "Parsed Url is not a valid Uri"],
        has p lit = false := by decide +kernel
    exact habsent phrase h lit hlit

/-- The words for a rejected login. -/
theorem has_rejected (h : phrase ∈ allPhrases) (address : String) :
    has phrase ("HTTP 401 Unauthorized from " ++ address) =
      ["HTTP 401 Unauthorized", address].any (has phrase) := by
  have hcases : ∀ p ∈ allPhrases, has p "HTTP 401 Unauthorized" ∨
      quiet p.toList (toLowerAscii "HTTP 401 Unauthorized from ").toList ∧
        has p "HTTP 401 Unauthorized" = false := by decide +kernel
  rw [List.any_cons, List.any_cons, List.any_nil, Bool.or_false]
  rcases hcases phrase h with hhas | ⟨hquiet, hnot⟩
  · have hcontains : contains ("HTTP 401 Unauthorized from " ++ address)
        "HTTP 401 Unauthorized" := by
      rw [contains, occurs_iff, String.toList_append]
      exact List.IsPrefix.isInfix ⟨" from ".toList ++ address.toList, by
        rw [← List.append_assoc]
        rfl⟩
    rw [hhas, has_grows hcontains hhas, Bool.true_or]
  · rw [hnot, has_opening hquiet, Bool.false_or]

/-! ### Causes -/

/-- The first of some causes, in the order in which they are taken. -/
def among (fs : List ConnectionFault) : ConnectionFault :=
  (ranked.find? fs.contains).getD other

/-- A text that has the phrases of some quotes tells what they tell. -/
theorem isToldBy_of_quotes {quotes : List String}
    (h : ∀ phrase ∈ allPhrases, has phrase text = quotes.any (has phrase)) (f : ConnectionFault) :
    isToldBy text f ↔ ∃ q ∈ quotes, isToldBy q f := by
  rw [isToldBy, List.any_eq_true]
  constructor
  · rintro ⟨phrase, hphrase, htext⟩
    have hany := (h phrase (mem_allPhrases hphrase)).symm.trans htext
    obtain ⟨q, hq, hhas⟩ := List.any_eq_true.1 hany
    exact ⟨q, hq, List.any_eq_true.2 ⟨phrase, hphrase, hhas⟩⟩
  · rintro ⟨q, hq, htold⟩
    obtain ⟨phrase, hphrase, hhas⟩ := List.any_eq_true.1 htold
    exact ⟨phrase, hphrase,
      (h phrase (mem_allPhrases hphrase)).trans (List.any_eq_true.2 ⟨q, hq, hhas⟩)⟩

theorem first_ranked (t : ConnectionFault → Bool) :
    (ranked.find? t).getD other = if t invalidPort then invalidPort
      else if t timeout then timeout else if t invalidCredentials then invalidCredentials
      else other := by
  rw [ranked, List.find?_cons, List.find?_cons, List.find?_cons, List.find?_nil]
  cases t invalidPort with
  | true => rfl
  | false =>
    cases t timeout with
    | true => rfl
    | false => cases t invalidCredentials <;> rfl

theorem ofText_eq (text : String) : ofText text =
    if isToldBy text invalidPort then invalidPort
    else if isToldBy text timeout then timeout
    else if isToldBy text invalidCredentials then invalidCredentials else other :=
  first_ranked (isToldBy text)

theorem ofText_eq_invalidPort_iff : ofText text = invalidPort ↔ isToldBy text invalidPort := by
  rw [ofText_eq]
  repeat' split
  all_goals simp_all

theorem ofText_eq_timeout_iff : ofText text = timeout ↔
    ¬ isToldBy text invalidPort ∧ isToldBy text timeout := by
  rw [ofText_eq]
  repeat' split
  all_goals simp_all

theorem ofText_eq_invalidCredentials_iff : ofText text = invalidCredentials ↔
    ¬ isToldBy text invalidPort ∧ ¬ isToldBy text timeout ∧ isToldBy text invalidCredentials := by
  rw [ofText_eq]
  repeat' split
  all_goals simp_all

/-- The cause that a text tells is the first one that a quote tells. -/
theorem ofText_eq_among {quotes : List String}
    (h : ∀ phrase ∈ allPhrases, has phrase text = quotes.any (has phrase)) :
    ofText text = among (quotes.map ofText) := by
  have htext := isToldBy_of_quotes h
  have hmem (f : ConnectionFault) :
      (quotes.map ofText).contains f ↔ ∃ q ∈ quotes, ofText q = f := by
    rw [List.contains_iff_mem, List.mem_map]
  have hnone {f : ConnectionFault} (hf : ¬ isToldBy text f) : ∀ q ∈ quotes, ¬ isToldBy q f :=
    fun q hq hq' => hf ((htext f).2 ⟨q, hq, hq'⟩)
  rw [ofText_eq, among, first_ranked]
  -- A cause that comes later counts for a quote only if the quote tells none before it.
  have hport : (quotes.map ofText).contains invalidPort ↔ isToldBy text invalidPort := by
    simp only [hmem, htext, ofText_eq_invalidPort_iff]
  by_cases hp : isToldBy text invalidPort
  · rw [if_pos hp, if_pos (hport.2 hp)]
  rw [if_neg hp, if_neg (hport.not.2 hp)]
  have htimeout : (quotes.map ofText).contains timeout ↔ isToldBy text timeout := by
    rw [hmem, htext]
    refine exists_congr fun q => and_congr_right fun hq => ?_
    rw [ofText_eq_timeout_iff, and_iff_right (hnone hp q hq)]
  by_cases ht : isToldBy text timeout
  · rw [if_pos ht, if_pos (htimeout.2 ht)]
  rw [if_neg ht, if_neg (htimeout.not.2 ht)]
  have hlogin : (quotes.map ofText).contains invalidCredentials ↔
      isToldBy text invalidCredentials := by
    rw [hmem, htext]
    refine exists_congr fun q => and_congr_right fun hq => ?_
    rw [ofText_eq_invalidCredentials_iff, and_iff_right (hnone hp q hq),
      and_iff_right (hnone ht q hq)]
  exact if_congr hlogin.symm rfl rfl

theorem kind_injective {f g : ConnectionFault} (h : f.kind = g.kind) : f = g := by
  revert h
  cases f <;> cases g <;> simp [kind]

end ConnectionFault

open ConnectionFault (ofText among ofText_eq_among sought_phrase has_rejected)

variable {s s' : Service} {f f' : Failure} {opening : List (Exchange HttpCall HttpCall.Reply)}

/-! ### Attempts that fail -/

/-- The shell that a response names. -/
def namedShell (body : String) : Outcome String :=
  match Response.shellId? body with
  | some id => .ok id
  | none => .error (talkFailure "create shell response carried no ShellId")

theorem openShell_eq (s : Service) :
    s.openShell = s.request .createShell >>= fun response => .done (response >>= namedShell) := by
  show s.request .createShell >>= (fun response => _) = _
  congr 1
  funext response
  cases response with
  | error e => rfl
  | ok body =>
    show (match Response.shellId? body with
      | some id => _
      | none => _ : SoapTalk (Outcome String)).through s.exchange =
        .done (match Response.shellId? body with
          | some id => _
          | none => _)
    cases Response.shellId? body with
    | some id => rfl
    | none => rfl

theorem runs_openShell {r : Outcome String} : Runs s.openShell opening r ↔
    ∃ response, Runs (s.request .createShell) opening response ∧ r = response >>= namedShell := by
  rw [openShell_eq, runs_bind]
  constructor
  · rintro ⟨t, t', response, rfl, h, h'⟩
    obtain ⟨rfl, rfl⟩ := runs_done.1 h'
    rw [List.append_nil]
    exact ⟨response, h, rfl⟩
  · rintro ⟨response, h, rfl⟩
    exact ⟨opening, [], response, (List.append_nil _).symm, h, .done _⟩

/-- The failure of a login that is rejected. -/
def Service.rejected (s : Service) : Failure :=
  talkFailure ("HTTP 401 Unauthorized from " ++ s.address)

namespace Trouble

/-- What comes of a trouble when a shell is opened over a service. -/
inductive Gives (s : Service) : Trouble → Failure → Prop
  | unsendable (h : Http.isSendable s.endpoint = false) :
      Gives s unsendable (s.unsent (Http.unsendable s.endpoint))
  | unanswered (causes : List String) (h : Http.isSendable s.endpoint) :
      Gives s (unanswered causes) (s.unsent (Http.unanswered s.endpoint causes))
  | unchallenged {response : Http.Response} {f : Failure} (hsend : Http.isSendable s.endpoint)
      (h : Service.challengeIn response = .error f) : Gives s (unchallenged response) f
  | refused {response : Http.Response} {f : Failure} (hsend : Http.isSendable s.endpoint)
      (h : s.conclude response >>= namedShell = .error f) : Gives s (refused response) f

/-- The two attempts end alike: for the same causes in the network, or with the same status and
the same body.  Of a response that should have a challenge, the header counts. -/
inductive Alike : Trouble → Trouble → Prop
  | unsendable : Alike unsendable unsendable
  | unanswered (causes : List String) : Alike (unanswered causes) (unanswered causes)
  | unchallenged {r r' : Http.Response} (hstatus : r.status = r'.status)
      (hheader : r.header? "WWW-Authenticate" = r'.header? "WWW-Authenticate") :
      Alike (unchallenged r) (unchallenged r')
  | refused {r r' : Http.Response} (hstatus : r.status = r'.status) (hbody : r.body = r'.body) :
      Alike (refused r) (refused r')

/-- An attempt ends before the first request exactly if none can be sent. -/
theorem Gives.isSendable_eq {t : Trouble} (h : t.Gives s f) :
    Http.isSendable s.endpoint = !(t matches Trouble.unsendable) := by
  cases h with
  | unsendable h => exact h
  | unanswered causes h => exact h
  | unchallenged h => exact h
  | refused h => exact h

theorem Gives.isSendable_of_alike {t t' : Trouble} (h : t.Gives s f) (h' : t'.Gives s' f')
    (halike : t.Alike t') : Http.isSendable s.endpoint = Http.isSendable s'.endpoint := by
  rw [h.isSendable_eq, h'.isSendable_eq]
  cases halike <;> rfl

end Trouble

/-- What comes of the reply to an envelope that was sent. -/
theorem gives_of_arrived {envelope authorization : String} (henvelope : envelope ≠ "")
    (before : List (Exchange HttpCall HttpCall.Reply))
    {reply : Except (List String) Http.Response} (hsend : Http.isSendable s.endpoint)
    (h : s.arrived reply >>= s.conclude >>= namedShell = .error f) :
    (Trouble.after (before ++ [s.posted authorization envelope reply])).Gives s f := by
  rw [Trouble.after_posted henvelope]
  cases reply with
  | error causes =>
    obtain rfl : s.unsent (Http.unanswered s.endpoint causes) = f := Except.error.inj h
    exact .unanswered causes hsend
  | ok response => exact .refused hsend h

theorem gives_of_runs_openShell (h : Runs s.openShell opening (.error f)) :
    (Trouble.after opening).Gives s f := by
  obtain ⟨r, hrequest, hf⟩ := runs_openShell.1 h
  obtain ⟨random, t, rfl, hrun⟩ := Service.sendRun_of_runs_request hrequest
  have henvelope :=
    envelope_ne_empty .createShell s.address s.operationTimeout (Uuid.ofRandom random)
  cases hrun with
  | unsendable hsend =>
    obtain rfl := Except.error.inj hf
    exact .unsendable hsend
  | basic reply hsend hauth => exact gives_of_arrived henvelope [_] hsend hf.symm
  | unchallenged reply e hsend hauth hreply =>
    obtain rfl : f = e := Except.error.inj hf
    cases reply with
    | error causes =>
      obtain rfl : s.unsent (Http.unanswered s.endpoint causes) = f := Except.error.inj hreply
      exact .unanswered causes hsend
    | ok response => exact .unchallenged hsend hreply
  | answered first challenge nonce secs nanos reply hsend hauth hfirst =>
    exact gives_of_arrived henvelope [_, _, _, _] hsend hf.symm

/-! ### The address in the words -/

theorem ofText_unsendable (s : Service) :
    ofText (s.unsent (Http.unsendable s.endpoint)).message = among ([s.address].map ofText) :=
  ofText_eq_among fun _ h => (sought_phrase h).unsendable s

theorem ofText_unanswered (s : Service) (causes : List String) :
    ofText (s.unsent (Http.unanswered s.endpoint causes)).message =
      among ((s.address :: causes).map ofText) :=
  ofText_eq_among fun _ h => (sought_phrase h).unanswered s causes

theorem ofText_rejected (s : Service) :
    ofText s.rejected.message = among (["HTTP 401 Unauthorized", s.address].map ofText) :=
  ofText_eq_among fun _ h => has_rejected h s.address

/-- Responses with one status and one body lead to one conclusion over any two services, unless
the login is rejected: then each failure names its own service. -/
theorem conclude_alike (s s' : Service) {r r' : Http.Response} (hstatus : r.status = r'.status)
    (hbody : r.body = r'.body) :
    s.conclude r = s'.conclude r' ∨
      (s.conclude r = .error s.rejected ∧ s'.conclude r' = .error s'.rejected) := by
  unfold Service.conclude
  rw [hbody, hstatus]
  cases r'.body with
  | error reason => exact .inl rfl
  | ok bytes =>
    by_cases h401 : r'.status = 401
    · exact .inr ⟨if_pos h401, if_pos h401⟩
    · left
      simp only [if_neg h401]

theorem challengeIn_alike {r r' : Http.Response} (hstatus : r.status = r'.status)
    (hheader : r.header? "WWW-Authenticate" = r'.header? "WWW-Authenticate") :
    Service.challengeIn r = Service.challengeIn r' := by
  unfold Service.challengeIn
  rw [hstatus, hheader]

/-- Where the addresses tell the same cause, the words for attempts that end alike do. -/
theorem ofText_alike {t t' : Trouble} (h : t.Gives s f) (h' : t'.Gives s' f')
    (halike : t.Alike t') (haddress : ofText s.address = ofText s'.address) :
    ofText f.message = ofText f'.message := by
  cases halike with
  | unsendable =>
    cases h
    cases h'
    rw [ofText_unsendable, ofText_unsendable, List.map_cons, List.map_cons, haddress]
  | unanswered causes =>
    cases h
    cases h'
    rw [ofText_unanswered, ofText_unanswered, List.map_cons, List.map_cons, haddress]
  | unchallenged hstatus hheader =>
    cases h with
    | unchallenged _ h =>
      cases h' with
      | unchallenged _ h' =>
        rw [challengeIn_alike hstatus hheader, h'] at h
        rw [Except.error.inj h]
  | refused hstatus hbody =>
    cases h with
    | refused _ h =>
      cases h' with
      | refused _ h' =>
        rcases conclude_alike s s' hstatus hbody with hsame | ⟨hrejected, hrejected'⟩
        · rw [hsame, h'] at h
          rw [Except.error.inj h]
        · rw [hrejected] at h
          rw [hrejected'] at h'
          obtain rfl : s.rejected = f := Except.error.inj h
          obtain rfl : s'.rejected = f' := Except.error.inj h'
          rw [ofText_rejected, ofText_rejected, List.map_cons, List.map_cons, List.map_cons,
            List.map_cons, haddress]

/-! ### A network that cannot be reached -/

/-- The causes where no network can be reached. -/
def unreachable : List String :=
  ["client error (Connect)", "tcp connect error: Network is unreachable (os error 101)"]

/-- An outside without a network. -/
def offline : (x : HttpCall) → Unit → x.Reply × Unit
  | .post _, w => (.error unreachable, w)
  | .nonce, w => (List.replicate 8 0, w)
  | .messageId, w => (List.replicate 16 0, w)
  | .time, w => ((0, 0), w)
  | .localFile _, w => (.error "no file", w)
  | .report _, w => ((), w)

/-- The exchange with a service when a shell is opened without a network. -/
def offlineOpening (s : Service) : List (Exchange HttpCall HttpCall.Reply) :=
  ((s.request .createShell).play offline ()).exchanges

/-- What this exchange ends with. -/
def offlineTrouble (s : Service) : Trouble :=
  if Http.isSendable s.endpoint then .unanswered unreachable else .unsendable

/-- The failure that comes of it. -/
def offlineFailure (s : Service) : Failure :=
  if Http.isSendable s.endpoint then s.unsent (Http.unanswered s.endpoint unreachable)
  else s.unsent (Http.unsendable s.endpoint)

theorem runs_offline (s : Service) :
    Runs s.openShell (offlineOpening s) (.error (offlineFailure s)) ∧
      Trouble.after (offlineOpening s) = offlineTrouble s := by
  obtain ⟨r, hr⟩ := (s.returns_request .createShell).play offline ()
  have hrun := runs_of_play hr
  have hanswered := (answered_play offline (s.request .createShell) ()).1
  obtain ⟨random, t, ht, hsendRun⟩ := Service.sendRun_of_runs_request hrun
  rw [ht] at hrun hanswered
  obtain ⟨-, hanswered⟩ := hanswered
  rw [offlineOpening, ht, offlineFailure, offlineTrouble]
  -- The outside without a network decides each reply, so the first request is the last.
  cases hsendRun with
  | unsendable hsend =>
    rw [hsend]
    exact ⟨runs_openShell.2 ⟨_, hrun, rfl⟩, rfl⟩
  | basic reply hsend hauth =>
    obtain rfl : reply = .error unreachable := hanswered.1
    rw [hsend]
    exact ⟨runs_openShell.2 ⟨_, hrun, rfl⟩, rfl⟩
  | unchallenged reply e hsend hauth hreply =>
    obtain rfl : reply = .error unreachable := hanswered.1
    obtain rfl : s.unsent (Http.unanswered s.endpoint unreachable) = e := Except.error.inj hreply
    rw [hsend]
    exact ⟨runs_openShell.2 ⟨_, hrun, rfl⟩, rfl⟩
  | answered first challenge nonce secs nanos reply hsend hauth hfirst =>
    obtain rfl : first = .error unreachable := hanswered.1
    cases hfirst

theorem ofText_unreachable : unreachable.map ofText = [.other, .other] := by decide +kernel

/-- Without a network the cause is told by the address alone. -/
theorem ofText_offlineFailure (s : Service) :
    ofText (offlineFailure s).message = ofText s.address := by
  unfold offlineFailure
  split
  · rw [ofText_unanswered, List.map_cons, ofText_unreachable]
    cases ofText s.address <;> rfl
  · rw [ofText_unsendable, List.map_singleton]
    cases ofText s.address <;> rfl

theorem offlineTrouble_alike (h : Http.isSendable s.endpoint = Http.isSendable s'.endpoint) :
    (Trouble.after (offlineOpening s)).Alike (Trouble.after (offlineOpening s')) := by
  rw [(runs_offline s).2, (runs_offline s').2, offlineTrouble, offlineTrouble, h]
  split
  · exact .unanswered _
  · exact .unsendable

namespace Client

variable {env : Environment} {c : Client Service} {e e' : Failure}

/-! ### Two hosts -/

/-- Opening the shell of a client fails in the end, after these calls to the service. -/
def FailsAfter (env : Environment) (c : Client Service)
    (opening : List (Exchange HttpCall HttpCall.Reply)) (e : Failure) : Prop :=
  ∃ s f before report c', service env c.config = .ok s ∧ Runs s.openShell opening (.error f) ∧
    Runs (c.init env)
      (before ++ [⟨.openShell s, (.error f : Outcome String)⟩, ⟨.report report, ()⟩]) (.error e, c')

theorem failsAfter_iff (hs : service env c.config = .ok s) : FailsAfter env c opening e ↔
    ∃ f, Runs s.openShell opening (.error f) ∧ e = connectionFailure c.address f := by
  have hinit : c.init env = c.openOver s := by
    unfold init initWith
    rw [hs]
  constructor
  · rintro ⟨s₁, f, before, report, c', hs₁, hopen, hrun⟩
    obtain rfl : s₁ = s := Except.ok.inj (hs₁.symm.trans hs)
    refine ⟨f, hopen, ?_⟩
    rw [hinit] at hrun
    obtain ⟨closing, t₁, t₂, t₃, reply, ht, -, -, ⟨id, -, -, hr, -⟩ |
      ⟨f', rfl, rfl, hr, -⟩⟩ := runs_openOver hrun
    · cases hr
    · rw [← List.append_assoc] at ht
      obtain ⟨hexchange, -⟩ := List.cons.inj (List.append_inj' ht rfl).2
      have hreply : (.error f : Outcome String) = .error f' :=
        eq_of_heq (Exchange.mk.inj hexchange).2
      rw [Except.error.inj hreply]
      exact Except.error.inj hr
  · rintro ⟨f, hopen, rfl⟩
    obtain ⟨⟨closing, c₁⟩, hplay⟩ := c.returns_destroy.play complaining ()
    have hdestroy := runs_of_play hplay
    obtain ⟨rfl, -⟩ := runs_destroy hdestroy
    obtain ⟨t, hreport⟩ : ∃ t, Runs (c.emptied.reportClosing closing) t () := by
      cases closing with
      | ok u => exact ⟨[], .done _⟩
      | error e => exact ⟨[_], .ask () (.done _)⟩
    refine ⟨s, f, (c.destroy.play complaining ()).exchanges ++ t,
      .error (connectionFailure c.address f).display, c.emptied, hs, hopen, ?_⟩
    rw [hinit, List.append_assoc]
    refine runs_bind.2 ⟨_, _, _, rfl, hdestroy, ?_⟩
    refine runs_bind.2 ⟨t, _, (), rfl, hreport, ?_⟩
    exact runs_call.2 ⟨.error f, _, rfl, runs_call.2 ⟨(), [], rfl, .done _⟩⟩

theorem failsAfter_offline (hs : service env c.config = .ok s) :
    FailsAfter env c (offlineOpening s) (connectionFailure c.address (offlineFailure s)) :=
  (failsAfter_iff hs).2 ⟨offlineFailure s, (runs_offline s).1, rfl⟩

theorem connectionFailure_eq {address : String} {fault : ConnectionFault}
    (h : ofText f.message = fault) :
    connectionFailure address f =
      { kind := fault.kind, message := fault.words address ++ ": " ++ f.message } := by
  rw [connectionFailure, h]

theorem kind_connectionFailure (address : String) (f : Failure) :
    (connectionFailure address f).kind = (ofText f.message).kind := by
  rw [connectionFailure_eq rfl]

/-- The client, for another host. -/
def onHost (c : Client Service) (target : String) : Client Service :=
  { c with config := { c.config with target } }

/-- **The kind of a failure and the name of the host.**  A client and the same client for another
host, both with an address to connect to, report failures of the same kind whenever opening their
shells ends alike, if and only if the two addresses tell the same cause, or requests can be sent to
one of the addresses only. -/
theorem failure_kind_ignores_host_iff {target : String} (hs : service env c.config = .ok s)
    (hs' : service env (c.onHost target).config = .ok s') :
    (∀ opening opening' e e', FailsAfter env c opening e →
      FailsAfter env (c.onHost target) opening' e' →
      (Trouble.after opening).Alike (Trouble.after opening') → e.kind = e'.kind) ↔
      (Http.isSendable s.endpoint = Http.isSendable s'.endpoint →
        ConnectionFault.ofText s.address = ConnectionFault.ofText s'.address) := by
  constructor
  · intro hkind hsend
    have hkinds := hkind (offlineOpening s) (offlineOpening s') _ _ (failsAfter_offline hs)
      (failsAfter_offline hs') (offlineTrouble_alike hsend)
    rw [kind_connectionFailure, kind_connectionFailure, ofText_offlineFailure,
      ofText_offlineFailure] at hkinds
    exact ConnectionFault.kind_injective hkinds
  · intro haddress opening opening' e e' he he' halike
    obtain ⟨f, hopen, rfl⟩ := (failsAfter_iff hs).1 he
    obtain ⟨f', hopen', rfl⟩ := (failsAfter_iff hs').1 he'
    have hgives := gives_of_runs_openShell hopen
    have hgives' := gives_of_runs_openShell hopen'
    have hsend := hgives.isSendable_of_alike hgives' halike
    rw [kind_connectionFailure, kind_connectionFailure,
      ofText_alike hgives hgives' halike (haddress hsend)]

/-! ### A host that is called timeout -/

/-- A client for the host `win01`. -/
def win01 : Client Service :=
  { config := { target := "win01", username := "admin", password := "pw" } }

/-- The service of a host with a name. -/
def serviceAt (name : String) : Service where
  endpoint := { scheme := .http, host := .domain name, port := some 5985, path := "/wsman" }
  authentication := .basic "admin" "pw"
  operationTimeout := "PT60S"

theorem endpoint_of_read {config : Config} {u : Url}
    (h : Url.read config.scheme
      ("//" ++ config.hostText ++ ":" ++ toString config.port ++ "/wsman") = .ok u) :
    config.endpoint = .ok u := by
  unfold Config.endpoint
  rw [h]

theorem read_of_host {name : String} (h : name ∈ ["win01", "win02", "timeout"])
    (hhost : Url.Host.ofText name.toList = .ok (.domain name)) :
    Url.read .http ("//" ++ name ++ ":" ++ toString 5985 ++ "/wsman") =
      .ok (serviceAt name).endpoint := by
  have hsplit : ∀ name ∈ ["win01", "win02", "timeout"],
      Url.splitHost false (Url.splitLogin (Url.spanUntil Url.endsAuthority
        ((("//" ++ name ++ ":" ++ toString 5985 ++ "/wsman").toList.filter fun c =>
          c ≠ '\t' ∧ c ≠ '\n' ∧ c ≠ '\r').dropWhile Url.isSlash)).1).2 =
        (name.toList, ":5985".toList) := by decide +kernel
  unfold Url.read
  simp only [hsplit name h, hhost]
  simp only [List.mem_cons, List.not_mem_nil, or_false] at h
  rcases h with rfl | rfl | rfl <;> rfl

theorem service_onHost {name : String} (h : name ∈ ["win01", "win02", "timeout"]) :
    service (fun _ => none) (win01.onHost name).config = .ok (serviceAt name) := by
  have hname : ∀ name ∈ ["win01", "win02", "timeout"], name.toList ≠ [] ∧
      Utf8.decode? (Url.percentDecode (Utf8.encodeChars name.toList)) = some name ∧
      Url.Ipv4.isMeant name.toList = false ∧ name.toList.all Idna.plainChars.contains ∧
      Text.allBlank name = false ∧ (win01.onHost name).config.hostText = name := by decide +kernel
  obtain ⟨hne, hutf, hmeant, hplain, hblank, htext⟩ := hname name h
  have hplain : ∀ c ∈ name.toList, c ∈ Idna.plainChars := by simpa using hplain
  have hread := read_of_host h (Url.Host.ofText_plain hplain hne hutf hmeant)
  have hendpoint : (win01.onHost name).config.endpoint = .ok (serviceAt name).endpoint := by
    refine endpoint_of_read ?_
    rw [htext]
    exact hread
  have hlogin : checkLogin (win01.onHost name).config = .ok () := by
    rw [checkLogin, if_neg (by rw [Bool.not_eq_true]; exact hblank)]
    rfl
  have hauth : Authentication.ofName (fun _ => none) "admin" "pw" = .basic "admin" "pw" := by
    decide +kernel
  have htimeout : (win01.onHost name).config.operationTimeout = "PT60S" := by
    show "PT" ++ toString (max 60 1) ++ "S" = "PT60S"
    decide
  rw [service, hlogin, Service.ofConfig, hendpoint, htimeout]
  exact congrArg (fun a => Except.ok (Service.mk (serviceAt name).endpoint a "PT60S")) hauth

/-- Failures of a client for `win01` and for `win02` are of the same kind whenever opening their
shells ends alike. -/
theorem failure_kind_ignores_host_iff_plain :
    service (fun _ => none) win01.config = .ok (serviceAt "win01") ∧
      service (fun _ => none) (win01.onHost "win02").config = .ok (serviceAt "win02") ∧
      ∀ opening opening' e e', FailsAfter (fun _ => none) win01 opening e →
        FailsAfter (fun _ => none) (win01.onHost "win02") opening' e' →
        (Trouble.after opening).Alike (Trouble.after opening') → e.kind = e'.kind := by
  have hs : service (fun _ => none) win01.config = .ok (serviceAt "win01") :=
    service_onHost (by decide)
  have hs' : service (fun _ => none) (win01.onHost "win02").config = .ok (serviceAt "win02") :=
    service_onHost (by decide)
  exact ⟨hs, hs', (failure_kind_ignores_host_iff hs hs').2 fun _ => by decide +kernel⟩

/-- Without a network, a client for `win01` reports that it cannot connect, and the same client for
a host that is called `timeout` reports that the connection timed out. -/
theorem host_name_counts_as_timeout :
    let s := serviceAt "win01"
    let s' := serviceAt "timeout"
    service (fun _ => none) win01.config = .ok s ∧
      service (fun _ => none) (win01.onHost "timeout").config = .ok s' ∧
      (Trouble.after (offlineOpening s)).Alike (Trouble.after (offlineOpening s')) ∧
      FailsAfter (fun _ => none) win01 (offlineOpening s)
        { kind := .connectionFailed
          message := "failed to connect to win01:5985: WinRM request to " ++
            "http://win01:5985/wsman failed: error sending request for url " ++
            "(http://win01:5985/wsman): client error (Connect): tcp connect error: " ++
            "Network is unreachable (os error 101)" } ∧
      FailsAfter (fun _ => none) (win01.onHost "timeout") (offlineOpening s')
        { kind := .connectionTimeout
          message := "connection to timeout:5985 timed out: WinRM request to " ++
            "http://timeout:5985/wsman failed: error sending request for url " ++
            "(http://timeout:5985/wsman): client error (Connect): tcp connect error: " ++
            "Network is unreachable (os error 101)" } := by
  intro s s'
  have hs : service (fun _ => none) win01.config = .ok s := service_onHost (by decide)
  have hs' : service (fun _ => none) (win01.onHost "timeout").config = .ok s' :=
    service_onHost (by decide)
  have hfault : ofText (offlineFailure s).message = .other :=
    (ofText_offlineFailure s).trans (by decide +kernel)
  have hfault' : ofText (offlineFailure s').message = .timeout :=
    (ofText_offlineFailure s').trans (by decide +kernel)
  refine ⟨hs, hs', offlineTrouble_alike (by decide +kernel), ?_, ?_⟩
  · refine (failsAfter_iff hs).2 ⟨offlineFailure s, (runs_offline s).1, ?_⟩
    rw [connectionFailure_eq hfault]
    decide +kernel
  · refine (failsAfter_iff hs').2 ⟨offlineFailure s', (runs_offline s').1, ?_⟩
    rw [connectionFailure_eq hfault']
    decide +kernel

end Client

end RemoteHost.Winrm
