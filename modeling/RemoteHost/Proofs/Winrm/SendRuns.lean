/-
RemoteHost/Proofs/Winrm/SendRuns.lean

What goes over the wire for an envelope.

With Basic an envelope takes one request.  With NTLM it takes two, and the first one, which is
empty, may be the last: then the server has not challenged the client, and the envelope stays
where it is.  `SendRun` lists these courses with what comes of each, and they are all there are
(`sendRun_of_runs`).
-/
import RemoteHost.Proofs.Dialogue
import RemoteHost.Winrm.Service

namespace RemoteHost.Winrm.Service

open Dialogue

variable {s : Service} {authorization body envelope : String}
  {t : List (Exchange HttpCall HttpCall.Reply)}

/-! ### Requests -/

/-- A request to the endpoint of a service, with the reply to it. -/
def posted (s : Service) (authorization body : String)
    (reply : Except (List String) Http.Response) : Exchange HttpCall HttpCall.Reply :=
  ⟨.post { url := s.endpoint, contentType := Protocol.contentType, authorization, body }, reply⟩

/-- The response in a reply, or the failure to get one. -/
def arrived (s : Service) : Except (List String) Http.Response → Outcome Http.Response
  | .ok response => .ok response
  | .error causes => .error (s.unsent (Http.unanswered s.endpoint causes))

theorem runs_post {r : Outcome Http.Response} :
    Runs (s.post authorization body) t r ↔
      (Http.isSendable s.endpoint = false ∧ t = [] ∧
        r = .error (s.unsent (Http.unsendable s.endpoint))) ∨
      (Http.isSendable s.endpoint ∧ ∃ reply, t = [s.posted authorization body reply] ∧
        r = s.arrived reply) := by
  unfold post
  cases hsend : Http.isSendable s.endpoint with
  | false =>
    rw [if_neg Bool.false_ne_true]
    simp
  | true =>
    rw [if_pos rfl]
    show Runs (.ask _ fun reply => _) t r ↔ _
    rw [runs_ask]
    constructor
    · rintro ⟨reply, t', rfl, h⟩
      refine .inr ⟨rfl, reply, ?_⟩
      cases reply with
      | ok response =>
        obtain ⟨rfl, rfl⟩ := runs_done.1 h
        exact ⟨rfl, rfl⟩
      | error causes =>
        obtain ⟨rfl, rfl⟩ := runs_done.1 h
        exact ⟨rfl, rfl⟩
    · rintro (⟨hfalse, -⟩ | ⟨-, reply, rfl, rfl⟩)
      · cases hfalse
      · refine ⟨reply, [], rfl, ?_⟩
        cases reply <;> exact .done _

theorem returns_post (s : Service) (authorization body : String) :
    Returns (s.post authorization body) := by
  unfold post
  split
  · refine .ask fun reply => ?_
    cases reply with
    | ok response => exact .done _
    | error causes => exact .done _
  · exact .done _

/-- A request, and then whatever is done with what comes of it. -/
theorem runs_post_bind {α : Type} {next : Outcome Http.Response → HttpTalk α} {a : α}
    (h : Runs (s.post authorization body >>= next) t a) :
    (Http.isSendable s.endpoint = false ∧
        Runs (next (.error (s.unsent (Http.unsendable s.endpoint)))) t a) ∨
      (Http.isSendable s.endpoint ∧ ∃ reply t', t = s.posted authorization body reply :: t' ∧
        Runs (next (s.arrived reply)) t' a) := by
  obtain ⟨t₁, t₂, r, rfl, h₁, h₂⟩ := runs_bind.1 h
  rcases runs_post.1 h₁ with ⟨hsend, rfl, rfl⟩ | ⟨hsend, reply, rfl, rfl⟩
  · exact .inl ⟨hsend, h₂⟩
  · exact .inr ⟨hsend, reply, t₂, rfl, h₂⟩

/-! ### Envelopes -/

/-- The courses that sending an envelope takes, with what comes of them. -/
inductive SendRun (s : Service) (envelope : String) :
    List (Exchange HttpCall HttpCall.Reply) → Outcome String → Prop
  /-- No request can be sent to the endpoint. -/
  | unsendable (hsend : Http.isSendable s.endpoint = false) :
      SendRun s envelope [] (.error (s.unsent (Http.unsendable s.endpoint)))
  /-- The envelope goes out with the name and the password. -/
  | basic {username password : String} (reply : Except (List String) Http.Response)
      (hsend : Http.isSendable s.endpoint)
      (hauth : s.authentication = .basic username password) :
      SendRun s envelope [s.posted (Authentication.basicHeader username password) envelope reply]
        (s.arrived reply >>= s.conclude)
  /-- The server does not challenge the client. -/
  | unchallenged {login : Ntlm.Login} (reply : Except (List String) Http.Response) (e : Failure)
      (hsend : Http.isSendable s.endpoint) (hauth : s.authentication = .ntlm login)
      (hreply : s.arrived reply >>= challengeIn = .error e) :
      SendRun s envelope [s.posted (Ntlm.headerOf Ntlm.negotiate) "" reply] (.error e)
  /-- The envelope goes out with the answer to a challenge. -/
  | answered {login : Ntlm.Login} (first : Except (List String) Http.Response)
      (challenge : Ntlm.Challenge) (nonce : Bytes) (secs : Int) (nanos : Nat)
      (reply : Except (List String) Http.Response) (hsend : Http.isSendable s.endpoint)
      (hauth : s.authentication = .ntlm login)
      (hfirst : s.arrived first >>= challengeIn = .ok challenge) :
      SendRun s envelope
        [s.posted (Ntlm.headerOf Ntlm.negotiate) "" first, ⟨.nonce, nonce⟩, ⟨.time, (secs, nanos)⟩,
          s.posted (Ntlm.headerOf (login.answer challenge nonce (Ntlm.fileTime secs nanos)))
            envelope reply]
        (s.arrived reply >>= s.conclude)

/-- The login goes out only as the answer to a challenge. -/
theorem runs_authorize_ntlm {login : Ntlm.Login} {r : Outcome String}
    (hauth : s.authentication = .ntlm login) (h : Runs s.authorize t r) :
    (Http.isSendable s.endpoint = false ∧ t = [] ∧
        r = .error (s.unsent (Http.unsendable s.endpoint))) ∨
      (Http.isSendable s.endpoint ∧ ∃ first,
        let asked := s.posted (Ntlm.headerOf Ntlm.negotiate) "" first
        (∃ e, s.arrived first >>= challengeIn = .error e ∧ t = [asked] ∧ r = .error e) ∨
        ∃ challenge nonce secs nanos, s.arrived first >>= challengeIn = .ok challenge ∧
          t = [asked, ⟨.nonce, nonce⟩, ⟨.time, (secs, nanos)⟩] ∧
          r = .ok (Ntlm.headerOf (login.answer challenge nonce (Ntlm.fileTime secs nanos)))) := by
  unfold authorize at h
  simp only [hauth] at h
  rcases runs_post_bind h with ⟨hsend, h₁⟩ | ⟨hsend, first, t', rfl, h₁⟩
  · exact .inl ⟨hsend, runs_done.1 h₁⟩
  refine .inr ⟨hsend, first, ?_⟩
  cases harrived : s.arrived first with
  | error e =>
    rw [harrived] at h₁
    obtain ⟨rfl, rfl⟩ := runs_done.1 h₁
    exact .inl ⟨e, rfl, rfl, rfl⟩
  | ok response =>
    show (∃ e, challengeIn response = .error e ∧ _) ∨
      ∃ challenge nonce secs nanos, challengeIn response = .ok challenge ∧ _
    cases hchallenge : challengeIn response with
    | error e =>
      simp only [harrived, hchallenge] at h₁
      obtain ⟨rfl, rfl⟩ := runs_done.1 h₁
      exact .inl ⟨e, rfl, rfl, rfl⟩
    | ok challenge =>
      simp only [harrived, hchallenge] at h₁
      obtain ⟨nonce, t₁, rfl, h₂⟩ := runs_call.1 h₁
      obtain ⟨⟨secs, nanos⟩, t₂, rfl, h₃⟩ := runs_call.1 h₂
      obtain ⟨rfl, rfl⟩ := runs_done.1 h₃
      exact .inr ⟨challenge, nonce, secs, nanos, rfl, rfl, rfl⟩

/-- A request with an envelope, and what is concluded from the response. -/
theorem runs_post_conclude {r : Outcome String}
    (h : Runs (do
      match ← s.post authorization envelope with
      | .error e => pure (.error e)
      | .ok response => pure (s.conclude response)) t r) :
    (Http.isSendable s.endpoint = false ∧ t = [] ∧
        r = .error (s.unsent (Http.unsendable s.endpoint))) ∨
      (Http.isSendable s.endpoint ∧ ∃ reply, t = [s.posted authorization envelope reply] ∧
        r = s.arrived reply >>= s.conclude) := by
  rcases runs_post_bind h with ⟨hsend, h₁⟩ | ⟨hsend, reply, t', rfl, h₁⟩
  · exact .inl ⟨hsend, runs_done.1 h₁⟩
  · refine .inr ⟨hsend, reply, ?_⟩
    cases harrived : s.arrived reply with
    | error e =>
      rw [harrived] at h₁
      obtain ⟨rfl, rfl⟩ := runs_done.1 h₁
      exact ⟨rfl, rfl⟩
    | ok response =>
      rw [harrived] at h₁
      obtain ⟨rfl, rfl⟩ := runs_done.1 h₁
      exact ⟨rfl, rfl⟩

/-- An envelope takes one of these courses. -/
theorem sendRun_of_runs {r : Outcome String} (h : Runs (s.send envelope) t r) :
    SendRun s envelope t r := by
  obtain ⟨t₁, t₂, authorized, rfl, h₁, h₂⟩ := runs_bind.1 h
  cases hauth : s.authentication with
  | basic username password =>
    unfold authorize at h₁
    simp only [hauth] at h₁
    obtain ⟨rfl, rfl⟩ := runs_done.1 h₁
    rcases runs_post_conclude h₂ with ⟨hsend, rfl, rfl⟩ | ⟨hsend, reply, rfl, rfl⟩
    · exact .unsendable hsend
    · exact .basic reply hsend hauth
  | ntlm login =>
    rcases runs_authorize_ntlm hauth h₁ with ⟨hsend, rfl, rfl⟩ |
      ⟨hsend, first, ⟨e, hfirst, rfl, rfl⟩ | ⟨challenge, nonce, secs, nanos, hfirst, rfl, rfl⟩⟩
    · obtain ⟨rfl, rfl⟩ := runs_done.1 h₂
      exact .unsendable hsend
    · obtain ⟨rfl, rfl⟩ := runs_done.1 h₂
      exact .unchallenged first e hsend hauth hfirst
    · rcases runs_post_conclude h₂ with ⟨hsend', -⟩ | ⟨-, reply, rfl, rfl⟩
      -- The endpoint is the one that the first request was sent to.
      · rw [hsend] at hsend'
        cases hsend'
      · exact .answered first challenge nonce secs nanos reply hsend hauth hfirst

theorem returns_authorize (s : Service) : Returns s.authorize := by
  unfold authorize
  split
  · exact .done _
  · refine (s.returns_post _ _).bind fun arrival => ?_
    cases arrival with
    | error e => exact .done _
    | ok response =>
      dsimp only
      cases challengeIn response with
      | error e => exact .done _
      | ok challenge => exact .ask fun _ => .ask fun _ => .done _

/-- Sending an envelope never breaks off. -/
theorem returns_send (s : Service) (envelope : String) : Returns (s.send envelope) := by
  refine s.returns_authorize.bind fun authorized => ?_
  cases authorized with
  | error e => exact .done _
  | ok authorization =>
    refine (s.returns_post authorization envelope).bind fun arrival => ?_
    cases arrival with
    | error e => exact .done _
    | ok response => exact .done _

theorem returns_request (s : Service) (request : Request) : Returns (s.request request) :=
  .ask fun _ => s.returns_send _

/-- A request of its own takes one of these courses, after its number was drawn. -/
theorem sendRun_of_runs_request {request : Request} {r : Outcome String}
    (h : Runs (s.request request) t r) :
    ∃ random t', t = ⟨.messageId, random⟩ :: t' ∧
      SendRun s (request.envelope s.address s.operationTimeout (Uuid.ofRandom random)) t' r := by
  obtain ⟨random, t', rfl, h₁⟩ := runs_call.1 h
  exact ⟨random, t', rfl, sendRun_of_runs h₁⟩

end RemoteHost.Winrm.Service
