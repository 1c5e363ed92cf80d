/-
RemoteHost/Proofs/Winrm/AnsweredChallenge.lean

With NTLM an envelope goes out only together with the answer to a challenge.

An envelope takes two requests then.  The reply to the first one, which is empty, challenges the
client (`Challenges`) or does not, for a reason that can be named (`ChallengesNone`).  In the
first case the envelope follows with the answer to that very challenge, and in the second case
nothing follows and sending it fails (`envelope_only_answers_challenge`).

A request is what the program hands to its HTTP client here.  The client may follow a server that
sends it on to another place; what it sends there is part of carrying the request out, and nothing
is said about it.
-/
import RemoteHost.Proofs.Ntlm.OfferedChallenge
import RemoteHost.Proofs.Winrm.SendRuns

namespace RemoteHost.Winrm.Service

open Dialogue

variable {s : Service} {envelope : String} {t : List (Exchange HttpCall HttpCall.Reply)}

/-! ### Requests -/

/-- A request to the endpoint of a service. -/
def carrying (s : Service) (authorization body : String) : Http.Request where
  url := s.endpoint
  contentType := Protocol.contentType
  authorization := authorization
  body := body

/-- The request of a call, with the reply to it, if any. -/
def postOf? : Exchange HttpCall HttpCall.Reply →
    Option (Http.Request × Except (List String) Http.Response)
  | ⟨.post request, reply⟩ => some (request, reply)
  | _ => none

/-- The requests of some calls, with the replies to them, in order. -/
def postsOf (t : List (Exchange HttpCall HttpCall.Reply)) :
    List (Http.Request × Except (List String) Http.Response) := t.filterMap postOf?

/-- An empty request is not taken for an envelope that has something in it. -/
theorem body_ne_of_empty {authorization : String} (h : envelope ≠ "") :
    ¬ (s.carrying authorization "").body = envelope := fun hempty => h hempty.symm

/-- After an empty request, the one with the envelope is the only one that carries it. -/
theorem carried_once {first second : String} {reply reply' : Except (List String) Http.Response}
    (h : envelope ≠ "") :
    let posts := [(s.carrying first "", reply), (s.carrying second envelope, reply')]
    posts.countP (fun x => x.1.body = envelope) ≤ 1 ∧
      ∀ x ∈ posts, x.1.body = envelope → posts[1]? = some x := by
  have hfirst : ¬ (s.carrying first "").body = envelope := body_ne_of_empty h
  have hsecond : (s.carrying second envelope).body = envelope := rfl
  simp [hfirst, hsecond]

/-! ### Replies that challenge the client -/

/-- The reply challenges the client: it rejects the request, and the header for that can be read
and offers a challenge. -/
def Challenges (reply : Except (List String) Http.Response) (c : Ntlm.Challenge) : Prop :=
  ∃ response header, reply = .ok response ∧ response.status = 401 ∧
    response.header? "WWW-Authenticate" = some header ∧ Ntlm.Offers header c

/-- The reply does not challenge the client, for one of these reasons. -/
inductive ChallengesNone : Except (List String) Http.Response → Prop
  /-- There is no response. -/
  | unanswered (causes : List String) : ChallengesNone (.error causes)
  /-- The request is not rejected. -/
  | otherStatus {response : Http.Response} (h : response.status ≠ 401) :
      ChallengesNone (.ok response)
  /-- There is no header for the challenge, or it cannot be read. -/
  | noHeader {response : Http.Response} (h : response.header? "WWW-Authenticate" = none) :
      ChallengesNone (.ok response)
  /-- The header has no token, or one that is no challenge. -/
  | noChallenge {response : Http.Response} {header : String}
      (h : response.header? "WWW-Authenticate" = some header) (hnone : Ntlm.OffersNone header) :
      ChallengesNone (.ok response)

theorem ChallengesNone.not_challenges {reply : Except (List String) Http.Response}
    (h : ChallengesNone reply) (c : Ntlm.Challenge) : ¬ Challenges reply c := by
  rintro ⟨response, header, rfl, hstatus, hheader, hoffers⟩
  cases h with
  | otherStatus hne => exact hne hstatus
  | noHeader hnone =>
    rw [hheader] at hnone
    cases hnone
  | noChallenge hheader' hnone =>
    obtain rfl := Option.some.inj (hheader.symm.trans hheader')
    exact hnone.not_offers c hoffers

/-- What is taken for a challenge is one, and for what is not there is a reason. -/
theorem challengeIn_cases (s : Service) (reply : Except (List String) Http.Response) :
    (∃ c, s.arrived reply >>= challengeIn = .ok c ∧ Challenges reply c) ∨
      ∃ e, s.arrived reply >>= challengeIn = .error e ∧ ChallengesNone reply := by
  cases reply with
  | error causes => exact .inr ⟨_, rfl, .unanswered causes⟩
  | ok response =>
    show (∃ c, challengeIn response = .ok c ∧ _) ∨ ∃ e, challengeIn response = .error e ∧ _
    by_cases hstatus : response.status = 401
    · cases hheader : response.header? "WWW-Authenticate" with
      | none =>
        have hread : challengeIn response =
            .error (talkFailure "HTTP 401 Unauthorized without an NTLM challenge") := by
          simp only [challengeIn, hstatus, hheader]
          rfl
        exact .inr ⟨_, hread, .noHeader hheader⟩
      | some header =>
        have hread : challengeIn response = Ntlm.challengeOf header := by
          simp only [challengeIn, hstatus, hheader]
          rfl
        rw [hread]
        rcases Ntlm.challengeOf_cases header with ⟨c, hc, hoffers⟩ | ⟨e, he, hnone⟩
        · exact .inl ⟨c, hc, response, header, rfl, hstatus, hheader, hoffers⟩
        · exact .inr ⟨e, he, .noChallenge hheader hnone⟩
    · exact .inr ⟨_, if_pos hstatus, .otherStatus hstatus⟩

/-! ### Sending an envelope -/

/-- The courses of an envelope with NTLM: no request goes out, or only the empty one, whose
reply is no challenge, or the envelope follows with the answer to its challenge. -/
theorem posts_of_sendRun {login : Ntlm.Login} {r : Outcome String}
    (hauth : s.authentication = .ntlm login) (h : SendRun s envelope t r) :
    (t = [] ∧ ∃ e, r = .error e) ∨
      (∃ reply, t = [s.posted (Ntlm.headerOf Ntlm.negotiate) "" reply] ∧
        ChallengesNone reply ∧ ∃ e, r = .error e) ∨
      ∃ first c nonce secs nanos reply, Challenges first c ∧
        t = [s.posted (Ntlm.headerOf Ntlm.negotiate) "" first, ⟨.nonce, nonce⟩,
          ⟨.time, (secs, nanos)⟩,
          s.posted (Ntlm.headerOf (login.answer c nonce (Ntlm.fileTime secs nanos))) envelope
            reply] := by
  cases h with
  | unsendable hsend => exact .inl ⟨rfl, _, rfl⟩
  | basic reply hsend hbasic =>
    -- This is another way to authenticate.
    rw [hauth] at hbasic
    cases hbasic
  | unchallenged reply e hsend hauth' hreply =>
    refine .inr (.inl ⟨reply, rfl, ?_, e, rfl⟩)
    rcases challengeIn_cases s reply with ⟨c, hc, -⟩ | ⟨-, -, hnone⟩
    · rw [hreply] at hc
      cases hc
    · exact hnone
  | answered first challenge nonce secs nanos reply hsend hauth' hfirst =>
    obtain rfl := Authentication.ntlm.inj (hauth.symm.trans hauth')
    refine .inr (.inr ⟨first, challenge, nonce, secs, nanos, reply, ?_, rfl⟩)
    rcases challengeIn_cases s first with ⟨c, hc, hchallenges⟩ | ⟨e, he, -⟩
    · obtain rfl := Except.ok.inj (hfirst.symm.trans hc)
      exact hchallenges
    · rw [hfirst] at he
      cases he

/-- **With NTLM an envelope only goes out with the answer to a challenge.**  Whatever the server
does, sending an envelope ends, and the program hands at most two requests to its HTTP client, both
for the endpoint.  The first one is empty and carries the first message of the login.  The second
one carries the envelope and the third message, which answers the challenge in the reply to the
first one with the nonce and the time that were drawn in between; so the envelope is handed on once
at most.  If that reply does not challenge the client, because there is none, or it has another
status or no header that can be read, or the header has no token, or one that cannot be decoded or
is malformed, then the first request is the only one and sending the envelope fails.

The HTTP client may follow a server that sends it on and so repeat a request elsewhere.  These
repetitions are not counted. -/
theorem envelope_only_answers_challenge {ω : Type}
    (answer : (c : HttpCall) → ω → c.Reply × ω) (w : ω) (s : Service) (login : Ntlm.Login)
    (envelope : String) (hauth : s.authentication = .ntlm login) :
    let played := (s.send envelope).play answer w
    let posts := postsOf played.exchanges
    ∃ r, played.result? = some r ∧
      (∀ first, posts[0]? = some first →
        first.1 = s.carrying (Ntlm.headerOf Ntlm.negotiate) "") ∧
      (∀ second, posts[1]? = some second → ∃ first c nonce secs nanos,
        posts = [first, second] ∧ Challenges first.2 c ∧
        played.exchanges = [⟨.post first.1, first.2⟩, ⟨.nonce, nonce⟩, ⟨.time, (secs, nanos)⟩,
          ⟨.post second.1, second.2⟩] ∧
        second.1 = s.carrying
          (Ntlm.headerOf (login.answer c nonce (Ntlm.fileTime secs nanos))) envelope) ∧
      (envelope ≠ "" → posts.countP (fun x => x.1.body = envelope) ≤ 1 ∧
        ∀ x ∈ posts, x.1.body = envelope → posts[1]? = some x) ∧
      (∀ first, posts[0]? = some first → ChallengesNone first.2 →
        posts = [first] ∧ ∃ e, r = .error e) ∧
      (posts = [] → ∃ e, r = .error e) := by
  intro played posts
  obtain ⟨r, hr⟩ := (s.returns_send envelope).play answer w
  refine ⟨r, hr, ?_⟩
  have hcourse := posts_of_sendRun hauth (sendRun_of_runs (runs_of_play hr))
  rcases hcourse with ⟨ht, e, rfl⟩ | ⟨reply, ht, hnone, e, rfl⟩ |
    ⟨first, c, nonce, secs, nanos, reply, hchallenges, ht⟩
  · have hposts : posts = [] := congrArg postsOf ht
    simp [hposts]
  · have hposts : posts = [(s.carrying (Ntlm.headerOf Ntlm.negotiate) "", reply)] :=
      congrArg postsOf ht
    rw [hposts]
    refine ⟨?_, nofun, ?_, ?_, nofun⟩
    · rintro _ ⟨⟩
      rfl
    · intro hne
      simp [body_ne_of_empty hne]
    · rintro _ ⟨⟩ -
      exact ⟨rfl, e, rfl⟩
  · have hposts : posts = [(s.carrying (Ntlm.headerOf Ntlm.negotiate) "", first),
        (s.carrying (Ntlm.headerOf (login.answer c nonce (Ntlm.fileTime secs nanos))) envelope,
          reply)] := congrArg postsOf ht
    rw [hposts]
    refine ⟨?_, ?_, carried_once, ?_, nofun⟩
    · rintro _ ⟨⟩
      rfl
    · rintro _ ⟨⟩
      exact ⟨_, c, nonce, secs, nanos, rfl, hchallenges, ht, rfl⟩
    -- A reply that challenges the client has no reason against it.
    · rintro _ ⟨⟩ hnone
      exact absurd hchallenges (hnone.not_challenges c)

/-- A server that challenges the client first and then accepts what it sends, to a client
without chance and clock. -/
def challenger : (c : HttpCall) → (asked : Bool) → c.Reply × Bool
  | .post _, false =>
    (.ok { status := 401
           headers := [("Server", "HTTPAPI"),
             ("www-authenticate",
               "Basic, NTLM TlRMTVNTUAACAAAAAAAAAAAAAAAHggigAQEBAQEBAQE=, Kerberos")]
           body := .ok [] }, true)
  | .post _, true => (.ok { status := 200, body := .ok [] }, true)
  | .nonce, asked => (List.replicate 8 0, asked)
  | .messageId, asked => (List.replicate 16 0, asked)
  | .time, asked => ((0, 0), asked)
  | .localFile _, asked => (.error "no file", asked)
  | .report _, asked => ((), asked)

/-- A service with a plain endpoint and a login of a domain. -/
def inDomain : Service where
  endpoint := { scheme := .http, host := .domain "win01", port := some 5985, path := "/wsman" }
  authentication := .ntlm
    { domain := "LAB", user := "admin", password := "pw", workstation := "WS" }
  operationTimeout := "PT60S"

/-- A challenge among others is answered, and the envelope goes out with the answer. -/
theorem envelope_only_answers_challenge_among_others :
    let login : Ntlm.Login :=
      { domain := "LAB", user := "admin", password := "pw", workstation := "WS" }
    let posts := postsOf ((inDomain.send "<ping/>").play challenger false).exchanges
    inDomain.authentication = .ntlm login ∧ ∃ first second c nonce secs nanos,
      posts = [first, second] ∧ Challenges first.2 c ∧
      second.1 = inDomain.carrying
        (Ntlm.headerOf (login.answer c nonce (Ntlm.fileTime secs nanos))) "<ping/>" := by
  intro login posts
  obtain ⟨r, -, -, hsecond, -⟩ :=
    envelope_only_answers_challenge challenger false inDomain login "<ping/>" rfl
  have htwo : posts[1]?.isSome := by decide +kernel
  obtain ⟨second, hposts⟩ := Option.isSome_iff_exists.1 htwo
  obtain ⟨first, c, nonce, secs, nanos, hboth, hchallenges, -, hanswer⟩ := hsecond second hposts
  exact ⟨rfl, first, second, c, nonce, secs, nanos, hboth, hchallenges, hanswer⟩

end RemoteHost.Winrm.Service
