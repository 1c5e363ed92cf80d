/-
RemoteHost/Proofs/Winrm/ChallengeLines.lean

A challenge among the lines of a response.

A server may offer its schemes in one header line or in several, and the challenge of the NTLM login
may be any part of any of them (`SoleChallenge`).  Inside a line the parts are gone through in turn, so
there it does not matter what else is offered.  Of the lines only the first one is looked at
(`header?_eq`).  So the challenge is answered, and the envelope goes out, just where it stands in the
first line and that line can be read (`challenge_answered_iff_first`).  A challenge behind a line for
another scheme is not found (`challenge_behind_another_line`).
-/
import RemoteHost.Proofs.Winrm.AnsweredChallenge

namespace RemoteHost

/-! ### Lines of a response -/

namespace Http

/-- The lines of the headers with a name, in order. -/
def Response.lines (r : Response) (name : String) : List String :=
  (r.headers.filter fun h => Text.toLowerAscii h.1 == Text.toLowerAscii name).map Prod.snd

/-- A line that can be read as text. -/
def isReadable (line : String) : Bool := line.toList.all isHeaderChar

/-- The value of a header is its first line, if that can be read. -/
theorem Response.header?_eq (r : Response) (name : String) :
    r.header? name = (r.lines name).head?.filter isReadable := by
  unfold Response.lines
  rw [List.head?_map, List.head?_filter, Response.header?]
  cases r.headers.find? fun h => Text.toLowerAscii h.1 == Text.toLowerAscii name with
  | none => rfl
  | some h =>
    rw [Option.map_some, Option.filter_some]
    rfl

end Http

/-! ### One challenge in all lines -/

namespace Ntlm

variable {before after : List String} {line : String} {c c' : Challenge}

/-- The parts of a line. -/
def partsOf (line : String) : List (List Char) := line.toList.splitOn ','

/-- None of these parts carries a token. -/
def Tokenless (parts : List (List Char)) : Prop := ∀ part ∈ parts, ∀ token, ¬ CarriesToken part token

/-- Of all the parts of some lines, one part of this line is the only one that carries a token, and
its token is the base64 of a challenge. -/
def SoleChallenge (before : List String) (line : String) (after : List String) (c : Challenge) :
    Prop :=
  ∃ front part back token message, partsOf line = front ++ part :: back ∧
    CarriesToken part token ∧ tokenMessage token = .ok message ∧ Challenge.read message = .ok c ∧
    Tokenless (before.flatMap partsOf ++ (front ++ (back ++ after.flatMap partsOf)))

/-- A line offers one challenge at most. -/
theorem Offers.unique (h : Offers line c) (h' : Offers line c') : c = c' := by
  obtain ⟨token, message, htoken, hmessage, hread⟩ := h
  obtain ⟨token', message', htoken', hmessage', hread'⟩ := h'
  obtain rfl := htoken.unique htoken'
  obtain rfl := Except.ok.inj (hmessage.symm.trans hmessage')
  exact Except.ok.inj (hread.symm.trans hread')

theorem SoleChallenge.offers (h : SoleChallenge before line after c) : Offers line c := by
  obtain ⟨front, part, back, token, message, hparts, htoken, hmessage, hread, hnone⟩ := h
  refine ⟨token, message, ⟨front, part, back, hparts, htoken, ?_⟩, hmessage, hread⟩
  intro p hp
  exact hnone p (List.mem_append_right _ (List.mem_append_left _ hp))

/-- The lines in front offer nothing. -/
theorem SoleChallenge.not_offers (h : SoleChallenge before line after c) {l : String}
    (hl : l ∈ before) : ¬ Offers l c' := by
  obtain ⟨front, part, back, token, message, -, -, -, -, hnone⟩ := h
  rintro ⟨token', -, ⟨front', part', back', hparts, htoken, -⟩, -⟩
  have hpart : part' ∈ partsOf l := by
    rw [show partsOf l = front' ++ part' :: back' from hparts]
    exact List.mem_append_right front' List.mem_cons_self
  have hmem : part' ∈ before.flatMap partsOf := List.mem_flatMap.2 ⟨l, hl, hpart⟩
  exact hnone part' (List.mem_append_left _ hmem) token' htoken

end Ntlm

/-! ### Answering the challenge -/

namespace Winrm.Service

open Dialogue Http Ntlm

variable {response : Response} {before after : List String} {line : String} {c c' : Challenge}

/-- The only challenge in a response that rejects the request challenges the client where it stands
in the first line, if that can be read. -/
theorem challenges_iff_of_sole (hstatus : response.status = 401)
    (hlines : response.lines "WWW-Authenticate" = before ++ line :: after)
    (hsole : SoleChallenge before line after c) :
    Challenges (.ok response) c' ↔ c' = c ∧ before = [] ∧ isReadable line := by
  have hheader := response.header?_eq "WWW-Authenticate"
  rw [hlines] at hheader
  cases before with
  | nil =>
    have hfirst : response.header? "WWW-Authenticate" =
        if isReadable line then some line else none := hheader
    constructor
    · rintro ⟨_, header, ⟨⟩, -, hsome, hoffers⟩
      rw [hfirst, Option.ite_none_right_eq_some] at hsome
      obtain ⟨hread, hline⟩ := hsome
      obtain rfl := Option.some.inj hline
      exact ⟨hoffers.unique hsole.offers, rfl, hread⟩
    · rintro ⟨rfl, -, hread⟩
      rw [if_pos hread] at hfirst
      exact ⟨response, line, rfl, hstatus, hfirst, hsole.offers⟩
  | cons l before =>
    constructor
    · rintro ⟨_, header, ⟨⟩, -, hsome, hoffers⟩
      -- Whatever is read is the first line, and that is another one.
      have hfirst : response.header? "WWW-Authenticate" =
          if isReadable l then some l else none := hheader
      rw [hfirst, Option.ite_none_right_eq_some] at hsome
      obtain rfl := Option.some.inj hsome.2
      exact absurd hoffers (hsole.not_offers List.mem_cons_self)
    · rintro ⟨-, hnil, -⟩
      cases hnil

/-- The exchanges in which a challenge is answered: the empty request with its reply, the nonce and
the time, and the envelope with the answer. -/
def Answering (s : Service) (login : Login) (envelope : String) (response : Response)
    (c : Challenge) (t : List (Exchange HttpCall HttpCall.Reply)) : Prop :=
  ∃ nonce secs nanos reply,
    t = [s.posted (headerOf negotiate) "" (.ok response), ⟨.nonce, nonce⟩, ⟨.time, (secs, nanos)⟩,
      s.posted (headerOf (login.answer c nonce (fileTime secs nanos))) envelope reply]

/-- **A challenge is answered where it stands in the first line.**  A server rejects the empty
request of an NTLM login.  In all the header lines of its response, which may offer any other
schemes in any order, one part carries the token of a challenge, and no other part carries a token.
Then sending the envelope ends, and the envelope goes out with the answer to that challenge if and
only if the line with the challenge is the first one and can be read.  Otherwise no other request
goes out, and sending the envelope fails. -/
theorem challenge_answered_iff_first {ω : Type} (answer : (c : HttpCall) → ω → c.Reply × ω) (w : ω)
    (s : Service) (login : Login) (envelope : String) (request : Http.Request)
    (response : Response) (before after : List String) (line : String) (c : Challenge)
    (hauth : s.authentication = .ntlm login) :
    let played := (s.send envelope).play answer w
    (postsOf played.exchanges)[0]? = some (request, .ok response) → response.status = 401 →
      response.lines "WWW-Authenticate" = before ++ line :: after →
      SoleChallenge before line after c →
      ∃ r, played.result? = some r ∧
        (Answering s login envelope response c played.exchanges ↔
          before = [] ∧ isReadable line) ∧
        (¬ (before = [] ∧ isReadable line) →
          postsOf played.exchanges = [(request, .ok response)] ∧ ∃ e, r = .error e) := by
  intro played hfirst hstatus hlines hsole
  obtain ⟨r, hr⟩ := (s.returns_send envelope).play answer w
  refine ⟨r, hr, ?_⟩
  have hchallenges {c' : Challenge} : Challenges (.ok response) c' ↔ _ :=
    challenges_iff_of_sole hstatus hlines hsole
  rcases posts_of_sendRun hauth (sendRun_of_runs (runs_of_play hr)) with ⟨ht, -⟩ |
    ⟨reply, ht, hnone, e, rfl⟩ | ⟨first, c', nonce, secs, nanos, reply, hfound, ht⟩
  · -- The endpoint takes no request, but there was one.
    rw [show played.exchanges = [] from ht] at hfirst
    cases hfirst
  · rw [show played.exchanges = _ from ht] at hfirst ⊢
    obtain ⟨rfl, rfl⟩ := Prod.mk.inj (Option.some.inj hfirst)
    have hnot : ¬ (before = [] ∧ isReadable line) := fun h =>
      hnone.not_challenges c (hchallenges.2 ⟨rfl, h⟩)
    refine ⟨iff_of_false ?_ hnot, fun _ => ⟨rfl, e, rfl⟩⟩
    rintro ⟨_, _, _, _, hanswered⟩
    cases hanswered
  · rw [show played.exchanges = _ from ht] at hfirst ⊢
    obtain ⟨rfl, rfl⟩ := Prod.mk.inj (Option.some.inj hfirst)
    obtain ⟨rfl, hplace⟩ := hchallenges.1 hfound
    exact ⟨iff_of_true ⟨nonce, secs, nanos, reply, rfl⟩ hplace, fun hnot => absurd hplace hnot⟩

/-- The empty request goes out first. -/
theorem exists_exchanges_send {ω : Type} (answer : (c : HttpCall) → ω → c.Reply × ω) (w : ω)
    {s : Service} {login : Login} (hauth : s.authentication = .ntlm login)
    (hsend : isSendable s.endpoint) (envelope : String) :
    ∃ rest, ((s.send envelope).play answer w).exchanges =
      s.posted (headerOf negotiate) ""
        (answer (.post (s.carrying (headerOf negotiate) "")) w).1 :: rest := by
  unfold send authorize post
  simp only [hauth, if_pos hsend]
  exact ⟨_, rfl⟩

/-! ### Servers that offer more than one scheme -/

/-- A response that rejects a request and offers schemes in some lines. -/
def rejection (offered : List String) : Response where
  status := 401
  headers := offered.map fun line => ("www-authenticate", line)
  body := .ok []

theorem lines_rejection (offered : List String) :
    (rejection offered).lines "WWW-Authenticate" = offered := by
  have hname : Text.toLowerAscii "www-authenticate" = Text.toLowerAscii "WWW-Authenticate" := by
    decide
  induction offered with
  | nil => rfl
  | cons line offered ih =>
    have hkept : ((rejection (line :: offered)).headers.filter fun h =>
        Text.toLowerAscii h.1 == Text.toLowerAscii "WWW-Authenticate") =
          ("www-authenticate", line) :: (rejection offered).headers.filter fun h =>
            Text.toLowerAscii h.1 == Text.toLowerAscii "WWW-Authenticate" :=
      List.filter_cons_of_pos (beq_iff_eq.2 hname)
    rw [Response.lines, hkept, List.map_cons, ← Response.lines, ih]

/-- A server that offers schemes in some lines and then accepts what the client sends. -/
def offering (offered : List String) : (c : HttpCall) → (asked : Bool) → c.Reply × Bool
  | .post _, false => (.ok (rejection offered), true)
  | call, asked => challenger call asked

/-- The login of the service `inDomain`. -/
def labLogin : Login :=
  { domain := "LAB", user := "admin", password := "pw", workstation := "WS" }

/-- A challenge as it is read, as a message and as a token. -/
def plainChallenge : Challenge := ⟨0xa0088207, List.replicate 8 1, []⟩

/-- The message of the challenge. -/
def plainMessage : Bytes :=
  front .challenge ++ List.replicate 8 0 ++ [0x07, 0x82, 0x08, 0xa0] ++ List.replicate 8 1

/-- The token of the challenge. -/
def plainToken : String := "TlRMTVNTUAACAAAAAAAAAAAAAAAHggigAQEBAQEBAQE="

/-- A line that offers the challenge among other schemes. -/
def busyLine : String := "Kerberos, Negotiate, NTLM " ++ plainToken ++ ", Basic realm=\"a\""

theorem tokenless_iff {parts : List (List Char)} :
    Tokenless parts ↔ parts.all fun part => (tokenOf? part).isNone := by
  simp only [Tokenless, ← tokenOf?_eq_some_iff, List.all_eq_true, Option.isNone_iff_eq_none,
    Option.eq_none_iff_forall_ne_some, ne_eq]

theorem tokenless_append {p q : List (List Char)} (hp : Tokenless p) (hq : Tokenless q) :
    Tokenless (p ++ q) := by
  intro part hpart
  rcases List.mem_append.1 hpart with h | h
  · exact hp part h
  · exact hq part h

/-- The line has the only challenge where the other lines carry no token. -/
theorem soleChallenge_busyLine {before after : List String}
    (hbefore : Tokenless (before.flatMap partsOf)) (hafter : Tokenless (after.flatMap partsOf)) :
    SoleChallenge before busyLine after plainChallenge := by
  have hparts : partsOf busyLine = ["Kerberos".toList, " Negotiate".toList] ++
      (" NTLM " ++ plainToken).toList :: [" Basic realm=\"a\"".toList] := by decide +kernel
  have htoken : tokenOf? (" NTLM " ++ plainToken).toList = some plainToken := by decide +kernel
  have hmessage : tokenMessage plainToken = .ok plainMessage := by rfl
  have hread : Challenge.read plainMessage = .ok plainChallenge := by rfl
  have hfront : Tokenless ["Kerberos".toList, " Negotiate".toList] :=
    tokenless_iff.2 (by decide +kernel)
  have hback : Tokenless [" Basic realm=\"a\"".toList] := tokenless_iff.2 (by decide +kernel)
  exact ⟨_, _, _, plainToken, plainMessage, hparts, tokenOf?_eq_some_iff.1 htoken, hmessage, hread,
    tokenless_append hbefore (tokenless_append hfront (tokenless_append hback hafter))⟩

/-- A challenge in the first line is answered, whatever else that line and the next one offer. -/
theorem challenge_answered_iff_first_busy :
    let after := ["Digest realm=\"b\", qop=\"auth\""]
    let response := rejection (busyLine :: after)
    let played := (inDomain.send "<ping/>").play (offering (busyLine :: after)) false
    inDomain.authentication = .ntlm labLogin ∧
      (postsOf played.exchanges)[0]? =
        some (inDomain.carrying (headerOf negotiate) "", .ok response) ∧
      response.status = 401 ∧ response.lines "WWW-Authenticate" = [] ++ busyLine :: after ∧
      SoleChallenge [] busyLine after plainChallenge ∧
      Answering inDomain labLogin "<ping/>" response plainChallenge played.exchanges := by
  intro after response played
  have hsend : isSendable inDomain.endpoint := by decide +kernel
  obtain ⟨rest, hplayed⟩ :=
    exists_exchanges_send (offering (busyLine :: after)) false rfl hsend "<ping/>"
  have hfirst : (postsOf played.exchanges)[0]? =
      some (inDomain.carrying (headerOf negotiate) "", .ok response) := by
    rw [show played.exchanges = _ from hplayed]
    rfl
  have hlines : response.lines "WWW-Authenticate" = [] ++ busyLine :: after := lines_rejection _
  have hsole : SoleChallenge [] busyLine after plainChallenge :=
    soleChallenge_busyLine (tokenless_iff.2 rfl) (tokenless_iff.2 (by decide +kernel))
  obtain ⟨r, -, hiff, -⟩ := challenge_answered_iff_first (offering (busyLine :: after)) false
    inDomain labLogin "<ping/>" _ response [] after busyLine plainChallenge rfl hfirst rfl hlines
    hsole
  exact ⟨rfl, hfirst, rfl, hlines, hsole, hiff.2 ⟨rfl, by decide +kernel⟩⟩

/-- A challenge behind a line for another scheme is not found: nothing follows the empty request, and
sending the envelope fails. -/
theorem challenge_behind_another_line :
    let before := ["Basic realm=\"a\""]
    let response := rejection (before ++ [busyLine])
    let played := (inDomain.send "<ping/>").play (offering (before ++ [busyLine])) false
    response.status = 401 ∧ response.lines "WWW-Authenticate" = before ++ [busyLine] ∧
      SoleChallenge before busyLine [] plainChallenge ∧
      postsOf played.exchanges = [(inDomain.carrying (headerOf negotiate) "", .ok response)] ∧
      played.result? = some (.error (talkFailure
        "server did not send an NTLM challenge (WWW-Authenticate: Basic realm=\"a\")")) := by
  intro before response played
  refine ⟨rfl, lines_rejection _,
    soleChallenge_busyLine (tokenless_iff.2 (by decide +kernel)) (tokenless_iff.2 rfl), ?_, ?_⟩
  · rfl
  · rfl

end Winrm.Service

end RemoteHost
