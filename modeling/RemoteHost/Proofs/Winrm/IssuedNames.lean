/-
RemoteHost/Proofs/Winrm/IssuedNames.lean

The names that the service gives to shells and commands, and the names that go back to it.

A response has a few places where a name may stand, and the first of them that there is in it decides
(`Place`, `Naming`).  The name is taken from there as it stands, in its escaped form
(`shellId?_text`, `commandId?_text`).  From then on every request is about the shell and the command
of that name (`Follow`, `course_session`), and its envelope escapes the name once more.  So the
service gets back the names that it gave just where escaping leaves them as they are
(`issued_names_come_back_iff`); a name with an ampersand does not come back
(`ampersand_is_escaped_twice`).
-/
import RemoteHost.Proofs.Winrm.CommandRun
import RemoteHost.Proofs.Winrm.EnvelopeValues

namespace RemoteHost.Winrm

open Text

/-! ### Places for a name -/

/-- A place in a response where a name may stand: in an attribute, or behind a tag. -/
inductive Place where
  | inAttribute (name : String)
  | behindTag (tag : String)

namespace Place

/-- What stands in front of the name. -/
def mark : Place → List Char
  | inAttribute name => (name ++ "=\"").toList
  | behindTag tag => tag.toList

/-- The character that ends the name. -/
def stop : Place → Char
  | inAttribute _ => '"'
  | behindTag _ => '<'

/-- What is read at a place. -/
def value? : Place → List Char → Option (List Char)
  | inAttribute name => Response.attribute? name
  | behindTag tag => Response.textAfter? tag

/-- A response with an escaped name at a place. -/
def response (p : Place) (lead : List Char) (name : String) (trail : List Char) : List Char :=
  lead ++ (p.mark ++ ((Xml.escape name).toList ++ p.stop :: trail))

/-- What stands in front of the name begins with a character that it has only once. -/
def beginsOnce (p : Place) : Bool :=
  match p.mark with
  | a :: s => !s.contains a
  | [] => false

end Place

/-- The places for the name of a shell, in the order in which they count. -/
def shellPlaces : List Place :=
  [.inAttribute "ShellId", .behindTag "<rsp:ShellId>", .behindTag "<w:Selector Name=\"ShellId\">"]

/-- The places for the name of a command. -/
def commandPlaces : List Place := [.inAttribute "CommandId", .behindTag "<rsp:CommandId>"]

/-- A response that gives a name.  The name stands, escaped, at the first of the places that there
is in the response. -/
structure Naming (places : List Place) where
  name : String
  name_ne : name ≠ ""
  trimmed : trim name = name
  earlier : List Place
  place : Place
  later : List Place
  places_eq : places = earlier ++ place :: later
  lead : List Char
  trail : List Char
  not_lead : ¬ place.mark <:+: lead
  not_earlier : ∀ p ∈ earlier, ¬ p.mark <:+: place.response lead name trail

/-- The text of the response. -/
def Naming.text {places : List Place} (n : Naming places) : String :=
  String.ofList (n.place.response n.lead n.name n.trail)

/-! ### Reading a name -/

theorem Place.value?_eq_none {p : Place} {s : List Char} (h : ¬ p.mark <:+: s) :
    p.value? s = none := by
  have hcut : cut p.mark s = none := cut_eq_none_iff.2 h
  cases p with
  | inAttribute name =>
    show (cut (name ++ "=\"").toList s).bind _ = none
    rw [show cut (name ++ "=\"").toList s = none from hcut, Option.bind_none]
  | behindTag tag =>
    show (cut tag.toList s).bind _ = none
    rw [show cut tag.toList s = none from hcut, Option.bind_none]

/-- At a place the name is read in its escaped form. -/
theorem Place.value?_response {p : Place} {lead trail : List Char} {name : String}
    (hp : p.beginsOnce) (htrim : trim name = name) (hlead : ¬ p.mark <:+: lead) :
    p.value? (p.response lead name trail) = some (Xml.escape name).toList := by
  have hcut : cut p.mark (p.response lead name trail) =
      some (lead, (Xml.escape name).toList ++ p.stop :: trail) := by
    unfold beginsOnce at hp
    unfold response
    split at hp
    · next a s hmark =>
      have ha : a ∉ s := by simpa using hp
      rw [hmark] at hlead ⊢
      exact cut_of_not_isInfix ha hlead _
    · cases hp
  cases p with
  | inAttribute name' =>
    have hquote : '"' ∉ (Xml.escape name).toList := Xml.not_mem_escape (by decide) name
    show Response.attribute? name' _ = _
    simp only [mark, stop] at hcut
    simp only [Response.attribute?, hcut, Option.bind_eq_bind, Option.bind_some,
      splitOnce_append hquote]
  | behindTag tag =>
    have hlt : '<' ∉ (Xml.escape name).toList := Xml.not_mem_escape (by decide) name
    show Response.textAfter? tag _ = _
    simp only [mark, stop] at hcut
    simp only [Response.textAfter?, hcut, Option.bind_eq_bind, Option.bind_some,
      splitOnce_append hlt, Xml.trimChars_escape htrim]

/-- The first place that there is in the response decides. -/
theorem Naming.identifier?_text {places : List Place} (n : Naming places)
    (hplaces : places.all Place.beginsOnce) :
    Response.identifier? (places.findSome? fun p => p.value? n.text.toList) =
      some (Xml.escape n.name) := by
  have htext : n.text.toList = n.place.response n.lead n.name n.trail := String.toList_ofList
  have hearlier : (n.earlier.findSome? fun p => p.value? n.text.toList) = none := by
    rw [List.findSome?_eq_none_iff]
    intro p hp
    rw [htext]
    exact Place.value?_eq_none (n.not_earlier p hp)
  have hplace : n.place.value? n.text.toList = some (Xml.escape n.name).toList := by
    have hmem : n.place ∈ n.earlier ++ n.place :: n.later :=
      List.mem_append_right _ List.mem_cons_self
    rw [← n.places_eq] at hmem
    rw [htext]
    exact Place.value?_response (List.all_eq_true.1 hplaces _ hmem) n.trimmed n.not_lead
  have hfind : ((n.earlier ++ n.place :: n.later).findSome? fun p => p.value? n.text.toList) =
      some (Xml.escape n.name).toList := by
    rw [List.findSome?_append, hearlier, List.findSome?_cons, hplace]
    rfl
  rw [← n.places_eq] at hfind
  rw [hfind]
  cases hescape : (Xml.escape n.name).toList with
  | nil =>
    -- The escaped form is no shorter than the name, and that is not empty.
    have hlen := Xml.length_le_escape n.name.toList
    rw [← Xml.toList_escape, hescape, List.length_nil, Nat.le_zero, List.length_eq_zero_iff] at hlen
    exact absurd (String.toList_inj.1 hlen) n.name_ne
  | cons c s =>
    show some (String.ofList (c :: s)) = _
    rw [← hescape, String.ofList_toList]

/-- The name of a shell is read in its escaped form. -/
theorem shellId?_text (n : Naming shellPlaces) :
    Response.shellId? n.text = some (Xml.escape n.name) := by
  have hread (s : List Char) : ((Response.value? "ShellId" "rsp:ShellId" s).orElse fun _ =>
      Response.textAfter? "<w:Selector Name=\"ShellId\">" s) =
        shellPlaces.findSome? fun p => p.value? s := by
    show ((Response.attribute? "ShellId" s).orElse _).orElse _ = _
    simp only [shellPlaces, List.findSome?_cons, List.findSome?_nil, Place.value?]
    cases Response.attribute? "ShellId" s with
    | some value => rfl
    | none =>
      show (Response.textAfter? "<rsp:ShellId>" s).orElse _ = _
      cases Response.textAfter? "<rsp:ShellId>" s with
      | some value => rfl
      | none => cases Response.textAfter? "<w:Selector Name=\"ShellId\">" s <;> rfl
  rw [Response.shellId?, hread]
  exact n.identifier?_text (by decide)

/-- The name of a command is read in its escaped form. -/
theorem commandId?_text (n : Naming commandPlaces) :
    Response.commandId? n.text = some (Xml.escape n.name) := by
  have hread (s : List Char) : Response.value? "CommandId" "rsp:CommandId" s =
      commandPlaces.findSome? fun p => p.value? s := by
    show (Response.attribute? "CommandId" s).orElse _ = _
    simp only [commandPlaces, List.findSome?_cons, List.findSome?_nil, Place.value?]
    cases Response.attribute? "CommandId" s with
    | some value => rfl
    | none =>
      show Response.textAfter? "<rsp:CommandId>" s = _
      cases Response.textAfter? "<rsp:CommandId>" s <;> rfl
  rw [Response.commandId?, hread]
  exact n.identifier?_text (by decide)

/-! ### What requests are about -/

namespace RemoteShell

open Dialogue

/-- Run commands in a shell, one after the other. -/
def runAll (polls : Nat) (shell : String) :
    List (String × List String) → SoapTalk (List (Outcome ShellOutput))
  | [] => pure []
  | (command, arguments) :: commands => do
    let r ← run polls shell command arguments
    let rs ← runAll polls shell commands
    pure (r :: rs)

/-- Open a shell, run commands in it and close it. -/
def session (polls : Nat) (commands : List (String × List String)) :
    SoapTalk (Outcome (List (Outcome ShellOutput))) := do
  match ← openShell with
  | .error e => pure (.error e)
  | .ok shell =>
    let rs ← runAll polls shell commands
    let _ ← closeShell shell
    pure (.ok rs)

/-- The reply to the last request that starts a command, after a further request. -/
def startedBy (started : Option (Outcome String)) (x : Request × Outcome String) :
    Option (Outcome String) :=
  match x.1 with
  | .runCommand _ _ _ => some x.2
  | _ => started

/-- The request is about this shell, and about no command but the one that the last reply to start a
command has named. -/
def About (shell : String) (started : Option (Outcome String)) (r : Request) : Prop :=
  r.shell? = some shell ∧ ∀ command, r.commandId? = some command → started.bind named? = some command

/-- Each of some requests is about this shell, and about no command but the one that was named when it
was started last. -/
def Follow (shell : String) : Option (Outcome String) → List (Request × Outcome String) → Prop
  | _, [] => True
  | started, x :: xs => About shell started x.1 ∧ Follow shell (startedBy started x) xs

variable {shell command : String} {arguments : List String} {polls : Nat}
  {started : Option (Outcome String)} {xs ys : List (Request × Outcome String)}
  {t : List (Exchange SoapCall SoapCall.Reply)}

theorem follow_append : Follow shell started (xs ++ ys) ↔
    Follow shell started xs ∧ Follow shell (xs.foldl startedBy started) ys := by
  induction xs generalizing started with
  | nil => exact (and_iff_right trivial).symm
  | cons x xs ih =>
    rw [List.cons_append, Follow, Follow, ih, and_assoc, List.foldl_cons]

/-- The request is about this shell and this command. -/
def Concerns (shell command : String) (r : Request) : Prop :=
  r.shell? = some shell ∧ r.commandId? = some command

/-- Requests about a command that has been started start no other one. -/
theorem follow_of_concerns (hcommand : started.bind named? = some command)
    (h : ∀ x ∈ xs, Concerns shell command x.1) : Follow shell started xs := by
  induction xs with
  | nil => trivial
  | cons x xs ih =>
    obtain ⟨⟨hshell, hid⟩, hxs⟩ := List.forall_mem_cons.1 h
    have hstarted : startedBy started x = started := by
      unfold startedBy
      split
      · next hrun =>
        rw [hrun] at hid
        cases hid
      · rfl
    have habout : About shell started x.1 := by
      refine ⟨hshell, fun id' hid' => ?_⟩
      obtain rfl := Option.some.inj (hid.symm.trans hid')
      exact hcommand
    rw [Follow, hstarted]
    exact ⟨habout, ih hxs⟩

theorem course_receive {got : ShellOutput} {r? : Option (Outcome ShellOutput)}
    (h : Course (receive shell command polls got) t r?) :
    ∀ x ∈ requestsOf t, Concerns shell command x.1 := by
  induction polls generalizing got t with
  | zero =>
    obtain ⟨rfl, -⟩ := course_broken h
    exact fun x hx => absurd hx List.not_mem_nil
  | succ polls ih =>
    obtain ⟨reply, t', rfl, h₁⟩ := course_call h
    -- Either the asking goes on, or that was all.
    have hrest : ∀ x ∈ requestsOf t', Concerns shell command x.1 := by
      cases reply with
      | ok response =>
        by_cases hdone : (Response.part response).isDone
        · simp only [if_pos hdone] at h₁
          obtain ⟨rfl, -⟩ := course_done h₁
          exact fun x hx => absurd hx List.not_mem_nil
        · simp only [if_neg hdone] at h₁
          exact ih h₁
      | error e =>
        by_cases hidle : isIdle e
        · simp only [if_pos hidle] at h₁
          exact ih h₁
        · simp only [if_neg hidle] at h₁
          obtain ⟨rfl, -⟩ := course_done h₁
          exact fun x hx => absurd hx List.not_mem_nil
    exact List.forall_mem_cons.2 ⟨⟨rfl, rfl⟩, hrest⟩

theorem course_letGo {u? : Option Unit} (h : Course (letGo shell command) t u?) :
    ∀ x ∈ requestsOf t, Concerns shell command x.1 := by
  obtain ⟨reply, t', rfl, h₁⟩ := course_call h
  have hrest : requestsOf t' = [] := by
    cases reply with
    | ok response =>
      obtain ⟨rfl, -⟩ := course_done h₁
      rfl
    | error e =>
      obtain ⟨u, t'', rfl, h₂⟩ := course_call h₁
      obtain ⟨rfl, -⟩ := course_done h₂
      rfl
  refine List.forall_mem_cons.2 ⟨⟨rfl, rfl⟩, ?_⟩
  show ∀ x ∈ requestsOf t', _
  rw [hrest]
  exact fun x hx => absurd hx List.not_mem_nil

/-- Behind the start of a command, whatever follows is about the command of the name that the reply
gives. -/
theorem course_run {r? : Option (Outcome ShellOutput)}
    (h : Course (run polls shell command arguments) t r?) :
    Follow shell started (requestsOf t) := by
  obtain ⟨reply, t', rfl, h₁⟩ := course_call h
  have hfollow : Follow shell (some reply) (requestsOf t') := by
    cases reply with
    | error e =>
      obtain ⟨rfl, -⟩ := course_done h₁
      trivial
    | ok response =>
      cases hid : Response.commandId? response with
      | none =>
        simp only [hid] at h₁
        obtain ⟨rfl, -⟩ := course_done h₁
        trivial
      | some id =>
        simp only [hid] at h₁
        refine follow_of_concerns hid ?_
        rcases course_bind h₁ with ⟨t₁, t₂, o, rfl, h₂, h₃⟩ | ⟨-, h₂⟩
        · have hrest : ∀ x ∈ requestsOf t₂, Concerns shell id x.1 := by
            cases o with
            | error e =>
              obtain ⟨rfl, -⟩ := course_done h₃
              exact fun x hx => absurd hx List.not_mem_nil
            | ok output =>
              rcases course_bind h₃ with ⟨t₃, t₄, u, rfl, h₄, h₅⟩ | ⟨-, h₄⟩
              · obtain ⟨rfl, -⟩ := course_done h₅
                rw [List.append_nil]
                exact course_letGo h₄
              · exact course_letGo h₄
          rw [requestsOf_append]
          exact List.forall_mem_append.2 ⟨course_receive h₂, hrest⟩
        · exact course_receive h₂
  exact ⟨⟨rfl, nofun⟩, hfollow⟩

theorem course_runAll {commands : List (String × List String)}
    {rs? : Option (List (Outcome ShellOutput))} (h : Course (runAll polls shell commands) t rs?) :
    Follow shell started (requestsOf t) := by
  induction commands generalizing t started rs? with
  | nil =>
    obtain ⟨rfl, -⟩ := course_done h
    trivial
  | cons command commands ih =>
    -- The replies to the first command are behind it when the others are run.
    rcases course_bind h with ⟨t₁, t₂, r, rfl, h₁, h₂⟩ | ⟨-, h₁⟩
    · rw [requestsOf_append, follow_append]
      refine ⟨course_run h₁, ?_⟩
      rcases course_bind h₂ with ⟨t₃, t₄, rs, rfl, h₃, h₄⟩ | ⟨-, h₃⟩
      · obtain ⟨rfl, -⟩ := course_done h₄
        rw [List.append_nil]
        exact ih h₃
      · exact ih h₃
    · exact course_run h₁

/-- Opening a shell is one request, and the result is the name in the reply. -/
theorem course_openShell {o? : Option (Outcome String)} (h : Course openShell t o?) :
    ∃ reply o, t = [⟨.request .createShell, reply⟩] ∧ o? = some o ∧
      ∀ response id, reply = .ok response → Response.shellId? response = some id → o = .ok id := by
  obtain ⟨reply, t', rfl, h₁⟩ := course_call h
  cases reply with
  | error e =>
    obtain ⟨rfl, rfl⟩ := course_done h₁
    exact ⟨_, _, rfl, rfl, nofun⟩
  | ok response =>
    cases hid : Response.shellId? response with
    | none =>
      simp only [hid] at h₁
      obtain ⟨rfl, rfl⟩ := course_done h₁
      refine ⟨_, _, rfl, rfl, ?_⟩
      rintro _ id ⟨⟩ hid'
      rw [hid] at hid'
      cases hid'
    | some id =>
      simp only [hid] at h₁
      obtain ⟨rfl, rfl⟩ := course_done h₁
      refine ⟨_, _, rfl, rfl, ?_⟩
      rintro _ id' ⟨⟩ hid'
      rw [Option.some.inj (hid.symm.trans hid')]

theorem course_closeShell {u? : Option (Outcome Unit)} (h : Course (closeShell shell) t u?) :
    ∃ reply, t = [⟨.request (.deleteShell shell), reply⟩] := by
  obtain ⟨reply, t', rfl, h₁⟩ := course_call h
  obtain ⟨rfl, -⟩ := course_done h₁
  exact ⟨reply, rfl⟩

/-- All requests of a session behind the first one are about the shell that was opened. -/
theorem course_session {commands : List (String × List String)} {created : String}
    {r? : Option (Outcome (List (Outcome ShellOutput)))} (h : Course (session polls commands) t r?)
    {rest : List (Request × Outcome String)} (ht : requestsOf t = (.createShell, .ok created) :: rest)
    (hshell : Response.shellId? created = some shell) : Follow shell none rest := by
  rcases course_bind h with ⟨t₁, t₂, o, rfl, h₁, h₂⟩ | ⟨-, h₁⟩
  · obtain ⟨reply, _, rfl, ⟨⟩, hopen⟩ := course_openShell h₁
    obtain ⟨hreply, rfl⟩ := List.cons.inj ht
    obtain rfl := hopen created shell (Prod.mk.inj hreply).2 hshell
    rcases course_bind h₂ with ⟨t₃, t₄, rs, rfl, h₃, h₄⟩ | ⟨-, h₃⟩
    · have hclose : Follow shell ((requestsOf t₃).foldl startedBy none) (requestsOf t₄) := by
        rcases course_bind h₄ with ⟨t₅, t₆, u, rfl, h₅, h₆⟩ | ⟨-, h₅⟩
        · obtain ⟨reply, rfl⟩ := course_closeShell h₅
          obtain ⟨rfl, -⟩ := course_done h₆
          exact ⟨⟨rfl, nofun⟩, trivial⟩
        · obtain ⟨reply, rfl⟩ := course_closeShell h₅
          exact ⟨⟨rfl, nofun⟩, trivial⟩
      show Follow shell none (requestsOf (t₃ ++ t₄))
      rw [requestsOf_append, follow_append]
      exact ⟨course_runAll h₃, hclose⟩
    · exact course_runAll h₃
  · obtain ⟨_, o, -, ho, -⟩ := course_openShell h₁
    cases ho

/-! ### Names that come back -/

/-- The place of a request among others decides which shell and which command it is about. -/
theorem Follow.cut {x : Request × Outcome String} (h : Follow shell started (xs ++ x :: ys)) :
    About shell (xs.foldl startedBy started) x.1 := (follow_append.1 h).2.1

/-- **The names that the service gives come back to it just where they need no escaping.**  Take any
response that gives a name to a shell, and any one that gives a name to a command.  The name is read
as it was given if and only if none of its characters has a meaning of its own in XML.  Suppose that
the first request of a session is answered by the first response.  Then a reader of XML finds the name
of the shell in each later envelope, under the same condition.  An envelope about a command is about
the one that was started last; where the second response was the reply, the reader finds the name of
the command, again under the same condition.  No reply that the service gives in between, and no
command, makes a difference. -/
theorem issued_names_come_back_iff {ω : Type} (answer : (c : SoapCall) → ω → c.Reply × ω) (w : ω)
    (polls : Nat) (commands : List (String × List String)) (created : Naming shellPlaces)
    (started : Naming commandPlaces) (endpoint : String) (seconds : Nat) (random : Bytes) :
    let requests := requestsOf ((session polls commands).play answer w).exchanges
    let timeout := "PT" ++ toString seconds ++ "S"
    let messageId := Uuid.ofRandom random
    (Response.shellId? created.text = some created.name ↔ Xml.plain created.name) ∧
      (Response.commandId? started.text = some started.name ↔ Xml.plain started.name) ∧
      ∀ before x after, requests = (.createShell, .ok created.text) :: (before ++ x :: after) →
        ∃ d, Xml.read (x.1.envelope endpoint timeout messageId) = some d ∧
          (((d.named "w:Selector").map fun e => e.text?) = [some created.name] ↔
            Xml.plain created.name) ∧
          (∀ command, x.1.commandId? = some command →
            (before.foldl startedBy none).bind named? = some command) ∧
          (∀ command, x.1.commandId? = some command →
            before.foldl startedBy none = some (.ok started.text) →
            (d.values "CommandId" = [started.name] ↔ Xml.plain started.name)) := by
  intro requests timeout messageId
  have hshell := shellId?_text created
  have hcommand := commandId?_text started
  refine ⟨?_, ?_, fun before x after hrequests => ?_⟩
  · rw [hshell, Option.some_inj, Xml.escape_eq_self_iff]
  · rw [hcommand, Option.some_inj, Xml.escape_eq_self_iff]
  have hfollow : Follow (Xml.escape created.name) none (before ++ x :: after) :=
    course_session (course_of_play answer (session polls commands) w) hrequests hshell
  obtain ⟨hselected, hstarted⟩ := hfollow.cut
  refine ⟨_, x.1.read_envelope (Request.plain_timeout seconds) (Request.plain_messageId random),
    ?_, hstarted, fun command hid hlast => ?_⟩
  · have hvalue : [some (Xml.escape created.name)] = [some created.name] ↔ _ :=
      List.singleton_inj.trans Option.some_inj
    rw [x.1.selectors_document, hselected, ← Xml.escape_eq_self_iff]
    exact hvalue
  · have hnamed : named? (.ok started.text) = some command := by
      have hnamed := hstarted command hid
      rwa [hlast] at hnamed
    obtain rfl : Xml.escape started.name = command :=
      Option.some.inj (hcommand.symm.trans hnamed)
    rw [x.1.commandIds_document, hid, ← Xml.escape_eq_self_iff]
    exact List.singleton_inj

/-- A response that names a shell, as a server sends it. -/
def createdShell : Naming shellPlaces where
  name := "11C8F5B2-AAAA"
  name_ne := by decide
  trimmed := by decide
  earlier := [.inAttribute "ShellId"]
  place := .behindTag "<rsp:ShellId>"
  later := [.behindTag "<w:Selector Name=\"ShellId\">"]
  places_eq := rfl
  lead := "<s:Body><rsp:Shell>".toList
  trail := "/rsp:ShellId></rsp:Shell></s:Body>".toList
  not_lead := fun h => absurd (occurs_iff.2 h) (by decide)
  not_earlier := by
    intro p hp h
    rw [List.mem_singleton.1 hp] at h
    exact absurd (occurs_iff.2 h) (by decide)

/-- A response that names a command, as a server sends it. -/
def startedCommand : Naming commandPlaces where
  name := "DEF-1"
  name_ne := by decide
  trimmed := by decide
  earlier := [.inAttribute "CommandId"]
  place := .behindTag "<rsp:CommandId>"
  later := []
  places_eq := rfl
  lead := "<rsp:CommandResponse>".toList
  trail := "/rsp:CommandId></rsp:CommandResponse>".toList
  not_lead := fun h => absurd (occurs_iff.2 h) (by decide)
  not_earlier := by
    intro p hp h
    rw [List.mem_singleton.1 hp] at h
    exact absurd (occurs_iff.2 h) (by decide)

/-- Names of digits and letters come back in a session with one command. -/
theorem issued_names_come_back_plain :
    let replies := [.ok createdShell.text, .ok startedCommand.text, .ok Protocol.commandDone]
    let requests := requestsOf ((session 1 [("ver", [])]).play replay replies).exchanges
    let shell := createdShell.name
    let command := startedCommand.name
    let before := [(Request.runCommand shell "ver" [], Except.ok startedCommand.text)]
    let x : Request × Outcome String := (.receiveOutput shell command, .ok Protocol.commandDone)
    Xml.plain shell ∧ Xml.plain command ∧
      (∃ after, requests = (.createShell, .ok createdShell.text) :: (before ++ x :: after)) ∧
      x.1.commandId? = some command ∧
      before.foldl startedBy none = some (.ok startedCommand.text) ∧
      ∃ d, Xml.read (x.1.envelope "http://h:5985/wsman" "PT60S" (Uuid.ofRandom [])) = some d ∧
        ((d.named "w:Selector").map fun e => e.text?) = [some shell] ∧
        d.values "CommandId" = [command] := by
  intro replies requests shell command before x
  have hshell : Xml.plain shell := by decide
  have hcommand : Xml.plain command := by decide
  have hrequests : requests = (.createShell, .ok createdShell.text) :: (before ++ x :: _) := rfl
  obtain ⟨-, -, hnames⟩ := issued_names_come_back_iff replay replies 1 [("ver", [])] createdShell
    startedCommand "http://h:5985/wsman" 60 []
  obtain ⟨d, hread, hselected, -, hid⟩ := hnames before x _ hrequests
  exact ⟨hshell, hcommand, ⟨_, hrequests⟩, rfl, rfl, d, hread, hselected.2 hshell,
    (hid command rfl rfl).2 hcommand⟩

/-- A server names a shell with an ampersand in it.  The name is read in its escaped form, and the
envelope that closes the shell names another one. -/
theorem ampersand_is_escaped_twice :
    let response := "<rsp:ShellId>a&amp;b</rsp:ShellId>"
    let played := (session 1 []).play replay [.ok response, .ok ""]
    Xml.escape "a&b" = "a&amp;b" ∧ Response.shellId? response = some "a&amp;b" ∧
      requestsOf played.exchanges =
        [(.createShell, .ok response), (.deleteShell "a&amp;b", .ok "")] ∧
      ∃ d, Xml.read ((Request.deleteShell "a&amp;b").envelope "http://h:5985/wsman" "PT60S"
          (Uuid.ofRandom [])) = some d ∧
        ((d.named "w:Selector").map fun e => e.text?) = [some "a&amp;b"] := by
  intro response played
  have hread : Xml.read ((Request.deleteShell "a&amp;b").envelope "http://h:5985/wsman" "PT60S"
      (Uuid.ofRandom [])) = some _ :=
    Request.read_envelope _ (Request.plain_timeout 60) (Request.plain_messageId [])
  refine ⟨by decide, by decide, by decide +kernel, _, hread, ?_⟩
  rw [Request.selectors_document]
  rfl

end RemoteShell

end RemoteHost.Winrm
