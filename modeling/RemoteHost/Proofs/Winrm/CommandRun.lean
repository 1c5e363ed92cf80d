/-
RemoteHost/Proofs/Winrm/CommandRun.lean

The course of a command, whatever the service answers.

A command is started by one request.  Then its output is asked for, again and again as long
as the replies say nothing of its end (`goesOn`), and what the replies carry is put together
in the order in which they come (`joined`, `runs_receive`).  Where its end was reported, one
more request lets go of the command, and nothing depends on the reply to it (`runs_letGo`).

The number of times that output may be asked for only decides whether a play ends; with more
of them it takes the same course (`below_run`).
-/
import RemoteHost.Proofs.Dialogue
import RemoteHost.Winrm.RemoteShell

namespace RemoteHost.Winrm.RemoteShell

open Dialogue

/-! ### Parts of an output -/

/-- The parts of an output, put together in order.  The last exit code counts. -/
def joined (parts : List ShellOutput) : ShellOutput where
  stdout := String.join (parts.map (·.stdout))
  stderr := String.join (parts.map (·.stderr))
  exitCode := (parts.filterMap (·.exitCode)).getLast?

theorem gather_assoc (a b c : ShellOutput) : gather (gather a b) c = gather a (gather b c) := by
  have hexit : (gather (gather a b) c).exitCode = (gather a (gather b c)).exitCode := by
    show c.exitCode.orElse _ = (c.exitCode.orElse _).orElse _
    cases c.exitCode <;> rfl
  simp only [gather, String.append_assoc, ShellOutput.mk.injEq, true_and]
  exact hexit

@[simp] theorem gather_joined_nil (got : ShellOutput) : gather got (joined []) = got := by
  cases got
  simp [gather, joined]

theorem empty_gather (got : ShellOutput) : gather {} got = got := by
  obtain ⟨stdout, stderr, exitCode⟩ := got
  cases exitCode <;> simp [gather]

@[simp] theorem joined_cons (p : ShellOutput) (parts : List ShellOutput) :
    joined (p :: parts) = gather p (joined parts) := by
  have hexit : (joined (p :: parts)).exitCode =
      (joined parts).exitCode.orElse fun _ => p.exitCode := by
    show (List.filterMap _ (p :: parts)).getLast? = _
    rw [List.filterMap_cons]
    cases p.exitCode with
    | none => simp [joined]
    | some code => simp [joined, List.getLast?_cons, Option.orElse_eq_or]
  simp only [joined, gather, List.map_cons, String.join_cons, ShellOutput.mk.injEq, true_and]
  exact hexit

/-! ### Replies to requests for output -/

/-- After this reply the output is asked for once more: the end was not reported, or there
was only no output in time. -/
def goesOn : Outcome String → Bool
  | .ok response => !(Response.part response).isDone
  | .error e => isIdle e

/-- The reply reports the end of the command. -/
def saysDone : Outcome String → Bool
  | .ok response => (Response.part response).isDone
  | .error _ => false

theorem saysDone_eq_false_of_goesOn {reply : Outcome String} (h : goesOn reply) :
    saysDone reply = false := by
  cases reply with
  | ok response => rwa [goesOn, Bool.not_eq_true'] at h
  | error e => rfl

/-- What the replies carry of the output, in order. -/
def partsOf (replies : List (Outcome String)) : List ShellOutput :=
  replies.filterMap fun
    | .ok response => some (Response.part response).output
    | .error _ => none

/-- What there is of the output after a reply. -/
def gatherReply (got : ShellOutput) : Outcome String → ShellOutput
  | .ok response => gather got (Response.part response).output
  | .error _ => got

theorem gather_partsOf_cons (got : ShellOutput) (reply : Outcome String)
    (replies : List (Outcome String)) :
    gather got (joined (partsOf (reply :: replies))) =
      gather (gatherReply got reply) (joined (partsOf replies)) := by
  cases reply with
  | ok response =>
    show gather got (joined ((Response.part response).output :: partsOf replies)) = _
    rw [joined_cons, ← gather_assoc]
    rfl
  | error e => rfl

/-- A request for output, with the reply to it. -/
def poll (shell command : String) (reply : Outcome String) : Exchange SoapCall SoapCall.Reply :=
  ⟨.request (.receiveOutput shell command), reply⟩

variable {shell command : String} {arguments : List String} {polls : Nat}
  {t : List (Exchange SoapCall SoapCall.Reply)} {r : Outcome ShellOutput}

/-- The output is asked for, and then it is asked for once more or that was all. -/
theorem runs_receive_succ {got : ShellOutput}
    (h : Runs (receive shell command (polls + 1) got) t r) :
    ∃ reply t', t = poll shell command reply :: t' ∧
      ((goesOn reply ∧ Runs (receive shell command polls (gatherReply got reply)) t' r) ∨
        (goesOn reply = false ∧ t' = [] ∧ r = reply.map fun _ => gatherReply got reply)) := by
  obtain ⟨reply, t', rfl, h₁⟩ := runs_call.1 h
  refine ⟨reply, t', rfl, ?_⟩
  cases reply with
  | ok response =>
    by_cases hdone : (Response.part response).isDone
    · simp only [if_pos hdone] at h₁
      obtain ⟨rfl, rfl⟩ := runs_done.1 h₁
      exact .inr ⟨by rw [goesOn, hdone]; rfl, rfl, rfl⟩
    · simp only [if_neg hdone] at h₁
      exact .inl ⟨by rw [goesOn, Bool.not_eq_true' , ← Bool.not_eq_true]; exact hdone, h₁⟩
  | error e =>
    by_cases hidle : isIdle e
    · simp only [if_pos hidle] at h₁
      exact .inl ⟨hidle, h₁⟩
    · simp only [if_neg hidle] at h₁
      obtain ⟨rfl, rfl⟩ := runs_done.1 h₁
      exact .inr ⟨by rw [goesOn, ← Bool.not_eq_true]; exact hidle, rfl, rfl⟩

/-- All replies but the last let the asking go on, and the last one ends it.  The result is
what the replies have added. -/
theorem runs_receive {got : ShellOutput} (h : Runs (receive shell command polls got) t r) :
    ∃ waits last, t = (waits ++ [last]).map (poll shell command) ∧
      (∀ reply ∈ waits, goesOn reply) ∧ goesOn last = false ∧
      r = last.map fun _ => gather got (joined (partsOf (waits ++ [last]))) := by
  -- What was got so far grows from one request to the next.
  induction polls generalizing got t with
  | zero => cases h
  | succ polls ih =>
    obtain ⟨reply, t', rfl, ⟨hgo, h₁⟩ | ⟨hgo, rfl, rfl⟩⟩ := runs_receive_succ h
    · obtain ⟨waits, last, rfl, hwaits, hlast, rfl⟩ := ih h₁
      refine ⟨reply :: waits, last, rfl, ?_, hlast, ?_⟩
      · intro x hx
        rcases List.mem_cons.1 hx with rfl | hx
        · exact hgo
        · exact hwaits x hx
      · rw [List.cons_append, gather_partsOf_cons]
    · refine ⟨[], reply, rfl, fun x hx => absurd hx List.not_mem_nil, hgo, ?_⟩
      rw [List.nil_append, gather_partsOf_cons]
      simp [partsOf]

/-! ### Requests -/

/-- The request of a call, with the reply to it, if any. -/
def requestOf? : Exchange SoapCall SoapCall.Reply → Option (Request × Outcome String)
  | ⟨.request request, reply⟩ => some (request, reply)
  | ⟨.report _, _⟩ => none

/-- The requests of some calls, with the replies to them, in order. -/
def requestsOf (t : List (Exchange SoapCall SoapCall.Reply)) :
    List (Request × Outcome String) := t.filterMap requestOf?

@[simp] theorem requestsOf_append (t₁ t₂ : List (Exchange SoapCall SoapCall.Reply)) :
    requestsOf (t₁ ++ t₂) = requestsOf t₁ ++ requestsOf t₂ := by
  simp [requestsOf]

theorem requestsOf_map_poll (replies : List (Outcome String)) :
    requestsOf (replies.map (poll shell command)) =
      replies.map fun reply => (.receiveOutput shell command, reply) := by
  induction replies with
  | nil => rfl
  | cons reply replies ih =>
    rw [List.map_cons, List.map_cons, ← ih]
    rfl

/-- One request lets go of a command, and only a report may follow. -/
theorem runs_letGo (h : Runs (letGo shell command) t ()) :
    ∃ reply, requestsOf t = [(.terminateCommand shell command, reply)] := by
  obtain ⟨reply, t', rfl, h₁⟩ := runs_call.1 h
  refine ⟨reply, ?_⟩
  cases reply with
  | ok response =>
    obtain ⟨rfl, -⟩ := runs_done.1 h₁
    rfl
  | error e =>
    obtain ⟨u, t'', rfl, h₂⟩ := runs_call.1 h₁
    obtain ⟨rfl, -⟩ := runs_done.1 h₂
    rfl

/-- The name that a reply gives to the command. -/
def named? : Outcome String → Option String
  | .ok response => Response.commandId? response
  | .error _ => none

/-- A command that is not started, or has no name, is followed by nothing.  One with a name
is asked for its output, and let go of when its end was reported. -/
theorem runs_run (h : Runs (run polls shell command arguments) t r) :
    ∃ started t', t = ⟨.request (.runCommand shell command arguments), started⟩ :: t' ∧
      ((named? started = none ∧ t' = [] ∧ ∃ message, r = .error (commandFailure message)) ∨
        ∃ id waits last t'', named? started = some id ∧
          t' = (waits ++ [last]).map (poll shell id) ++ t'' ∧
          (∀ reply ∈ waits, goesOn reply) ∧
          ((saysDone last ∧ (∃ reply, requestsOf t'' = [(.terminateCommand shell id, reply)]) ∧
              r = .ok (joined (partsOf (waits ++ [last])))) ∨
            ∃ e, last = .error e ∧ t'' = [] ∧ r = .error (commandFailure e.message))) := by
  obtain ⟨started, t', rfl, h₁⟩ := runs_call.1 h
  refine ⟨started, t', rfl, ?_⟩
  cases started with
  | error e =>
    obtain ⟨rfl, rfl⟩ := runs_done.1 h₁
    exact .inl ⟨rfl, rfl, e.message, rfl⟩
  | ok response =>
    cases hid : Response.commandId? response with
    | none =>
      simp only [hid] at h₁
      obtain ⟨rfl, rfl⟩ := runs_done.1 h₁
      exact .inl ⟨hid, rfl, _, rfl⟩
    | some id =>
      simp only [hid] at h₁
      obtain ⟨t₁, t₂, o, rfl, h₂, h₃⟩ := runs_bind.1 h₁
      obtain ⟨waits, last, rfl, hwaits, hlast, rfl⟩ := runs_receive h₂
      refine .inr ⟨id, waits, last, t₂, hid, rfl, hwaits, ?_⟩
      cases last with
      | error e =>
        obtain ⟨rfl, rfl⟩ := runs_done.1 h₃
        exact .inr ⟨e, rfl, rfl, rfl⟩
      | ok response' =>
        obtain ⟨t₃, t₄, u, rfl, h₄, h₅⟩ := runs_bind.1 h₃
        obtain ⟨rfl, rfl⟩ := runs_done.1 h₅
        rw [goesOn, Bool.not_eq_false'] at hlast
        rw [List.append_nil, empty_gather]
        exact .inl ⟨hlast, runs_letGo h₄, rfl⟩

/-! ### The number of requests for output -/

theorem below_receive {more : Nat} (h : polls ≤ more) (got : ShellOutput) :
    Below (receive shell command polls got) (receive shell command more got) := by
  induction polls generalizing more got with
  | zero => exact .broken _
  | succ polls ih =>
    obtain ⟨more, rfl⟩ : ∃ n, more = n + 1 := ⟨more - 1, by omega⟩
    have ih := ih (Nat.le_of_succ_le_succ h)
    refine .ask fun reply => ?_
    cases reply with
    | ok response =>
      show Below (if (Response.part response).isDone then _ else _)
        (if (Response.part response).isDone then _ else _)
      split
      · exact .refl _
      · exact ih _
    | error e =>
      show Below (if isIdle e then _ else _) (if isIdle e then _ else _)
      split
      · exact ih got
      · exact .refl _

/-- A command that comes to its end takes the same course when its output may be asked for
more often. -/
theorem below_run {more : Nat} (h : polls ≤ more) :
    Below (run polls shell command arguments) (run more shell command arguments) := by
  refine .ask fun reply => ?_
  cases reply with
  | error e => exact .refl _
  | ok response =>
    simp only [andThen]
    cases Response.commandId? response with
    | none => exact .refl _
    | some id => exact (below_receive h {}).bind fun _ => .refl _

/-! ### Commands -/

/-- A service that gives some replies one after the other, whatever it is asked for. -/
def replay : (c : SoapCall) → List (Outcome String) → c.Reply × List (Outcome String)
  | .request _, reply :: replies => (reply, replies)
  | .request _, [] => (.error (talkFailure "no reply is left"), [])
  | .report _, replies => ((), replies)

/-- **A command is started once and followed to its end.**  Whatever the service answers,
a command that ends has made one request that starts it, and no other.  Where the reply
gives it no name, nothing follows.  Where it does, its output is asked for at least once,
and once more just after each reply that lets the asking go on; one request lets go of the
command if a reply reported its end, and none otherwise.  With the end reported the result
is what the replies carried, in order, with the exit code that came last.  Each failure is
one of a command.  All this is so whatever the bound on the requests for output is, once it
is large enough. -/
theorem command_started_once {ω : Type} (answer : (c : SoapCall) → ω → c.Reply × ω) (w : ω)
    (polls : Nat) (shell command : String) (arguments : List String) (r : Outcome ShellOutput)
    (h : ((run polls shell command arguments).play answer w).result? = some r) :
    ∃ started rest,
      requestsOf ((run polls shell command arguments).play answer w).exchanges =
        (.runCommand shell command arguments, started) :: rest ∧
      (∀ x ∈ rest, ∀ shell' command' arguments',
        x.1 ≠ .runCommand shell' command' arguments') ∧
      (named? started = none → rest = [] ∧ ∃ e, r = .error e) ∧
      (∀ id, named? started = some id → ∃ waits last signals,
        rest = (waits ++ [last]).map (fun reply => (.receiveOutput shell id, reply)) ++ signals ∧
        (∀ reply ∈ waits, goesOn reply) ∧
        ((∃ reply ∈ waits ++ [last], saysDone reply) →
          (∃ reply, signals = [(.terminateCommand shell id, reply)]) ∧
            r = .ok (joined (partsOf (waits ++ [last])))) ∧
        ((∀ reply ∈ waits ++ [last], saysDone reply = false) →
          signals = [] ∧ ∃ e, last = .error e ∧ r = .error (commandFailure e.message))) ∧
      (∀ e, r = .error e → e.kind = .commandFailed) ∧
      (∀ more, polls ≤ more →
        (run more shell command arguments).play answer w =
          (run polls shell command arguments).play answer w) := by
  obtain ⟨started, t', ht, hcase⟩ := runs_run (runs_of_play h)
  have hrequests : requestsOf ((run polls shell command arguments).play answer w).exchanges =
      (.runCommand shell command arguments, started) :: requestsOf t' := by
    rw [ht]
    rfl
  have hmore : ∀ more, polls ≤ more → (run more shell command arguments).play answer w =
      (run polls shell command arguments).play answer w := by
    intro more hle
    refine (below_run hle).play_eq ?_
    rw [h]
    rfl
  refine ⟨started, requestsOf t', hrequests, ?_⟩
  rcases hcase with ⟨hnone, rfl, message, rfl⟩ | ⟨id, waits, last, t'', hsome, rfl, hwaits, hend⟩
  · refine ⟨fun x hx => absurd hx List.not_mem_nil, fun _ => ⟨rfl, _, rfl⟩, ?_, ?_, hmore⟩
    · intro id hid
      rw [hnone] at hid
      cases hid
    · rintro _ ⟨⟩
      rfl
  · rw [requestsOf_append, requestsOf_map_poll]
    have hstart : ∀ x ∈ (waits ++ [last]).map fun reply => (Request.receiveOutput shell id, reply),
        ∀ shell' command' arguments', x.1 ≠ .runCommand shell' command' arguments' := by
      intro x hx shell' command' arguments'
      obtain ⟨reply, -, rfl⟩ := List.mem_map.1 hx
      exact Request.noConfusion
    have hnamed : named? started ≠ none := by
      rw [hsome]
      exact Option.some_ne_none id
    rcases hend with ⟨hdone, ⟨reply, ht''⟩, rfl⟩ | ⟨e, rfl, rfl, rfl⟩
    · rw [ht'']
      refine ⟨?_, fun hnone => absurd hnone hnamed, ?_, ?_, hmore⟩
      · intro x hx
        rcases List.mem_append.1 hx with hx | hx
        · exact hstart x hx
        · rw [List.mem_singleton.1 hx]
          exact fun _ _ _ => Request.noConfusion
      · intro id' hid'
        obtain rfl := Option.some.inj (hsome.symm.trans hid')
        refine ⟨waits, last, _, rfl, hwaits, fun _ => ⟨⟨reply, rfl⟩, rfl⟩, fun hall => ?_⟩
        have hlast := hall last (List.mem_append_right waits List.mem_cons_self)
        rw [hdone] at hlast
        cases hlast
      · rintro _ ⟨⟩
    · refine ⟨?_, fun hnone => absurd hnone hnamed, ?_, ?_, hmore⟩
      · rw [show requestsOf [] = [] from rfl, List.append_nil]
        exact hstart
      · intro id' hid'
        obtain rfl := Option.some.inj (hsome.symm.trans hid')
        refine ⟨waits, .error e, _, rfl, hwaits, ?_, fun _ => ⟨rfl, e, rfl, rfl⟩⟩
        -- No reply reported the end: those before the last one let the asking go on.
        rintro ⟨reply, hreply, hdone⟩
        exfalso
        rcases List.mem_append.1 hreply with hreply | hreply
        · rw [saysDone_eq_false_of_goesOn (hwaits reply hreply)] at hdone
          cases hdone
        · rw [List.mem_singleton.1 hreply] at hdone
          cases hdone
      · rintro _ ⟨⟩
        rfl

/-- A command that has no output in time once, and cannot be let go of, is started once and
ends well all the same. -/
theorem command_started_once_idle :
    let played := (run 2 "shell" "ver" []).play replay
      [.ok "<rsp:CommandId>7</rsp:CommandId>", .error (talkFailure Protocol.receiveTimedOut),
        .ok Protocol.commandDone, .error (talkFailure "gone")]
    played.result? = some (.ok (gather {} (Response.part Protocol.commandDone).output)) ∧
      ∃ started rest,
        requestsOf played.exchanges = (.runCommand "shell" "ver" [], started) :: rest ∧
        ∀ x ∈ rest, ∀ shell command arguments, x.1 ≠ .runCommand shell command arguments := by
  intro played
  have h : played.result? =
      some (.ok (gather {} (Response.part Protocol.commandDone).output)) := rfl
  obtain ⟨started, rest, hrequests, hstart, -⟩ :=
    command_started_once replay _ 2 "shell" "ver" [] _ h
  exact ⟨h, started, rest, hrequests, hstart⟩

end RemoteHost.Winrm.RemoteShell
