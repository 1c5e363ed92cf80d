/-
RemoteHost/Proofs/Winrm/OutputPieces.lean

Output that arrives in pieces.

A server may cut the output of a command anywhere and send the pieces in any number of
elements and responses.  All of them are collected, in order (`yields_run`), but each one is
decoded by itself.  So the output is what the command wrote just where no cut is inside a
character (`stdout_eq_iff_whole`); a character that is cut is lost
(`cut_character_is_replaced`).
-/
import RemoteHost.Proofs.Text.Utf8
import RemoteHost.Proofs.Winrm.CommandRun
import RemoteHost.Proofs.Winrm.ReceiveResponse

namespace RemoteHost.Winrm.RemoteShell

open Dialogue

/-! ### Collecting responses -/

/-- The output that a response carries. -/
def outputOf (r : ReceiveResponse) : ShellOutput := (Response.part r.text).output

theorem part_text_isDone (r : ReceiveResponse) :
    (Response.part r.text).isDone = r.state.isDone := by
  rw [r.part_text]

variable {shell command id started : String} {arguments : List String}
  {init : List ReceiveResponse} {last : ReceiveResponse}

/-- What the service replies when it sends these responses. -/
def repliesOf (rs : List ReceiveResponse) : List (Outcome String) := rs.map fun r => .ok r.text

/-- The output is collected from all responses up to the one with the end of the command. -/
theorem yields_receive {polls : Nat} (hinit : ∀ r ∈ init, r.state.isDone = false)
    (hlast : last.state.isDone) (hpolls : init.length < polls) (got : ShellOutput)
    (more : List (Outcome String)) :
    Yields replay (receive shell id polls got) (repliesOf (init ++ [last]) ++ more)
      fun r rest => r = .ok (gather got (joined ((init ++ [last]).map outputOf))) ∧ rest = more := by
  obtain ⟨polls, rfl⟩ : ∃ n, polls = n + 1 := ⟨polls - 1, by omega⟩
  induction init generalizing polls got with
  | nil =>
    have hdone : (Response.part last.text).isDone := by
      rw [part_text_isDone]
      exact hlast
    refine .ask ?_
    show Yields replay (if (Response.part last.text).isDone then _ else _) more _
    rw [if_pos hdone]
    refine .done ⟨?_, rfl⟩
    rw [List.nil_append, List.map_singleton, joined_cons, ← gather_assoc, gather_joined_nil]
    rfl
  | cons r init ih =>
    have hdone : ¬ (Response.part r.text).isDone := by
      rw [part_text_isDone, hinit r List.mem_cons_self]
      exact Bool.false_ne_true
    have hpolls' : init.length < polls := Nat.lt_of_succ_lt_succ hpolls
    obtain ⟨polls, rfl⟩ : ∃ n, polls = n + 1 := ⟨polls - 1, by omega⟩
    have ih := ih (fun x hx => hinit x (List.mem_cons_of_mem r hx)) (gather got (outputOf r))
      polls hpolls'
    rw [gather_assoc, ← joined_cons] at ih
    refine .ask ?_
    show Yields replay (if (Response.part r.text).isDone then _ else _)
      (repliesOf (init ++ [last]) ++ more) _
    rw [if_neg hdone]
    exact ih

theorem yields_letGo {ω : Type} (answer : (c : SoapCall) → ω → c.Reply × ω) (w : ω) :
    Yields answer (letGo shell id) w fun _ _ => True := by
  refine .ask ?_
  cases h : (answer (.request (.terminateCommand shell id)) w).1 with
  | ok response => exact .done trivial
  | error e => exact .ask (.done trivial)

/-- The result of a command is the output of all responses, whatever becomes of the request
that lets go of it. -/
theorem yields_run {polls : Nat} (hid : Response.commandId? started = some id)
    (hinit : ∀ r ∈ init, r.state.isDone = false) (hlast : last.state.isDone)
    (hpolls : init.length < polls) (more : List (Outcome String)) :
    Yields replay (run polls shell command arguments)
      (.ok started :: (repliesOf (init ++ [last]) ++ more))
      fun r _ => r = .ok (joined ((init ++ [last]).map outputOf)) := by
  refine .ask ?_
  simp only [andThen, replay, hid]
  refine (yields_receive hinit hlast hpolls {} more).bind ?_
  rintro _ rest ⟨rfl, rfl⟩
  rw [empty_gather]
  refine (yields_letGo replay rest).bind ?_
  rintro _ rest' -
  exact .done rfl

/-! ### Plain responses -/

/-- No blanks. -/
def noBlanks : Blanks where
  text := []
  all_blank := by simp

/-- The value `C`. -/
def valueC : PlainValue where
  text := ['C']
  plain := by simp
  not_done := not_done_of_not_mem (by decide)

/-- The state of a command that goes on. -/
def valueRunning : PlainValue where
  text := "Running".toList
  plain := by simp
  not_done := not_done_of_not_mem (by decide)

/-- A response with pieces of the standard output alone. -/
def plainResponse (pieces : List Bytes) (isDone : Bool) : ReceiveResponse where
  lead := []
  elements := pieces.map fun bytes =>
    { gap := noBlanks, stream := .stdout, command := valueC,
      content := .data noBlanks bytes noBlanks }
  state :=
    { gap := noBlanks, command := valueC, exitCode := none
      other := if isDone then none else some valueRunning }
  trail := []
  quiet_lead _ _ := rfl
  quiet_trail _ _ := rfl

example : (plainResponse [[0xC3]] true).elements.flatMap StreamElement.render =
    "<rsp:Stream Name=\"stdout\" CommandId=\"C\">ww==</rsp:Stream>".toList := rfl

/-! ### The text of an output -/

/-- The bytes that responses add to the standard output, piece by piece. -/
def piecesOf (rs : List ReceiveResponse) : List Bytes := rs.flatMap (ReceiveResponse.pieces .stdout)

/-- The pieces are put together after they were decoded. -/
theorem stdout_joined (rs : List ReceiveResponse) :
    (joined (rs.map outputOf)).stdout =
      String.ofList ((piecesOf rs).flatMap (Utf8.decodeLossyFrom 0)) := by
  show String.join _ = _
  induction rs with
  | nil => rfl
  | cons r rs ih =>
    have hr : (outputOf r).stdout =
        String.ofList ((r.pieces .stdout).flatMap (Utf8.decodeLossyFrom 0)) := by
      rw [outputOf, r.part_text]
    rw [List.map_cons, List.map_cons, String.join_cons, ih, hr, ← String.ofList_append,
      ← List.flatMap_append]
    rfl

/-- **No character may be cut.**  A service gives a command a name, and then sends the bytes
of a text in any number of elements and responses, the last of which says that the command
has ended.  However they are cut, the command ends well; its output is the text if and only
if each piece is the bytes of a text by itself. -/
theorem stdout_eq_iff_whole (text : String) (polls : Nat) (shell command : String)
    (arguments : List String) (started id : String) (init : List ReceiveResponse)
    (last : ReceiveResponse) (more : List (Outcome String))
    (hid : Response.commandId? started = some id)
    (hinit : ∀ r ∈ init, r.state.isDone = false) (hlast : last.state.isDone)
    (hpolls : init.length < polls)
    (htext : (piecesOf (init ++ [last])).flatten = Utf8.encodeChars text.toList) :
    ∃ out, ((run polls shell command arguments).play replay
        (.ok started :: (repliesOf (init ++ [last]) ++ more))).result? = some (.ok out) ∧
      (out.stdout = text ↔
        ∀ piece ∈ piecesOf (init ++ [last]), ∃ t, piece = Utf8.encodeChars t) := by
  have hrun : Yields replay (run polls shell command arguments)
      (.ok started :: (repliesOf (init ++ [last]) ++ more)) _ :=
    yields_run hid hinit hlast hpolls more
  obtain ⟨r, hr, rfl⟩ := hrun
  refine ⟨_, hr, ?_⟩
  rw [stdout_joined, ← String.toList_inj, String.toList_ofList]
  exact Utf8.flatMap_decodeLossy_eq_iff htext

/-- Two letters that come in two responses, the second one of two bytes. -/
theorem stdout_eq_iff_whole_two_letters :
    ∃ out, ((run 2 "S" "ver" []).play replay (.ok "<rsp:CommandId>C</rsp:CommandId>" ::
        (repliesOf ([plainResponse [[0x61]] false] ++ [plainResponse [[0xC3, 0xA9]] true]) ++
          []))).result? = some (.ok out) ∧
      out.stdout = "a\u00e9" := by
  obtain ⟨out, hout, hiff⟩ := stdout_eq_iff_whole "a\u00e9" 2 "S" "ver" []
    "<rsp:CommandId>C</rsp:CommandId>" "C" [plainResponse [[0x61]] false]
    (plainResponse [[0xC3, 0xA9]] true) [] rfl (by simp [plainResponse, CommandState.isDone]) rfl
    (by decide) rfl
  refine ⟨out, hout, hiff.2 ?_⟩
  intro piece hpiece
  have hmem : piece ∈ [[0x61], [0xC3, 0xA9]] := hpiece
  rcases List.mem_cons.1 hmem with rfl | hmem
  · exact ⟨['a'], rfl⟩
  · rw [List.mem_singleton.1 hmem]
    exact ⟨['\u00e9'], rfl⟩

/-- A letter of two bytes that come in two elements of one response is not in the output. -/
theorem cut_character_is_replaced :
    let response := plainResponse [[0xC3], [0xA9]] true
    (piecesOf [response]).flatten = Utf8.encodeChars "\u00e9".toList ∧
      ∃ out, ((run 1 "S" "ver" []).play replay
          [.ok "<rsp:CommandId>C</rsp:CommandId>", .ok response.text]).result? = some (.ok out) ∧
        out.stdout = "\ufffd\ufffd" ∧ out.stdout ≠ "\u00e9" := by
  intro response
  have hid : Response.commandId? "<rsp:CommandId>C</rsp:CommandId>" = some "C" := rfl
  have hrun : Yields replay (run 1 "S" "ver" [])
      (.ok "<rsp:CommandId>C</rsp:CommandId>" :: (repliesOf ([] ++ [response]) ++ [])) _ :=
    yields_run hid (by simp) rfl (by decide) []
  obtain ⟨r, hr, rfl⟩ := hrun
  have hstdout : (joined ([response].map outputOf)).stdout = "\ufffd\ufffd" := by
    rw [stdout_joined]
    rfl
  refine ⟨rfl, _, hr, hstdout, ?_⟩
  rw [List.nil_append, hstdout]
  decide

end RemoteHost.Winrm.RemoteShell
