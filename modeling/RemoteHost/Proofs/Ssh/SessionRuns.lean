/-
RemoteHost/Proofs/Ssh/SessionRuns.lean

What each operation of a session can do.

For every operation there is an inductive listing of its courses, with the calls of each and the
result it leaves: `Ran` for a command, `Uploaded` for a file, `Rebooted` for a reboot, and
`Performed` for them all.  That these are all courses there are is one lemma for each operation
(`course_run`, `course_upload`, `course_reboot` and so on, and `course_perform`), so what holds of
the operations is proved by cases on the listings.  Only a wait for the host can break off; the
other operations always leave a result.
-/
import RemoteHost.Proofs.Ssh.WaitCourse
import RemoteHost.Ssh.Session

namespace RemoteHost.Ssh

open Dialogue

/-! ### Log entries -/

/-- An entry in the log of commands. -/
def recorded (r : LogRecord) : Exchange Call Call.Reply := ⟨.record r, ()⟩

/-- An entry in the log of the program. -/
def reported (r : LogRecord) : Exchange Call Call.Reply := ⟨.report r, ()⟩

/-- The entry for a command that is about to be sent. -/
def announced (command : String) : Exchange Call Call.Reply :=
  recorded (.info ("running command: " ++ command))

namespace Session

variable {s : Session} {t : Calls}

/-! ### Commands -/

/-- The result of a command to which the host gave this reply. -/
def outcomeOf (s : Session) (command : String) : Outcome CommandResult → Outcome String
  | .error e => .error (e.context (s.naming command))
  | .ok r => s.conclude command r

/-- A host that gives the same reply to every command. -/
def replying (reply : Outcome CommandResult) : (c : Call) → Unit → c.Reply × Unit
  | .execute _ _, _ => (reply, ())
  | .dial _ _, _ | .start _ _, _ | .sendFile _ _ _ _, _ | .close _, _ => (.ok (), ())
  | .probe _ _, _ => (true, ())
  | .now, _ => ((0 : Nat), ())
  | .sleep _, _ | .record _, _ | .report _, _ => ((), ())

/-- The courses of a command. -/
inductive Ran (s : Session) (command : String) : Calls → Outcome String → Prop
  /-- There is no connection to send it over. -/
  | unconnected (hlive : s.connection = none) :
      Ran s command [announced command] (.error s.notConnected)
  /-- It is sent over the live connection. -/
  | sent {n : Nat} (hlive : s.connection = some n) (reply : Outcome CommandResult) :
      Ran s command [announced command, ⟨.execute n command, reply⟩] (s.outcomeOf command reply)

theorem course_run {command : String} {r? : Option (Outcome String)}
    (h : Course (s.run command) t r?) : ∃ r, r? = some r ∧ Ran s command t r := by
  obtain ⟨u, t₁, rfl, h₁⟩ := course_call h
  cases hlive : s.connection with
  | none =>
    simp only [hlive] at h₁
    obtain ⟨rfl, rfl⟩ := course_done h₁
    exact ⟨_, rfl, .unconnected hlive⟩
  | some n =>
    simp only [hlive] at h₁
    obtain ⟨reply, t₂, rfl, h₂⟩ := course_call h₁
    have hend : t₂ = [] ∧ r? = some (s.outcomeOf command reply) := by
      cases reply with
      | ok result => exact course_done h₂
      | error e => exact course_done h₂
    obtain ⟨rfl, rfl⟩ := hend
    exact ⟨_, rfl, .sent hlive reply⟩

/-- A command that is run over a live connection is sent over it, and its outcome is that of the
reply. -/
theorem Ran.sent_over {r : Outcome String} (h : Ran s command t r) (hlive : s.connection = some n) :
    ∃ reply, t = [announced command, ⟨.execute n command, reply⟩] ∧
      r = s.outcomeOf command reply := by
  cases h with
  | unconnected hnone =>
    rw [hlive] at hnone
    cases hnone
  | sent hlive' reply =>
    obtain rfl := Option.some.inj (hlive.symm.trans hlive')
    exact ⟨reply, rfl, rfl⟩

/-- A command, and then whatever is done with its outcome. -/
theorem course_run_bind {α : Type} {command : String} {next : Outcome String → Talk α}
    {a? : Option α} (h : Course (s.run command >>= next) t a?) :
    ∃ t₁ t₂ r, t = t₁ ++ t₂ ∧ Ran s command t₁ r ∧ Course (next r) t₂ a? := by
  rcases course_bind h with ⟨t₁, t₂, r, rfl, h₁, h₂⟩ | ⟨-, h₁⟩
  · obtain ⟨r', hr, hran⟩ := course_run h₁
    obtain rfl := Option.some.inj hr
    exact ⟨t₁, t₂, r, rfl, hran, h₂⟩
  · obtain ⟨r', hr, -⟩ := course_run h₁
    cases hr

/-- Without a connection no command comes to anything. -/
theorem Ran.eq_notConnected {command : String} {r : Outcome String} (h : Ran s command t r)
    (hlive : s.connection = none) : r = .error s.notConnected := by
  cases h with
  | unconnected _ => rfl
  | sent h _ =>
    rw [hlive] at h
    cases h

/-! ### Files -/

/-- What is logged of a listing. -/
def listingLog (logOutput : Bool) : Outcome String → Calls
  | .ok output => if logOutput then [recorded (.info output)] else []
  | .error _ => []

theorem course_list {path : String} {logOutput : Bool} {r? : Option (Outcome (List String))}
    (h : Course (s.list path logOutput) t r?) :
    ∃ t₁ r, t = t₁ ++ listingLog logOutput r ∧ Ran s (listCommand path) t₁ r ∧
      r? = some (r.map Text.nonEmptyLines) := by
  obtain ⟨t₁, t₂, r, rfl, hran, h₁⟩ := course_run_bind h
  refine ⟨t₁, r, ?_⟩
  cases r with
  | error e =>
    obtain ⟨rfl, rfl⟩ := course_done h₁
    exact ⟨rfl, hran, rfl⟩
  | ok output =>
    cases logOutput with
    | true =>
      obtain ⟨u, t₃, rfl, h₂⟩ := course_call h₁
      obtain ⟨rfl, rfl⟩ := course_done h₂
      exact ⟨rfl, hran, rfl⟩
    | false =>
      obtain ⟨rfl, rfl⟩ := course_done h₁
      exact ⟨rfl, hran, rfl⟩

theorem course_untar {archive directory : String} {r? : Option (Outcome (List String))}
    (h : Course (s.untar archive directory) t r?) :
    ∃ r, Ran s (inDirectory directory (untarCommand archive)) t r ∧
      r? = some (Outcome.context ("extracting " ++ archive ++ " into " ++ directory)
        (r.map Text.nonEmptyLines)) := by
  obtain ⟨t₁, t₂, r, rfl, hran, h₁⟩ := course_run_bind h
  obtain ⟨rfl, rfl⟩ := course_done h₁
  rw [List.append_nil]
  exact ⟨r, hran, rfl⟩

/-- The text that gives an upload its mode. -/
def modeUsed (mode : String) : String :=
  if Text.allBlank mode then FileMode.defaultText else mode

/-- What is logged of the mode of an upload. -/
def modeLog (mode destination : String) : Calls :=
  if Text.allBlank mode then
    [recorded (.info ("no permission mode given for " ++ destination ++
      ", using " ++ FileMode.defaultText))]
  else []

theorem course_modeText {mode destination : String} {r? : Option String}
    (h : Course (modeText mode destination) t r?) :
    t = modeLog mode destination ∧ r? = some (modeUsed mode) := by
  unfold modeText at h
  unfold modeLog modeUsed
  by_cases hblank : Text.allBlank mode
  · rw [if_pos hblank] at h
    obtain ⟨u, t₁, rfl, h₁⟩ := course_call h
    obtain ⟨rfl, rfl⟩ := course_done h₁
    rw [if_pos hblank, if_pos hblank]
    exact ⟨rfl, rfl⟩
  · rw [if_neg hblank] at h
    obtain ⟨rfl, rfl⟩ := course_done h
    rw [if_neg hblank, if_neg hblank]
    exact ⟨rfl, rfl⟩

/-- The failure of an upload whose transfer failed. -/
def transferFailed (destination : String) (e : Failure) : Failure where
  kind := .transferFailed
  message := "upload to " ++ destination ++ " failed: " ++ e.message

/-- The courses of an upload. -/
inductive Uploaded (s : Session) (payload destination mode : String) :
    Calls → Outcome Unit → Prop
  /-- The payload is no base64. -/
  | undecodable {e : Failure} (hdata : payloadBytes payload destination = .error e) :
      Uploaded s payload destination mode [] (.error e)
  /-- The mode is no octal numeral. -/
  | unreadableMode {data : Bytes} {e : Failure}
      (hdata : payloadBytes payload destination = .ok data)
      (hmode : FileMode.parse (modeUsed mode) = .error e) :
      Uploaded s payload destination mode (modeLog mode destination) (.error e)
  /-- There is no connection to send the file over. -/
  | unconnected {data : Bytes} {bits : FileMode}
      (hdata : payloadBytes payload destination = .ok data)
      (hmode : FileMode.parse (modeUsed mode) = .ok bits) (hlive : s.connection = none) :
      Uploaded s payload destination mode (modeLog mode destination) (.error s.notConnected)
  /-- The file is sent over the live connection. -/
  | sent {data : Bytes} {bits : FileMode} {n : Nat}
      (hdata : payloadBytes payload destination = .ok data)
      (hmode : FileMode.parse (modeUsed mode) = .ok bits) (hlive : s.connection = some n)
      (reply : Outcome Unit) :
      Uploaded s payload destination mode
        (modeLog mode destination ++ [⟨.sendFile n destination bits.val data, reply⟩])
        (reply.mapError (transferFailed destination))

theorem course_upload {payload destination mode : String} {r? : Option (Outcome Unit)}
    (h : Course (s.upload payload destination mode) t r?) :
    ∃ r, r? = some r ∧ Uploaded s payload destination mode t r := by
  unfold upload at h
  cases hdata : payloadBytes payload destination with
  | error e =>
    simp only [hdata] at h
    obtain ⟨rfl, rfl⟩ := course_done h
    exact ⟨_, rfl, .undecodable hdata⟩
  | ok data =>
    simp only [hdata] at h
    -- The mode is settled with a log entry at most, before anything is asked of the host.
    rcases course_bind h with ⟨t₁, t₂, text, rfl, h₁, h₂⟩ | ⟨-, h₁⟩
    · obtain ⟨rfl, htext⟩ := course_modeText h₁
      obtain rfl := Option.some.inj htext
      cases hmode : FileMode.parse (modeUsed mode) with
      | error e =>
        simp only [hmode] at h₂
        obtain ⟨rfl, rfl⟩ := course_done h₂
        rw [List.append_nil]
        exact ⟨_, rfl, .unreadableMode hdata hmode⟩
      | ok bits =>
        simp only [hmode] at h₂
        cases hlive : s.connection with
        | none =>
          simp only [hlive] at h₂
          obtain ⟨rfl, rfl⟩ := course_done h₂
          rw [List.append_nil]
          exact ⟨_, rfl, .unconnected hdata hmode hlive⟩
        | some n =>
          simp only [hlive] at h₂
          obtain ⟨reply, t₃, rfl, h₃⟩ := course_call h₂
          have hend : t₃ = [] ∧ r? = some (reply.mapError (transferFailed destination)) := by
            cases reply with
            | ok u => exact course_done h₃
            | error e => exact course_done h₃
          obtain ⟨rfl, rfl⟩ := hend
          exact ⟨_, rfl, .sent hdata hmode hlive reply⟩
    · obtain ⟨-, htext⟩ := course_modeText h₁
      cases htext

/-! ### ESXi -/

theorem course_reportAll {records : List LogRecord} {r? : Option Unit}
    (h : Course (reportAll records) t r?) : t = records.map reported ∧ r? = some () := by
  induction records generalizing t with
  | nil => exact course_done h
  | cons r rs ih =>
    obtain ⟨u, t₁, rfl, h₁⟩ := course_call h
    obtain ⟨rfl, rfl⟩ := ih h₁
    exact ⟨rfl, rfl⟩

theorem course_esxi {request : Esxi.Request} {r? : Option (Outcome Esxi.Answer)}
    (h : Course (s.esxi request) t r?) :
    (∃ e, request.command = .error e ∧ t = [] ∧ r? = some (.error e)) ∨
      ∃ command t₁ r, request.command = .ok command ∧ Ran s command t₁ r ∧
        t = t₁ ++ (request.conclude r).2.map reported ∧ r? = some (request.conclude r).1 := by
  unfold esxi at h
  cases hcommand : request.command with
  | error e =>
    simp only [hcommand] at h
    obtain ⟨rfl, rfl⟩ := course_done h
    exact .inl ⟨e, rfl, rfl, rfl⟩
  | ok command =>
    simp only [hcommand] at h
    obtain ⟨t₁, t₂, r, rfl, hran, h₁⟩ := course_run_bind h
    rcases course_bind h₁ with ⟨t₃, t₄, u, rfl, h₂, h₃⟩ | ⟨-, h₂⟩
    · obtain ⟨rfl, -⟩ := course_reportAll h₂
      obtain ⟨rfl, rfl⟩ := course_done h₃
      rw [List.append_nil]
      exact .inr ⟨command, t₁, r, rfl, hran, rfl, rfl⟩
    · obtain ⟨-, hsome⟩ := course_reportAll h₂
      cases hsome

/-! ### Reboots -/

/-- The session without its connection. -/
def disconnected (s : Session) : Session := { s with connection := none }

/-- The session over a connection. -/
def onConnection (s : Session) (n : Nat) : Session := { s with connection := some n }

/-- The failure of a reboot after which the host cannot be logged in to. -/
def reconnectFailed (s : Session) (e : Failure) : Failure where
  kind := .reconnectFailed
  message := s.address ++ " is reachable but reconnecting failed: " ++ e.message

/-- The calls up to the grace period, over the connection that goes down. -/
def goingDown (s : Session) (n : Nat) (closing : Outcome Unit) : Calls :=
  [announced s.rebootCommand, ⟨.start n s.rebootCommand, (.ok () : Outcome Unit)⟩,
    ⟨.close n, closing⟩, ⟨.sleep s.polling.graceSecs, ()⟩]

/-- A login that succeeds. -/
def loggedIn (s : Session) : Exchange Call Call.Reply :=
  ⟨.dial s.address s.policy, (.ok () : Outcome Unit)⟩

/-- A login that fails. -/
def turnedAway (s : Session) (e : Failure) : Calls :=
  [⟨.dial s.address s.policy, (.error e : Outcome Unit)⟩,
    reported (.warn ("reconnect to " ++ s.address ++ " failed: " ++ e.display))]

/-- The pause before a login. -/
def settling (s : Session) : Exchange Call Call.Reply := ⟨.sleep s.polling.settleSecs, ()⟩

/-- The courses of a reboot, with the calls `w` of the wait for the host. -/
inductive Rebooted (s : Session) : Calls → Option (Outcome Unit × Session) → Prop
  /-- There is no connection to send the command over. -/
  | unconnected (hlive : s.connection = none) :
      Rebooted s [] (some (.error s.notConnected, s))
  /-- The command cannot be started. -/
  | unstarted {n : Nat} (hlive : s.connection = some n) (e : Failure) :
      Rebooted s [announced s.rebootCommand, ⟨.start n s.rebootCommand, (.error e : Outcome Unit)⟩]
        (some (.error (e.context (s.naming s.rebootCommand)), s))
  /-- The clock cannot show how long to wait. -/
  | brokenOff {n : Nat} {w : Calls} (hlive : s.connection = some n) (closing : Outcome Unit)
      (hwait : Course s.waitReachable w none) :
      Rebooted s (s.goingDown n closing ++ w) none
  /-- The host does not come back in time. -/
  | timedOut {n : Nat} {w : Calls} {e : Failure} (hlive : s.connection = some n)
      (closing : Outcome Unit) (hwait : Course s.waitReachable w (some (.error e))) :
      Rebooted s (s.goingDown n closing ++ w) (some (.error e, s.disconnected))
  /-- The host comes back and cannot be logged in to. -/
  | refused {n : Nat} {w : Calls} {probes : Nat} (hlive : s.connection = some n)
      (closing : Outcome Unit) (hwait : Course s.waitReachable w (some (.ok probes)))
      (e : Failure) :
      Rebooted s (s.goingDown n closing ++ w ++ s.settling :: s.turnedAway e)
        (some (.error (s.reconnectFailed e), s.disconnected))
  /-- The host comes back and is logged in to. -/
  | back {n : Nat} {w : Calls} {probes : Nat} (hlive : s.connection = some n)
      (closing : Outcome Unit) (hwait : Course s.waitReachable w (some (.ok probes))) :
      Rebooted s (s.goingDown n closing ++ w ++ [s.settling, s.loggedIn])
        (some (.ok (), s.onConnection (n + 1)))

theorem course_redial {n : Nat} {r? : Option (Outcome Unit × Session)}
    (h : Course (s.redial n) t r?) :
    (t = [s.loggedIn] ∧ r? = some (.ok (), s.onConnection (n + 1))) ∨
      ∃ e, t = s.turnedAway e ∧ r? = some (.error (s.reconnectFailed e), s.disconnected) := by
  obtain ⟨reply, t₁, rfl, h₁⟩ := course_call h
  cases reply with
  | ok u =>
    obtain ⟨rfl, rfl⟩ := course_done h₁
    exact .inl ⟨rfl, rfl⟩
  | error e =>
    obtain ⟨u, t₂, rfl, h₂⟩ := course_call h₁
    obtain ⟨rfl, rfl⟩ := course_done h₂
    exact .inr ⟨e, rfl, rfl⟩

theorem course_reboot {r? : Option (Outcome Unit × Session)} (h : Course s.reboot t r?) :
    Rebooted s t r? := by
  unfold reboot at h
  cases hlive : s.connection with
  | none =>
    simp only [hlive] at h
    obtain ⟨rfl, rfl⟩ := course_done h
    exact .unconnected hlive
  | some n =>
    simp only [hlive] at h
    obtain ⟨u, t₁, rfl, h₁⟩ := course_call h
    obtain ⟨started, t₂, rfl, h₂⟩ := course_call h₁
    cases started with
    | error e =>
      obtain ⟨rfl, rfl⟩ := course_done h₂
      exact .unstarted hlive e
    | ok u' =>
      obtain ⟨closing, t₃, rfl, h₃⟩ := course_call h₂
      obtain ⟨u'', t₄, rfl, h₄⟩ := course_call h₃
      -- What is left is the wait, and then the pause and the login.
      rcases course_bind h₄ with ⟨w, t₅, found, rfl, hwait, h₅⟩ | ⟨rfl, hwait⟩
      · cases found with
        | error e =>
          obtain ⟨rfl, rfl⟩ := course_done h₅
          rw [List.append_nil]
          exact .timedOut hlive closing hwait
        | ok probes =>
          obtain ⟨u₅, t₆, rfl, h₆⟩ := course_call h₅
          have hassoc : ∀ x, s.goingDown n closing ++ w ++ s.settling :: x =
              s.goingDown n closing ++ (w ++ s.settling :: x) := fun x => List.append_assoc ..
          rcases course_redial h₆ with ⟨rfl, rfl⟩ | ⟨e, rfl, rfl⟩
          · have hback := Rebooted.back hlive closing hwait
            rw [hassoc] at hback
            exact hback
          · have hrefused := Rebooted.refused hlive closing hwait e
            rw [hassoc] at hrefused
            exact hrefused
      · exact .brokenOff hlive closing hwait

/-! ### Operations -/

/-- The courses of an operation. -/
inductive Performed (s : Session) : Operation → Calls → Option (Outcome Result × Session) → Prop
  | run {command : String} {t : Calls} {r : Outcome String} (h : Ran s command t r) :
      Performed s (.run command) t (some (r.map .output, s))
  | runIn {directory command : String} {t : Calls} {r : Outcome String}
      (h : Ran s (inDirectory directory command) t r) :
      Performed s (.runIn directory command) t (some (r.map .output, s))
  | list {path : String} {logOutput : Bool} {t : Calls} {r : Outcome String}
      (h : Ran s (listCommand path) t r) :
      Performed s (.list path logOutput) (t ++ listingLog logOutput r)
        (some ((r.map Text.nonEmptyLines).map .entries, s))
  | untar {archive directory : String} {t : Calls} {r : Outcome String}
      (h : Ran s (inDirectory directory (untarCommand archive)) t r) :
      Performed s (.untar archive directory) t
        (some ((Outcome.context ("extracting " ++ archive ++ " into " ++ directory)
          (r.map Text.nonEmptyLines)).map .entries, s))
  | upload {payload destination mode : String} {t : Calls} {r : Outcome Unit}
      (h : Uploaded s payload destination mode t r) :
      Performed s (.upload payload destination mode) t (some (r.map fun _ => .done, s))
  | waitReachable {w : Calls} {found? : Option (Outcome Nat)}
      (h : Course s.waitReachable w found?) :
      Performed s .waitReachable w (found?.map fun r => (r.map .probes, s))
  | reboot {t : Calls} {r? : Option (Outcome Unit × Session)} (h : Rebooted s t r?) :
      Performed s .reboot t (r?.map fun r => (r.1.map fun _ => .done, r.2))
  /-- No command comes of the request. -/
  | unasked {request : Esxi.Request} {e : Failure} (hcommand : request.command = .error e) :
      Performed s (.esxi request) [] (some (.error e, s))
  | asked {request : Esxi.Request} {command : String} {t : Calls} {r : Outcome String}
      (hcommand : request.command = .ok command) (h : Ran s command t r) :
      Performed s (.esxi request) (t ++ (request.conclude r).2.map reported)
        (some ((request.conclude r).1.map .esxi, s))

/-- A reboot among the operations takes the courses of a reboot. -/
theorem Performed.rebooted {r? : Option (Outcome Result × Session)}
    (h : Performed s .reboot t r?) :
    ∃ r₀?, Rebooted s t r₀? ∧ r? = r₀?.map fun r => (r.1.map fun _ => .done, r.2) := by
  cases h with
  | reboot h => exact ⟨_, h, rfl⟩

theorem Performed.rebooted_some {s' : Session} {r : Outcome Result}
    (h : Performed s .reboot t (some (r, s'))) :
    ∃ r₀ : Outcome Unit, Rebooted s t (some (r₀, s')) ∧ r = r₀.map fun _ => .done := by
  obtain ⟨r₀?, hrebooted, hr⟩ := h.rebooted
  obtain ⟨⟨r₀, s₀⟩, rfl, hr₀⟩ := Option.map_eq_some_iff.1 hr.symm
  cases hr₀
  exact ⟨r₀, hrebooted, rfl⟩

theorem course_keeping {α : Type} {f : α → Result} {d : Talk (Outcome α)}
    {r? : Option (Outcome Result × Session)} (h : Course (s.keeping f d) t r?) :
    ∃ a?, Course d t a? ∧ r? = a?.map fun a => (a.map f, s) := by
  rcases course_bind h with ⟨t₁, t₂, a, rfl, h₁, h₂⟩ | ⟨rfl, h₁⟩
  · obtain ⟨rfl, rfl⟩ := course_done h₂
    rw [List.append_nil]
    exact ⟨some a, h₁, rfl⟩
  · exact ⟨none, h₁, rfl⟩

theorem course_perform {o : Operation} {r? : Option (Outcome Result × Session)}
    (h : Course (s.perform o) t r?) : Performed s o t r? := by
  cases o with
  | run command =>
    obtain ⟨a?, h₁, rfl⟩ := course_keeping h
    obtain ⟨r, rfl, hran⟩ := course_run h₁
    exact .run hran
  | runIn directory command =>
    obtain ⟨a?, h₁, rfl⟩ := course_keeping h
    obtain ⟨r, rfl, hran⟩ := course_run h₁
    exact .runIn hran
  | list path logOutput =>
    obtain ⟨a?, h₁, rfl⟩ := course_keeping h
    obtain ⟨t₁, r, rfl, hran, rfl⟩ := course_list h₁
    exact .list hran
  | untar archive directory =>
    obtain ⟨a?, h₁, rfl⟩ := course_keeping h
    obtain ⟨r, hran, rfl⟩ := course_untar h₁
    exact .untar hran
  | upload payload destination mode =>
    obtain ⟨a?, h₁, rfl⟩ := course_keeping h
    obtain ⟨r, rfl, huploaded⟩ := course_upload h₁
    exact .upload huploaded
  | waitReachable =>
    obtain ⟨a?, h₁, rfl⟩ := course_keeping h
    exact .waitReachable h₁
  | reboot =>
    rcases course_bind h with ⟨t₁, t₂, r, rfl, h₁, h₂⟩ | ⟨rfl, h₁⟩
    · obtain ⟨rfl, rfl⟩ := course_done h₂
      rw [List.append_nil]
      exact .reboot (course_reboot h₁)
    · exact .reboot (course_reboot h₁)
  | esxi request =>
    obtain ⟨a?, h₁, rfl⟩ := course_keeping h
    rcases course_esxi h₁ with ⟨e, hcommand, rfl, rfl⟩ | ⟨command, t₁, r, hcommand, hran, rfl, rfl⟩
    · exact .unasked hcommand
    · exact .asked hcommand hran

end Session

end RemoteHost.Ssh
