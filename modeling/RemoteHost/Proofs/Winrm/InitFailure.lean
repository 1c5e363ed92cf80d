/-
RemoteHost/Proofs/Winrm/InitFailure.lean

What a client reports when it does not get a shell.

A client comes to its shell in stages: the configuration names a host and a user, the address of
the service is read, an HTTP client is made, an earlier shell is closed and the new one is opened.
What the last stage fails with is searched for its cause, and the failure that is reported is of
the kind of that cause and names the address of the host (`classified_connectionFailure`).  What
the stages before it fail with is reported as it is.  A failure to read the address of the service
quotes the target and never its port: the address has a colon behind the target where the failure
has a quotation mark (`not_contains_address_of_endpoint`).

So the failures that tell their cause and name the address are those to open the shell
(`init_failure_by_stage`).  A target that ends in a port of its own leads to one that does neither
(`invalid_port_is_not_told`).
-/
import RemoteHost.Proofs.Text.Numeral
import RemoteHost.Proofs.Winrm.FaultOfHost

namespace RemoteHost.Winrm

open Dialogue Text

/-! ### Texts with one colon more -/

/-- A text with a character in it is in no other text where what follows the last of these
characters goes on otherwise. -/
theorem not_isInfix_of_last {c : Char} {t d p q f : List Char} (hp : c ∉ p) (hq : c ∉ q)
    (hf : c ∉ f) (hd : ¬ d <+: f) : ¬ t ++ c :: d <:+: p ++ (t ++ (q ++ c :: f)) := by
  rintro ⟨a, b, h⟩
  -- Both have the character once more than `t`, so it is the last one here and there.
  have hcount := congrArg (List.count c) h
  simp only [List.count_append, List.count_cons_self, List.count_eq_zero_of_not_mem hp,
    List.count_eq_zero_of_not_mem hq, List.count_eq_zero_of_not_mem hf] at hcount
  have hdb : c ∉ d ++ b := by
    rw [← List.count_eq_zero, List.count_append]
    omega
  have hlast : (a ++ t) ++ c :: (d ++ b) = (p ++ t ++ q) ++ c :: f := by simpa using h
  rcases List.append_eq_append_iff.1 hlast with ⟨m, -, hm⟩ | ⟨m, -, hm⟩
  · cases m with
    | nil => exact hd ⟨b, (List.cons.inj hm).2⟩
    | cons x m =>
      refine hdb ?_
      rw [(List.cons.inj hm).2]
      exact List.mem_append_right m List.mem_cons_self
  · cases m with
    | nil => exact hd ⟨b, (List.cons.inj hm).2.symm⟩
    | cons x m =>
      refine hf ?_
      rw [(List.cons.inj hm).2]
      exact List.mem_append_right m List.mem_cons_self

/-! ### Calls for a shell over HTTP -/

namespace Service

theorem returns_openShell (s : Service) : Returns s.openShell := by
  rw [openShell_eq]
  exact (s.returns_request _).bind fun _ => .done _

theorem returns_closeShell (s : Service) (shell : String) : Returns (s.closeShell shell) :=
  (s.returns_request _).bind fun _ => .done _

theorem carried_report {polls : Nat} {r : LogRecord}
    {u : List (Exchange HttpCall HttpCall.Reply)}
    (h : Carried (carry polls) [⟨.report r, ()⟩] u) : u = [⟨.report r, ()⟩] := by
  obtain ⟨u₁, u₂, rfl, hreport, hrest⟩ := carried_cons h
  obtain ⟨_, rest, rfl, hdone⟩ := runs_ask.1 hreport
  obtain ⟨rfl, -⟩ := runs_done.1 hdone
  obtain rfl := carried_nil hrest
  rfl

end Service

/-! ### Failures that tell their cause -/

namespace Client

variable {σ : Type} {env : Environment} {c c' : Client Service} {s : Service} {e : Failure}

/-- The failure is of the kind of the cause that a text tells, and names the address. -/
structure Classified (c : Client σ) (text : String) (e : Failure) : Prop where
  kind_eq : e.kind = (ConnectionFault.ofText text).kind
  names_address : contains e.message c.address

theorem words_eq (address : String) (fault : ConnectionFault) :
    ∃ a b, fault.words address = a ++ address ++ b := by
  cases fault with
  | invalidPort => exact ⟨_, _, rfl⟩
  | timeout => exact ⟨_, _, rfl⟩
  | invalidCredentials => exact ⟨_, "", String.append_empty.symm⟩
  | other => exact ⟨_, "", String.append_empty.symm⟩

theorem classified_connectionFailure (c : Client σ) (cause : Failure) :
    c.Classified cause.message (connectionFailure c.address cause) where
  kind_eq := kind_connectionFailure c.address cause
  names_address := by
    obtain ⟨a, b, hwords⟩ := words_eq c.address (ConnectionFault.ofText cause.message)
    rw [connectionFailure_eq rfl, hwords, String.append_assoc, String.append_assoc]
    exact contains_between a c.address _

/-! ### Addresses that cannot be read -/

theorem endpoint_eq_error (h : c.config.endpoint = .error e) : ∃ fault : Url.Fault,
    e = { kind := .connectionFailed
          message := "invalid WinRM endpoint for '" ++ c.config.target ++ "': " ++
            fault.message } := by
  unfold Config.endpoint at h
  split at h
  · cases h
  · next fault _ => exact ⟨fault, (Except.error.inj h).symm⟩

theorem not_contains_address_of_endpoint (h : c.config.endpoint = .error e) :
    ¬ contains e.message c.address := by
  obtain ⟨fault, rfl⟩ := endpoint_eq_error h
  have hfault : ':' ∉ fault.message.toList := by
    cases fault <;> decide
  -- Behind the target and a colon the address goes on with a digit, and the failure with a space.
  have hdigits : ¬ (toString c.config.port).toList <+: ' ' :: fault.message.toList := by
    rw [Nat.toString_eq_ofList_toDigits, String.toList_ofList]
    exact not_toDigits_isPrefix (by decide)
  have hnot : ':' ∉ ' ' :: fault.message.toList := by
    rw [List.mem_cons, not_or]
    exact ⟨by decide, hfault⟩
  have haddress : c.address.toList =
      c.config.target.toList ++ ':' :: (toString c.config.port).toList := by
    rw [address, String.toList_append, String.toList_append, List.append_assoc]
    rfl
  have hmessage : ("invalid WinRM endpoint for '" ++ c.config.target ++ "': " ++
      fault.message).toList = "invalid WinRM endpoint for '".toList ++ (c.config.target.toList ++
        ("'".toList ++ ':' :: ' ' :: fault.message.toList)) := by
    rw [String.toList_append, String.toList_append, String.toList_append, List.append_assoc,
      List.append_assoc]
    rfl
  rw [contains, occurs_iff, haddress, hmessage]
  exact not_isInfix_of_last (by decide) (by decide) hnot hdigits

/-! ### The stages before a shell is opened -/

/-- A configuration without a host or a user is told as that. -/
theorem kind_of_checkLogin (h : checkLogin c.config = .error e) : e.kind = .missingCredential := by
  unfold checkLogin at h
  split at h
  · rw [← Except.error.inj h]
  · split at h
    · rw [← Except.error.inj h]
    · cases h

theorem service_eq_error_of_checkLogin (h : checkLogin c.config = .error e) :
    service env c.config = .error e := by
  rw [service, h]
  rfl

theorem service_eq_of_checkLogin (h : checkLogin c.config = .ok ()) : service env c.config =
    Service.ofConfig c.config (.ofName env c.config.username c.config.password) := by
  rw [service, h]
  exact pure_bind () _

/-- There is no service if no host or no user is configured, or if the address cannot be read. -/
theorem service_eq_error_iff : service env c.config = .error e ↔
    checkLogin c.config = .error e ∨
      checkLogin c.config = .ok () ∧ c.config.endpoint = .error e := by
  cases hlogin : checkLogin c.config with
  | error e' =>
    rw [service_eq_error_of_checkLogin hlogin]
    simp
  | ok u =>
    rw [service_eq_of_checkLogin hlogin, Service.ofConfig]
    cases c.config.endpoint with
    | ok u => simp [Except.map]
    | error e' => simp [Except.map]

theorem endpoint_of_service (h : service env c.config = .ok s) :
    checkLogin c.config = .ok () ∧ ∃ u, c.config.endpoint = .ok u := by
  cases hlogin : checkLogin c.config with
  | error e =>
    rw [service_eq_error_of_checkLogin hlogin] at h
    cases h
  | ok u =>
    refine ⟨rfl, ?_⟩
    cases hendpoint : c.config.endpoint with
    | ok u => exact ⟨u, rfl⟩
    | error e =>
      rw [service_eq_error_iff.2 (.inr ⟨hlogin, hendpoint⟩)] at h
      cases h

theorem classified_noHttpClient_iff {text reason : String} :
    c.Classified text (noHttpClient reason) ↔
      ConnectionFault.ofText text = .other ∧ contains (noHttpClient reason).message c.address := by
  constructor
  · rintro ⟨hkind, haddress⟩
    exact ⟨ConnectionFault.kind_injective hkind.symm, haddress⟩
  · rintro ⟨hother, haddress⟩
    exact ⟨by rw [hother]; rfl, haddress⟩

/-! ### Clients over HTTP -/

theorem returns_destroy_through (polls : Nat) (c : Client Service) :
    Returns (c.destroy.through (Service.carry polls)) := by
  unfold destroy
  split
  · exact (Service.returns_closeShell _ _).bind fun _ => .done _
  · exact .done _

theorem returns_openOver_through (polls : Nat) (c : Client Service) (s : Service) :
    Returns ((c.openOver s).through (Service.carry polls)) := by
  unfold openOver
  rw [through_bind]
  refine (c.returns_destroy_through polls).bind fun closed => ?_
  rw [through_bind]
  have hreport : Returns ((closed.2.reportClosing closed.1).through (Service.carry polls)) := by
    cases closed.1 with
    | ok u => exact .done _
    | error e => exact .ask fun _ => .done _
  refine hreport.bind fun _ => ?_
  refine s.returns_openShell.bind fun reply => ?_
  cases reply with
  | ok id => exact .done _
  | error e => exact .ask fun _ => .done _

theorem returns_initWith_through (polls : Nat) (http : Except String Unit) (env : Environment)
    (c : Client Service) : Returns ((c.initWith http env).through (Service.carry polls)) := by
  unfold initWith
  split
  · exact .done _
  · split
    · exact .done _
    · exact c.returns_openOver_through polls _

/-- Over HTTP, too, the failure to open a shell comes last, and is reported. -/
theorem opening_of_carried {polls : Nat} {s : Service} {t : List (ShellExchange Service)}
    {u : List (Exchange HttpCall HttpCall.Reply)} (h : Runs (c.openOver s) t (.error e, c'))
    (hcarried : Carried (Service.carry polls) t u) :
    ∃ before opening cause, u = before ++ (opening ++ [⟨.report (.error e.display), ()⟩]) ∧
      Runs s.openShell opening (.error cause) ∧ e = connectionFailure c.address cause := by
  obtain ⟨-, t₁, t₂, t₃, reply, rfl, -, -, ⟨-, -, -, hr, -⟩ | ⟨cause, rfl, rfl, hr, -⟩⟩ :=
    runs_openOver h
  · cases hr
  · -- Closing the earlier shell, with its report, is what comes before.
    obtain rfl := Except.error.inj hr
    rw [← List.append_assoc] at hcarried
    obtain ⟨before, u', rfl, -, hcarried⟩ := carried_append hcarried
    obtain ⟨opening, u'', rfl, hopening, hcarried⟩ := carried_cons hcarried
    exact ⟨before, opening, cause, by rw [Service.carried_report hcarried], hopening, rfl⟩

/-! ### What is reported -/

/-- **The cause and the address in a failure.**  A client comes to its shell over HTTP, against any
outside and with any HTTP client.  This ends, with a shell only if there are a service and an HTTP
client.  A failure is that no host or no user is configured, or it arises at one of three stages.
If the address of the service cannot be read, no request is made, the failure is of the kind
`connectionFailed` whatever the words say, and it does not name the address.  If there is no HTTP
client, it is of that kind, too.  Otherwise opening the shell has failed for a cause: then the
failure is of the kind that the words of this cause tell, and names the address. -/
theorem init_failure_by_stage {ω : Type} (answer : (x : HttpCall) → ω → x.Reply × ω) (w : ω)
    (polls : Nat) (http : Except String Unit) (env : Environment) (c : Client Service) :
    let played := ((c.initWith http env).through (Service.carry polls)).play answer w
    ∃ r c', played.result? = some (r, c') ∧
      (r = .ok () → ∃ s, service env c.config = .ok s ∧ http = .ok ()) ∧
      ∀ e, r = .error e →
        (checkLogin c.config = .error e ∧ e.kind = .missingCredential ∧ played.exchanges = []) ∨
        checkLogin c.config = .ok () ∧
          ((c.config.endpoint = .error e ∧ played.exchanges = [] ∧ e.kind = .connectionFailed ∧
              ∀ text, ¬ c.Classified text e) ∨
            (∃ u reason, c.config.endpoint = .ok u ∧ http = .error reason ∧
              played.exchanges = [] ∧ e = noHttpClient reason ∧
              ∀ text, c.Classified text e ↔ ConnectionFault.ofText text = .other ∧
                contains e.message c.address) ∨
            ∃ s before opening cause, service env c.config = .ok s ∧ http = .ok () ∧
              played.exchanges = before ++ (opening ++ [⟨.report (.error e.display), ()⟩]) ∧
              Runs s.openShell opening (.error cause) ∧ c.Classified cause.message e) := by
  intro played
  obtain ⟨⟨r, c'⟩, hresult⟩ := (returns_initWith_through polls http env c).play answer w
  obtain ⟨t, hinit, hcarried⟩ := runs_through.1 (runs_of_play hresult)
  refine ⟨r, c', hresult, ?_, ?_⟩
  · rintro rfl
    rcases runs_initWith hinit with ⟨_, _, _, hr, _⟩ | ⟨_, _, _, _, _, hr, _⟩ |
      ⟨s, hservice, hhttp, -⟩
    · cases hr
    · cases hr
    · exact ⟨s, hservice, hhttp⟩
  rintro e rfl
  rcases runs_initWith hinit with ⟨e', hservice, rfl, hr, -⟩ |
    ⟨s, reason, hservice, hhttp, rfl, hr, -⟩ | ⟨s, hservice, hhttp, hopen⟩
  · -- There is no service: the login or the address is at fault.
    obtain rfl := Except.error.inj hr
    have hnone : played.exchanges = [] := carried_nil hcarried
    rcases service_eq_error_iff.1 hservice with hlogin | ⟨hlogin, hendpoint⟩
    · exact .inl ⟨hlogin, kind_of_checkLogin hlogin, hnone⟩
    · refine .inr ⟨hlogin, .inl ⟨hendpoint, hnone, ?_, fun text hclassified => ?_⟩⟩
      · obtain ⟨fault, rfl⟩ := endpoint_eq_error hendpoint
        rfl
      · exact not_contains_address_of_endpoint hendpoint hclassified.names_address
  · -- There is a service, but no HTTP client.
    obtain rfl := Except.error.inj hr
    obtain ⟨hlogin, u, hendpoint⟩ := endpoint_of_service hservice
    exact .inr ⟨hlogin, .inr (.inl ⟨u, reason, hendpoint, hhttp, carried_nil hcarried, rfl,
      fun text => classified_noHttpClient_iff⟩)⟩
  · -- The shell was asked for, and this is what came of it.
    obtain ⟨before, opening, cause, hexchanges, hopening, rfl⟩ := opening_of_carried hopen hcarried
    exact .inr ⟨(endpoint_of_service hservice).1, .inr (.inr ⟨s, before, opening, cause, hservice,
      hhttp, hexchanges, hopening, c.classified_connectionFailure cause⟩)⟩

/-- A client for the host `[::1]` with a port behind it that is no number. -/
def misplacedPort : Client Service :=
  { config := { target := "[::1]:x", username := "admin", password := "pw" } }

/-- The failure tells of an invalid port in its words only: it is of another kind, and it does not
name the address. -/
theorem invalid_port_is_not_told :
    let played := ((misplacedPort.init fun _ => none).through (Service.carry 1)).play offline ()
    ∃ e, played.result? = some (.error e, misplacedPort) ∧
      e.message = "invalid WinRM endpoint for '[::1]:x': invalid port number" ∧
      e.kind = .connectionFailed ∧ (ConnectionFault.ofText e.message).kind = .invalidPort ∧
      (ConnectionFault.ofText "invalid port number").kind = .invalidPort ∧
      misplacedPort.address = "[::1]:x:5985" ∧ ¬ contains e.message misplacedPort.address := by
  refine ⟨⟨.connectionFailed, "invalid WinRM endpoint for '[::1]:x': invalid port number", none⟩,
    by rfl, rfl, rfl, ?_⟩
  decide +kernel

end Client

end RemoteHost.Winrm
