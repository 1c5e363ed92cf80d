/-
RemoteHost/Proofs/Ssh/FileUpload.lean

What an upload writes, and what keeps it from writing.

An upload needs three things: a payload that is base64 (`Encodes`), a mode that gives permission
bits (`GivesMode`), and a connection.  With all three it sends one file, which has the bytes of
the payload; otherwise nothing goes over a connection, and the first thing that is missing is
what the failure names (`upload_writes_payload`).

The listing `Uploaded` of the courses of an upload says what the reader of base64 and the reader of
modes did.  Here the first of them is replaced by the writer of base64, which it inverts, so that
what is sent is settled by the text of the payload alone.
-/
import RemoteHost.Proofs.Ssh.ConnectionLine
import RemoteHost.Proofs.Ssh.SessionRuns
import RemoteHost.Proofs.Text.Base64
import RemoteHost.Proofs.Text.Blank

namespace RemoteHost.Ssh.Session

open Dialogue

variable {s : Session} {payload destination mode : String}

/-! ### Kinds of failures -/

/-- The outcome is a failure of this kind. -/
def FailsAs {α : Type} (kind : FailureKind) (r : Outcome α) : Prop :=
  ∃ e, r = .error e ∧ e.kind = kind

theorem failsAs_map {α β : Type} {kind : FailureKind} {r : Outcome α} {f : α → β}
    (h : FailsAs kind r) : FailsAs kind (r.map f) := by
  obtain ⟨e, rfl, hkind⟩ := h
  exact ⟨e, rfl, hkind⟩

/-! ### Payloads -/

/-- The characters of a payload that are not blank are the base64 of these bytes. -/
def Encodes (payload : String) (data : Bytes) : Prop :=
  payload.toList.filter (!Text.isBlank ·) = Base64.encodeChars data

theorem payloadBytes_eq_ok_iff {data : Bytes} :
    payloadBytes payload destination = .ok data ↔ Encodes payload data := by
  have hcompact : Utf8.encode (String.ofList (payload.toList.filter (!Text.isBlank ·))) =
      Utf8.encodeChars (payload.toList.filter (!Text.isBlank ·)) := by
    rw [Utf8.encode, String.toList_ofList]
  unfold payloadBytes Encodes
  simp only [hcompact]
  rw [← Base64.decode_encodeChars_iff]
  cases Base64.decode (Utf8.encodeChars (payload.toList.filter (!Text.isBlank ·))) with
  | ok data' => rw [Except.ok.injEq, Except.ok.injEq]
  | error e =>
    apply iff_of_false
    · intro h
      cases h
    · intro h
      cases h

theorem kind_of_payloadBytes {e : Failure} (h : payloadBytes payload destination = .error e) :
    e.kind = .invalidEncoding := by
  unfold payloadBytes at h
  simp only at h
  split at h
  · cases h
  · cases h
    rfl

/-- Base64 has no blanks of its own, so blanks that are put in do not count. -/
theorem encodes_of_spaced {data : Bytes}
    (h : Text.Spaced (Base64.encodeChars data) payload.toList) : Encodes payload data :=
  Base64.filter_of_spaced h

/-! ### Modes -/

/-- The text gives these permission bits: those that it spells, or the usual ones if it is blank. -/
def GivesMode (mode : String) (bits : Nat) : Prop :=
  (Text.allBlank mode = true ∧ bits = 0o655) ∨
    (Text.allBlank mode = false ∧ ∃ m, FileMode.parse mode = .ok m ∧ bits = m.val)

theorem parse_defaultText : FileMode.parse FileMode.defaultText = .ok ⟨0o655, by decide⟩ := by
  rfl

theorem givesMode_iff {bits : Nat} :
    GivesMode mode bits ↔ ∃ m, FileMode.parse (modeUsed mode) = .ok m ∧ bits = m.val := by
  unfold GivesMode modeUsed
  cases hblank : Text.allBlank mode with
  | true =>
    rw [if_pos rfl, parse_defaultText]
    constructor
    · rintro (⟨-, rfl⟩ | ⟨h, -⟩)
      · exact ⟨_, rfl, rfl⟩
      · cases h
    · rintro ⟨m, hm, rfl⟩
      cases hm
      exact .inl ⟨rfl, rfl⟩
  | false =>
    rw [if_neg Bool.false_ne_true]
    constructor
    · rintro (⟨h, -⟩ | ⟨-, h⟩)
      · cases h
      · exact h
    · exact fun h => .inr ⟨rfl, h⟩

theorem kind_of_parse {text : String} {e : Failure} (h : FileMode.parse text = .error e) :
    e.kind = .invalidMode := by
  unfold FileMode.parse at h
  split at h
  · cases h
  · cases h
    rfl

/-! ### What goes over a connection -/

/-- The call sends the file of an upload for which nothing is missing. -/
structure Sends (s : Session) (payload destination mode : String) (c : Call) (n bits : Nat)
    (data : Bytes) : Prop where
  call_eq : c = .sendFile n destination bits data
  encodes : Encodes payload data
  givesMode : GivesMode mode bits
  connected : s.connection = some n

theorem quiet_of_mem_modeLog {x : Exchange Call Call.Reply} (h : x ∈ modeLog mode destination) :
    x.call.isQuiet = true := by
  unfold modeLog at h
  split at h
  · rw [List.mem_singleton.1 h]
    rfl
  · cases h

theorem not_mem_modeLog {c : Call} (hc : c.isQuiet = false) :
    ¬ ∃ x ∈ modeLog mode destination, x.call = c := by
  rintro ⟨x, hx, rfl⟩
  rw [quiet_of_mem_modeLog hx] at hc
  cases hc

namespace Uploaded

variable {t : Calls} {r : Outcome Unit}

/-- Where nothing is missing, an upload takes the course on which the file is sent. -/
theorem exists_eq_of_sends {c : Call} {n bits : Nat} {data : Bytes}
    (h : Uploaded s payload destination mode t r)
    (hsends : Sends s payload destination mode c n bits data) :
    ∃ reply : Outcome Unit,
      t = modeLog mode destination ++ [⟨.sendFile n destination bits data, reply⟩] ∧
      r = reply.mapError (transferFailed destination) := by
  have hdata : payloadBytes payload destination = .ok data :=
    payloadBytes_eq_ok_iff.2 hsends.encodes
  obtain ⟨m, hmode, hbits⟩ := givesMode_iff.1 hsends.givesMode
  have hlive := hsends.connected
  cases h with
  | undecodable h =>
    rw [hdata] at h
    cases h
  | unreadableMode _ h =>
    rw [hmode] at h
    cases h
  | unconnected _ _ h =>
    rw [hlive] at h
    cases h
  | sent h₁ h₂ h₃ reply =>
    rw [hdata] at h₁
    rw [hmode] at h₂
    rw [hlive] at h₃
    cases h₁
    cases h₂
    cases h₃
    exact ⟨reply, by rw [hbits], rfl⟩

/-- A call goes over a connection just where nothing is missing, and then it sends the file. -/
theorem exists_call_iff {c : Call} (h : Uploaded s payload destination mode t r)
    (hc : c.isQuiet = false) :
    (∃ x ∈ t, x.call = c) ↔ ∃ n bits data, Sends s payload destination mode c n bits data := by
  constructor
  · rintro ⟨x, hx, rfl⟩
    cases h with
    | undecodable h => exact absurd hx List.not_mem_nil
    | unreadableMode _ _ => exact absurd ⟨x, hx, rfl⟩ (not_mem_modeLog hc)
    | unconnected _ _ _ => exact absurd ⟨x, hx, rfl⟩ (not_mem_modeLog hc)
    | @sent data bits n hdata hmode hlive reply =>
      rcases List.mem_append.1 hx with hx | hx
      · exact absurd ⟨x, hx, rfl⟩ (not_mem_modeLog hc)
      · rw [List.mem_singleton.1 hx]
        exact ⟨n, bits.val, data, rfl, payloadBytes_eq_ok_iff.1 hdata,
          givesMode_iff.2 ⟨bits, hmode, rfl⟩, hlive⟩
  · rintro ⟨n, bits, data, hsends⟩
    obtain ⟨reply, rfl, -⟩ := h.exists_eq_of_sends hsends
    refine ⟨_, List.mem_append_right _ (List.mem_singleton_self _), ?_⟩
    exact hsends.call_eq.symm

theorem countP_le_one (h : Uploaded s payload destination mode t r) :
    t.countP (!·.call.isQuiet) ≤ 1 := by
  have hlog : (modeLog mode destination).countP (!·.call.isQuiet) = 0 := by
    rw [List.countP_eq_zero]
    intro x hx
    rw [quiet_of_mem_modeLog hx]
    decide
  cases h with
  | undecodable _ => exact Nat.zero_le 1
  | unreadableMode _ _ => rw [hlog]; exact Nat.zero_le 1
  | unconnected _ _ _ => rw [hlog]; exact Nat.zero_le 1
  | sent _ _ _ reply =>
    rw [List.countP_append, hlog, Nat.zero_add]
    exact List.countP_le_length

/-- The first thing that is missing decides about the failure: the payload, the mode, the
connection. -/
theorem failsAs (h : Uploaded s payload destination mode t r) :
    ((¬ ∃ data, Encodes payload data) → FailsAs .invalidEncoding r) ∧
    ((∃ data, Encodes payload data) → (¬ ∃ bits, GivesMode mode bits) → FailsAs .invalidMode r) ∧
    ((∃ data, Encodes payload data) → (∃ bits, GivesMode mode bits) → s.connection = none →
      FailsAs .notConnected r) := by
  -- Each course says of the three things how they stand, up to the first one that is missing.
  have hsome : ∀ {data : Bytes}, payloadBytes payload destination = .ok data →
      ∃ data, Encodes payload data := fun hdata => ⟨_, payloadBytes_eq_ok_iff.1 hdata⟩
  have hbits : ∀ {m : FileMode}, FileMode.parse (modeUsed mode) = .ok m →
      ∃ bits, GivesMode mode bits := fun hmode => ⟨_, givesMode_iff.2 ⟨_, hmode, rfl⟩⟩
  have hnone : ∀ {e : Failure}, payloadBytes payload destination = .error e →
      ¬ ∃ data, Encodes payload data := by
    rintro e he ⟨data, hdata⟩
    rw [payloadBytes_eq_ok_iff.2 hdata] at he
    cases he
  have hunread : ∀ {e : Failure}, FileMode.parse (modeUsed mode) = .error e →
      ¬ ∃ bits, GivesMode mode bits := by
    rintro e he ⟨bits, hgives⟩
    obtain ⟨m, hm, -⟩ := givesMode_iff.1 hgives
    rw [hm] at he
    cases he
  cases h with
  | undecodable hdata =>
    refine ⟨fun _ => ⟨_, rfl, kind_of_payloadBytes hdata⟩, ?_, ?_⟩
    · exact fun h => absurd h (hnone hdata)
    · exact fun h => absurd h (hnone hdata)
  | unreadableMode hdata hmode =>
    refine ⟨fun h => absurd (hsome hdata) h, fun _ _ => ⟨_, rfl, kind_of_parse hmode⟩, ?_⟩
    exact fun _ h => absurd h (hunread hmode)
  | unconnected hdata hmode hlive =>
    refine ⟨fun h => absurd (hsome hdata) h, fun _ h => absurd (hbits hmode) h, ?_⟩
    exact fun _ _ _ => ⟨_, rfl, rfl⟩
  | sent hdata hmode hlive reply =>
    refine ⟨fun h => absurd (hsome hdata) h, fun _ h => absurd (hbits hmode) h, ?_⟩
    intro _ _ h
    rw [hlive] at h
    cases h

end Uploaded

/-! ### Uploads -/

/-- **An upload writes the bytes of its payload, or nothing.**  Of the calls that go over a
connection or make one, an upload makes at most one, and it makes one just where the payload is
base64 of some data, the mode gives some bits and there is a connection: it sends these data with
these bits to the destination over this connection.

An upload always has a result and leaves the session as it is.  Without base64, the failure is of
the encoding; else, without bits, of the mode; else, without a connection, of the connection.  With
all three the calls are the log entry for a blank mode, if it is one, and the transfer, and a
transfer that fails makes the upload fail as such.

So the base64 of any data, with blanks put in anywhere, writes these data. -/
theorem upload_writes_payload {ω : Type} (answer : (c : Call) → ω → c.Reply × ω) (w : ω)
    (s : Session) (payload destination mode : String) :
    let played := play answer (s.perform (.upload payload destination mode)) w
    (∀ c : Call, c.isQuiet = false →
      ((∃ x ∈ played.exchanges, x.call = c) ↔
        ∃ n bits data, Sends s payload destination mode c n bits data)) ∧
    played.exchanges.countP (!·.call.isQuiet) ≤ 1 ∧
    (∃ r, played.result? = some (r, s) ∧
      ((¬ ∃ data, Encodes payload data) → FailsAs .invalidEncoding r) ∧
      ((∃ data, Encodes payload data) → (¬ ∃ bits, GivesMode mode bits) →
        FailsAs .invalidMode r) ∧
      ((∃ data, Encodes payload data) → (∃ bits, GivesMode mode bits) → s.connection = none →
        FailsAs .notConnected r) ∧
      ∀ c n bits data, Sends s payload destination mode c n bits data →
        ∃ reply : Outcome Unit,
          played.exchanges =
            modeLog mode destination ++ [⟨.sendFile n destination bits data, reply⟩] ∧
          (reply = .ok () → r = .ok .done) ∧
          ∀ e, reply = .error e → FailsAs .transferFailed r) ∧
    ∀ n bits data, s.connection = some n → GivesMode mode bits →
      Text.Spaced (Base64.encodeChars data) payload.toList →
      ∃ x ∈ played.exchanges, x.call = .sendFile n destination bits data := by
  have hperformed := course_perform
    (course_of_play answer (s.perform (.upload payload destination mode)) w)
  generalize play answer (s.perform (.upload payload destination mode)) w = played at hperformed ⊢
  obtain ⟨result?, exchanges, state⟩ := played
  cases hperformed with
  | @upload _ _ _ t r h =>
    obtain ⟨hencoding, hmode, hconnection⟩ := h.failsAs
    refine ⟨?_, h.countP_le_one, ⟨_, rfl, ?_, ?_, ?_, ?_⟩, ?_⟩
    · intro c hc
      exact h.exists_call_iff hc
    · exact fun h₁ => failsAs_map (hencoding h₁)
    · exact fun h₁ h₂ => failsAs_map (hmode h₁ h₂)
    · exact fun h₁ h₂ h₃ => failsAs_map (hconnection h₁ h₂ h₃)
    · intro c n bits data hsends
      obtain ⟨reply, rfl, rfl⟩ := h.exists_eq_of_sends hsends
      refine ⟨reply, rfl, ?_, ?_⟩
      · rintro rfl
        rfl
      · rintro e rfl
        exact ⟨_, rfl, rfl⟩
    · intro n bits data hlive hgives hspaced
      have hsends :
          Sends s payload destination mode (.sendFile n destination bits data) n bits data :=
        ⟨rfl, encodes_of_spaced hspaced, hgives, hlive⟩
      exact (h.exists_call_iff rfl).2 ⟨n, bits, data, hsends⟩

end RemoteHost.Ssh.Session
