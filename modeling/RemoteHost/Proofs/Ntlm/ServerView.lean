/-
RemoteHost/Proofs/Ntlm/ServerView.lean

The third message as the server reads it.

The server has its challenge, as it sent it, and knows the password of the account.  It takes the
fields out of the answer through their descriptors (`fieldOf?`), decodes the names, makes the
hash of the login from them and checks the two proofs: each is an authentication code under that
hash, of the server's own nonce and of what follows the code in the field.  All of it comes out
right (`server_reads_proofs`), for every login name, split at its first backslash, and every
challenge that was accepted, as long as the fields fit their descriptors.
-/
import RemoteHost.Proofs.Ntlm.SecurityBuffers
import RemoteHost.Proofs.Text.Search
import RemoteHost.Proofs.Text.Utf16

namespace RemoteHost.Ntlm

/-! ### Names -/

/-- A login name is a domain and a user with a backslash between them, the first one of the
name; or it has no backslash, and is the user of no domain. -/
def IsSplit (name domain user : String) : Prop :=
  (name = domain ++ "\\" ++ user ∧ '\\' ∉ domain.toList) ∨
    ('\\' ∉ name.toList ∧ domain = "" ∧ user = name)

theorem isSplit_splitName (name : String) : IsSplit name (splitName name).1 (splitName name).2 := by
  unfold splitName
  split
  · next domain user h =>
    obtain ⟨hname, hdomain⟩ := Text.eq_append_of_splitOnce h
    refine .inl ⟨?_, by rwa [String.toList_ofList]⟩
    rw [← String.toList_inj, hname]
    simp
  · next h => exact .inr ⟨Text.not_mem_of_splitOnce h, rfl, rfl⟩

namespace Login

/-! ### Fields -/

/-- A field of a message, by its number, read through its descriptor. -/
def fieldOf? (m : Bytes) (i : Nat) : Option Bytes := do
  let b ← securityBuffer? m (12 + 8 * i)
  slice? m b.start b.length

theorem Describes.fieldOf?_eq {m : Bytes} {fields : List Bytes} (h : Describes m fields) (i : Nat)
    (hi : i < fields.length) : fieldOf? m i = some fields[i] := by
  obtain ⟨b, hb, -, -, -, hslice, -⟩ := h i hi
  rw [fieldOf?, hb]
  exact hslice

variable (c : Challenge) {nonce : Bytes} (time : Nat)

/-- The blob of the client holds the time, the client's nonce and the target info. -/
theorem blob_parts (hnonce : nonce.length = 8) (htime : time < UInt64.size) :
    numberAt? (blob c nonce time) 8 8 = some time ∧
      slice? (blob c nonce time) 16 8 = some nonce ∧
      slice? (blob c nonce time) 28 c.targetInfo.length = some c.targetInfo := by
  have hopening : ([1, 1, 0, 0] : Bytes).length = 4 := rfl
  have hzeros : (List.replicate 4 (0 : UInt8)).length = 4 := List.length_replicate
  have htimeBytes : (littleEndianBytes 8 time).length = 8 := length_littleEndianBytes 8 time
  have h₁ : numberAt? (blob c nonce time) (4 + (4 + 0)) 8 = some time := by
    simp only [blob, List.append_assoc]
    rw [numberAt?_skip hopening, numberAt?_skip hzeros, numberAt?_front]
    exact congrArg some (Nat.mod_eq_of_lt htime)
  have h₂ : slice? (blob c nonce time) (4 + (4 + (8 + 0))) 8 = some nonce := by
    simp only [blob, List.append_assoc]
    rw [slice?_skip hopening, slice?_skip hzeros, slice?_skip htimeBytes, slice?_front _ _ hnonce]
  have h₃ : slice? (blob c nonce time) (4 + (4 + (8 + (8 + (4 + 0))))) c.targetInfo.length =
      some c.targetInfo := by
    simp only [blob, List.append_assoc]
    rw [slice?_skip hopening, slice?_skip hzeros, slice?_skip htimeBytes, slice?_skip hnonce,
      slice?_skip hzeros, slice?_front _ _ rfl]
  exact ⟨h₁, h₂, h₃⟩

/-- A proof begins with the code. -/
theorem take_proof (l : Login) (bytes : Bytes) :
    (l.proof c bytes).take 16 = MessageDigest.hmacMd5 l.hash (c.nonce ++ bytes) := by
  rw [proof, ← MessageDigest.length_hmacMd5 l.hash (c.nonce ++ bytes), List.take_left]

theorem drop_proof (l : Login) (bytes : Bytes) : (l.proof c bytes).drop 16 = bytes := by
  rw [proof, ← MessageDigest.length_hmacMd5 l.hash (c.nonce ++ bytes), List.drop_left]

/-! ### What the server reads -/

/-- The second version of the hash of an account: a code under the digest of its password, of
the user in upper case and the domain. -/
def accountHash (password domain user : String) : Bytes :=
  MessageDigest.hmacMd5 (MessageDigest.md4 (Utf16.encode password))
    (Utf16.encode (Text.toUpper user ++ domain))

theorem domain_ofName (env : Environment) (name password : String) :
    (ofName env name password).domain = (splitName name).1 := rfl

theorem user_ofName (env : Environment) (name password : String) :
    (ofName env name password).user = (splitName name).2 := rfl

theorem hash_ofName (env : Environment) (name password : String) :
    (ofName env name password).hash =
      accountHash password (splitName name).1 (splitName name).2 := rfl

/-- **A server that knows the account finds its answer in the message.**  A client answers a
challenge that it accepted, with a nonce of its own and the time, and no field is longer than
65535 bytes.  Then the fields that are read through the descriptors are these: the domain and
the user of the login name; the second proof, a code under the hash of the login of the server's
nonce and the rest of the field, where the rest holds the time, the client's nonce and the target
info of the server; and the first proof, such a code of the two nonces, followed by the
client's. -/
theorem server_reads_proofs (env : Environment) (name password : String)
    (challenge clientNonce : Bytes) (time : Nat) (c : Challenge)
    (hread : Challenge.read challenge = .ok c) (hnonce : clientNonce.length = 8)
    (htime : time < UInt64.size)
    (hfit : ∀ f ∈ (ofName env name password).fields c clientNonce time, f.length ≤ 65535) :
    let message := (ofName env name password).answer c clientNonce time
    ∃ domain user serverNonce info lm nt,
      (fieldOf? message 2).bind Utf16.decode? = some domain ∧
      (fieldOf? message 3).bind Utf16.decode? = some user ∧
      IsSplit name domain user ∧
      slice? challenge 24 8 = some serverNonce ∧ Challenge.HasTargetInfo challenge info ∧
      fieldOf? message 0 = some lm ∧ fieldOf? message 1 = some nt ∧
      nt.take 16 =
        MessageDigest.hmacMd5 (accountHash password domain user) (serverNonce ++ nt.drop 16) ∧
      numberAt? (nt.drop 16) 8 8 = some time ∧
      slice? (nt.drop 16) 16 8 = some clientNonce ∧
      slice? (nt.drop 16) 28 info.length = some info ∧
      lm = MessageDigest.hmacMd5 (accountHash password domain user)
        (serverNonce ++ clientNonce) ++ clientNonce := by
  intro message
  have hdescribes : Describes message ((ofName env name password).fields c clientNonce time) := by
    refine describes_of_fit _ c clientNonce time ?_
    intro f hf
    exact Nat.lt_succ_of_le (hfit f hf)
  obtain ⟨-, -, hserver, hinfo⟩ := Challenge.read_eq_ok hread
  obtain ⟨hblobTime, hblobNonce, hblobInfo⟩ := blob_parts c time hnonce htime
  have hlm := hdescribes.fieldOf?_eq 0 (show 0 < 5 by omega)
  have hnt := hdescribes.fieldOf?_eq 1 (show 1 < 5 by omega)
  have hdomain := hdescribes.fieldOf?_eq 2 (show 2 < 5 by omega)
  have huser := hdescribes.fieldOf?_eq 3 (show 3 < 5 by omega)
  simp only [fields, List.getElem_cons_succ, List.getElem_cons_zero] at hlm hnt hdomain huser
  refine ⟨(splitName name).1, (splitName name).2, c.nonce, c.targetInfo,
    (ofName env name password).proof c clientNonce,
    (ofName env name password).proof c (blob c clientNonce time), ?_, ?_,
    isSplit_splitName name, hserver, hinfo, hlm, hnt, ?_⟩
  · rw [hdomain, domain_ofName, Option.bind_some, Utf16.decode?_encode]
  · rw [huser, user_ofName, Option.bind_some, Utf16.decode?_encode]
  · rw [drop_proof, take_proof, hash_ofName, proof, hash_ofName]
    exact ⟨rfl, hblobTime, hblobNonce, hblobInfo, rfl⟩

/-- A name with two backslashes, and a challenge with target info. -/
theorem server_reads_proofs_two_backslashes :
    let c : Challenge := ⟨Flag.client, [1, 2, 3, 4, 5, 6, 7, 8], [2, 0, 2, 0, 76, 0]⟩
    let message := (ofName (fun _ => none) "LAB\\ad\\min" "pw").answer c [8, 7, 6, 5, 4, 3, 2, 1] 5
    Challenge.read c.message = .ok c ∧
      ∃ domain user, (fieldOf? message 2).bind Utf16.decode? = some domain ∧
        (fieldOf? message 3).bind Utf16.decode? = some user ∧
        IsSplit "LAB\\ad\\min" domain user := by
  intro c message
  have hread : Challenge.read c.message = .ok c :=
    Challenge.read_message c rfl (by decide)
  have hfit : ∀ f ∈ (ofName (fun _ => none) "LAB\\ad\\min" "pw").fields c
      [8, 7, 6, 5, 4, 3, 2, 1] 5, f.length < 65536 := by
    rw [fields_fit_iff _ _ _ rfl]
    decide
  obtain ⟨domain, user, -, -, -, -, hdomain, huser, hsplit, -⟩ :=
    server_reads_proofs (fun _ => none) "LAB\\ad\\min" "pw" c.message [8, 7, 6, 5, 4, 3, 2, 1] 5 c
      hread rfl (by decide) fun f hf => Nat.le_of_lt_succ (hfit f hf)
  exact ⟨hread, domain, user, hdomain, huser, hsplit⟩

end Login

end RemoteHost.Ntlm
