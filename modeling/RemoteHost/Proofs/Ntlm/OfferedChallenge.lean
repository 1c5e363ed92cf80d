/-
RemoteHost/Proofs/Ntlm/OfferedChallenge.lean

What a header has to say for the client to be challenged by it.

A header has parts between commas.  A part carries a token if it is, up to blanks around it, the
name of a scheme that takes one, a space and the token (`CarriesToken`), and a header offers the
token of its first part that carries one (`OffersToken`).  The header challenges the client if
that token is the base64 of a challenge (`Offers`).  Otherwise there is one of three reasons against
it (`OffersNone`), and which of the two it is decides what is read from it (`challengeOf_cases`).
-/
import RemoteHost.Ntlm.Login

namespace RemoteHost.Ntlm

/-! ### Tokens -/

/-- The schemes whose challenges carry a token of the NTLM login. -/
def tokenSchemes : List String := ["Negotiate", "NTLM"]

/-- A part of a header carries a token, after the name of a scheme. -/
def CarriesToken (part : List Char) (token : String) : Prop :=
  ∃ scheme ∈ tokenSchemes, String.ofList (Text.trimChars part) = scheme ++ " " ++ token

theorem dropPrefix?_eq_some_iff {s pat t : String} :
    Text.dropPrefix? s pat = some t ↔ s = pat ++ t := by
  unfold Text.dropPrefix?
  constructor
  · intro h
    split at h
    · next hpre =>
      obtain ⟨rest, hrest⟩ := List.isPrefixOf_iff_prefix.1 hpre
      have ht : String.ofList rest = t := by
        rw [← hrest, List.drop_left] at h
        exact Option.some.inj h
      apply String.toList_injective
      rw [← ht, String.toList_append, String.toList_ofList, hrest]
    · cases h
  · rintro rfl
    have hpre : pat.toList.isPrefixOf (pat ++ t).toList := by
      rw [List.isPrefixOf_iff_prefix, String.toList_append]
      exact List.prefix_append _ _
    rw [if_pos hpre, String.toList_append, List.drop_left, String.ofList_toList]

/-- No text begins with the names of both schemes. -/
theorem negotiate_append_ne (a b : String) : "Negotiate " ++ a ≠ "NTLM " ++ b := by
  intro h
  have hlist := congrArg String.toList h
  rw [String.toList_append, String.toList_append] at hlist
  have hsecond := congrArg (fun l : List Char => l[1]?) hlist
  simp at hsecond

theorem tokenOf?_eq_some_iff {part : List Char} {token : String} :
    tokenOf? part = some token ↔ CarriesToken part token := by
  have hcarries : CarriesToken part token ↔
      String.ofList (Text.trimChars part) = "Negotiate " ++ token ∨
        String.ofList (Text.trimChars part) = "NTLM " ++ token := by
    simp [CarriesToken, tokenSchemes]
  rw [hcarries]
  show (Text.dropPrefix? _ "Negotiate ").orElse _ = some token ↔ _
  cases hfirst : Text.dropPrefix? (String.ofList (Text.trimChars part)) "Negotiate " with
  | some t =>
    have hpart := dropPrefix?_eq_some_iff.1 hfirst
    rw [hpart]
    constructor
    · intro h
      left
      rw [show t = token from Option.some.inj h]
    · rintro (h | h)
      · rw [← dropPrefix?_eq_some_iff.2 h, dropPrefix?_eq_some_iff.2 rfl]
        rfl
      -- The name of the other scheme cannot stand in the same place.
      · exact absurd h (negotiate_append_ne t token)
  | none =>
    have hnone : ¬ String.ofList (Text.trimChars part) = "Negotiate " ++ token := by
      intro h
      rw [dropPrefix?_eq_some_iff.2 h] at hfirst
      cases hfirst
    show Text.dropPrefix? _ "NTLM " = some token ↔ _
    rw [dropPrefix?_eq_some_iff, or_iff_right hnone]

/-! ### Headers -/

/-- The first part of a header that carries a token carries this one. -/
def OffersToken (header token : String) : Prop :=
  ∃ before part after, header.toList.splitOn ',' = before ++ part :: after ∧
    CarriesToken part token ∧ ∀ p ∈ before, ∀ t, ¬ CarriesToken p t

theorem findSome?_eq_some_iff {header token : String} :
    (header.toList.splitOn ',').findSome? tokenOf? = some token ↔ OffersToken header token := by
  have hnone : ∀ p : List Char, tokenOf? p = none ↔ ∀ t, ¬ CarriesToken p t := by
    intro p
    rw [Option.eq_none_iff_forall_ne_some]
    constructor
    · intro h t ht
      exact h t (tokenOf?_eq_some_iff.2 ht)
    · intro h t ht
      exact h t (tokenOf?_eq_some_iff.1 ht)
  simp only [List.findSome?_eq_some_iff, OffersToken, tokenOf?_eq_some_iff, hnone]

/-- A header offers one token at most. -/
theorem OffersToken.unique {header t t' : String} (h : OffersToken header t)
    (h' : OffersToken header t') : t = t' := by
  have hfind := findSome?_eq_some_iff.2 h
  rw [findSome?_eq_some_iff.2 h'] at hfind
  exact (Option.some.inj hfind).symm

/-- The message that a token stands for, if it is the base64 of one. -/
def tokenMessage (token : String) : Except Base64.Fault Bytes :=
  Base64.decode (Utf8.encode (Text.trim token))

/-- The header challenges the client. -/
def Offers (header : String) (c : Challenge) : Prop :=
  ∃ token message, OffersToken header token ∧ tokenMessage token = .ok message ∧
    Challenge.read message = .ok c

/-- The header does not challenge the client, for one of three reasons. -/
inductive OffersNone (header : String) : Prop
  /-- No part of it carries a token. -/
  | noToken (h : ∀ token, ¬ OffersToken header token)
  /-- The token cannot be decoded. -/
  | undecodable (token : String) (fault : Base64.Fault) (h : OffersToken header token)
      (hdecode : tokenMessage token = .error fault)
  /-- The token stands for something that is no challenge. -/
  | malformed (token : String) (message : Bytes) (fault : Challenge.Fault)
      (h : OffersToken header token) (hdecode : tokenMessage token = .ok message)
      (hread : Challenge.read message = .error fault)

/-- With a reason against it, a header challenges nobody. -/
theorem OffersNone.not_offers {header : String} (h : OffersNone header) (c : Challenge) :
    ¬ Offers header c := by
  rintro ⟨token, message, hoffers, hdecode, hread⟩
  cases h with
  | noToken hnone => exact hnone token hoffers
  | undecodable token' fault hoffers' hdecode' =>
    obtain rfl := hoffers.unique hoffers'
    rw [hdecode] at hdecode'
    cases hdecode'
  | malformed token' message' fault hoffers' hdecode' hread' =>
    obtain rfl := hoffers.unique hoffers'
    obtain rfl := Except.ok.inj (hdecode.symm.trans hdecode')
    rw [hread] at hread'
    cases hread'

/-- What is read from a header is a challenge that it offers, or there is a reason against
it. -/
theorem challengeOf_cases (header : String) :
    (∃ c, challengeOf header = .ok c ∧ Offers header c) ∨
      ∃ e, challengeOf header = .error e ∧ OffersNone header := by
  cases htoken : (header.toList.splitOn ',').findSome? tokenOf? with
  | none =>
    refine .inr ⟨_, by simp only [challengeOf, htoken]; rfl, .noToken ?_⟩
    intro token hoffers
    rw [findSome?_eq_some_iff.2 hoffers] at htoken
    cases htoken
  | some token =>
    have hoffers : OffersToken header token := findSome?_eq_some_iff.1 htoken
    cases hdecode : Base64.decode (Utf8.encode (Text.trim token)) with
    | error fault =>
      refine .inr ⟨_, by simp only [challengeOf, htoken, hdecode]; rfl, ?_⟩
      exact .undecodable token fault hoffers hdecode
    | ok message =>
      cases hread : Challenge.read message with
      | error fault =>
        refine .inr ⟨_, by simp only [challengeOf, htoken, hdecode, hread]; rfl, ?_⟩
        exact .malformed token message fault hoffers hdecode hread
      | ok c =>
        refine .inl ⟨c, by simp only [challengeOf, htoken, hdecode, hread], ?_⟩
        exact ⟨token, message, hoffers, hdecode, hread⟩

end RemoteHost.Ntlm
