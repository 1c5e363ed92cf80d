/-
RemoteHost/Proofs/Winrm/RequestWords.lean

The words for a request that gets no response.

They quote the address of the service twice, the second time without a login, and then the causes,
each unless its words stand there already.  What a failure counts as is decided by something that is
sought in its words: a number, or a phrase.  Where the words around the quotes neither show it nor
bring it about (`Sought`), it is in the words exactly if it is in the address or in one of the
causes (`Sought.unsent`).
-/
import RemoteHost.Proofs.Text.Search
import RemoteHost.Winrm.Service

namespace RemoteHost.Winrm

open Text

/-- What is sought in a text is in it when it is in a part of it, and the words for a request show
it only through what they quote. -/
structure Sought (shows : String → Bool) : Prop where
  grows : ∀ {a b : String}, contains b a → shows a → shows b
  between : ∀ lit ∈ ["://", " failed: ", ": "], ∀ a b,
    shows (a ++ lit ++ b) = (shows a || shows b)
  opening : ∀ lit ∈ ["WinRM request to ", "error sending request for url (",
    "builder error for url ("], ∀ b, shows (lit ++ b) = shows b
  closing : ∀ a, shows (a ++ ")") = shows a
  absent : ∀ lit ∈ ["http", "https", "Parsed Url is not a valid Uri"], shows lit = false

namespace Sought

variable {shows : String → Bool} (h : Sought shows)
include h

/-- A cause that is left out is in the words already. -/
theorem chained (text : String) (causes : List String) :
    shows (Http.chained text causes) = (shows text || causes.any shows) := by
  induction causes generalizing text with
  | nil => exact (Bool.or_false _).symm
  | cons cause causes ih =>
    show shows (Http.chained (if contains text cause then text else _) causes) = _
    rw [ih, List.any_cons, ← Bool.or_assoc]
    split
    · next hcause =>
      have hshown : shows cause → shows text := h.grows hcause
      rw [Bool.or_eq_left_iff_imp.2 hshown]
    · rw [h.between ": " (by decide)]

/-- A login in an address is shown nowhere else. -/
theorem shownUrl {u : Url} (hu : shows (Http.shownUrl u)) : shows u.render := by
  -- What stands behind the login is the same with every login.
  obtain ⟨rest, hrest⟩ : ∃ rest, ∀ username password,
      ({ u with username, password } : Url).render =
        u.scheme.name ++ "://" ++ ({ u with username, password } : Url).login ++ rest :=
    ⟨_, fun username password => by simp only [Url.render, String.append_assoc]; rfl⟩
  have hshown : Http.shownUrl u = u.scheme.name ++ "://" ++ rest := by
    rw [Http.shownUrl, hrest, show Url.login _ = "" from rfl, String.append_empty]
  have hrender : u.render = u.scheme.name ++ "://" ++ u.login ++ rest := hrest u.username u.password
  have hname : shows u.scheme.name = false := by
    cases u.scheme with
    | http => exact h.absent "http" (by decide)
    | https => exact h.absent "https" (by decide)
  rw [hshown, h.between "://" (by decide), hname, Bool.false_or] at hu
  refine h.grows ?_ hu
  rw [hrender, contains, occurs_iff, String.toList_append]
  exact (List.suffix_append _ _).isInfix

theorem unsent (s : Service) {opening : String}
    (hopening : opening ∈ ["error sending request for url (", "builder error for url ("])
    (causes : List String) :
    shows (s.unsent (Http.chained (opening ++ Http.shownUrl s.endpoint ++ ")") causes)).message =
      (s.address :: causes).any shows := by
  show shows ("WinRM request to " ++ s.address ++ " failed: " ++ _) = _
  rw [h.between " failed: " (by decide), h.opening "WinRM request to " (by decide), h.chained,
    h.closing, h.opening opening (List.mem_cons_of_mem _ hopening), ← Bool.or_assoc, List.any_cons]
  have hshown : shows (Http.shownUrl s.endpoint) → shows s.address := h.shownUrl
  rw [Bool.or_eq_left_iff_imp.2 hshown]

theorem unanswered (s : Service) (causes : List String) :
    shows (s.unsent (Http.unanswered s.endpoint causes)).message =
      (s.address :: causes).any shows := h.unsent s (by decide) causes

theorem unsendable (s : Service) :
    shows (s.unsent (Http.unsendable s.endpoint)).message = [s.address].any shows := by
  have hcause := h.absent "Parsed Url is not a valid Uri" (by decide)
  rw [Http.unsendable, h.unsent s (by decide), List.any_cons, List.any_cons, hcause]
  rfl

end Sought

end RemoteHost.Winrm
