/-
RemoteHost/Proofs/Winrm/EndpointParts.lean

What a target can make of the endpoint of a configuration.

The URL of the endpoint is written with the target in the place of the host, and read again.  It has
the scheme, the port and the path of the configuration, and neither a login nor a query nor a fragment,
just where nothing in the target ends the host (`endpoint_as_configured_iff`).  Such a character in it
sends the requests to another port, path or login (`path_in_target`).
-/
import RemoteHost.Proofs.Idna.PlainName
import RemoteHost.Proofs.Url.Parts
import RemoteHost.Winrm.Config

namespace RemoteHost.Winrm.Config

open Text Url

variable {c : Config} {u : Url}

/-! ### The text of an endpoint -/

/-- The URL has what the configuration says, and nothing besides that and a host. -/
structure AsConfigured (c : Config) (u : Url) : Prop where
  scheme : u.scheme = c.scheme
  port : u.port.getD u.scheme.port = c.port
  path : u.path = "/wsman"
  username : u.username = ""
  password : u.password = ""
  query : u.query = none
  fragment : u.fragment = none

/-- The characters of the host that count when the URL is read. -/
def hostChars (c : Config) : List Char := significant c.hostText

/-- No character of the host ends it, and none ends a login in front of it. -/
def hostOnly (c : Config) : Bool :=
  c.hostChars.all (!endsAuthority ·) && !c.hostChars.tail.contains '@'

/-- The text that is read as the endpoint. -/
def endpointText (c : Config) : String := "//" ++ c.hostText ++ ":" ++ toString c.port ++ "/wsman"

theorem read_of_endpoint (h : c.endpoint = .ok u) : read c.scheme c.endpointText = .ok u := by
  unfold endpoint at h
  split at h
  · next hread => rw [← Except.ok.inj h]; exact hread
  · cases h

/-- What follows the host of the text. -/
def afterHost (c : Config) : List Char := ':' :: Nat.toDigits 10 c.port ++ '/' :: "wsman".toList

theorem toList_endpointText (c : Config) :
    c.endpointText.toList = '/' :: '/' :: (c.hostText.toList ++ c.afterHost) := by
  have hport : (toString c.port).toList = Nat.toDigits 10 c.port := by
    rw [Nat.toString_eq_ofList_toDigits, String.toList_ofList]
  have htext : c.endpointText.toList = "//".toList ++ (c.hostText.toList ++
      (":".toList ++ (Nat.toDigits 10 c.port ++ "/wsman".toList))) := by
    rw [endpointText, String.toList_append, String.toList_append, String.toList_append,
      String.toList_append, hport]
    simp only [List.append_assoc]
  exact htext

/-- Only characters of the host are left out. -/
theorem significant_endpointText (c : Config) :
    significant c.endpointText = c.hostChars ++ c.afterHost := by
  have hkept : c.afterHost.filter (fun d => d ≠ '\t' ∧ d ≠ '\n' ∧ d ≠ '\r') = c.afterHost := by
    have hdigits : (Nat.toDigits 10 c.port).filter (fun d => d ≠ '\t' ∧ d ≠ '\n' ∧ d ≠ '\r') =
        Nat.toDigits 10 c.port := by
      rw [List.filter_eq_self]
      intro d hd
      have hdigit := Nat.isDigit_of_mem_toDigits (by decide) (by decide) hd
      refine decide_eq_true ⟨?_, ?_, ?_⟩
      all_goals
        rintro rfl
        exact absurd hdigit (by decide)
    unfold afterHost
    rw [List.filter_append, List.filter_cons_of_pos (by decide), hdigits]
    rfl
  unfold significant
  rw [toList_endpointText, List.filter_cons_of_pos (by decide), List.filter_cons_of_pos (by decide),
    List.filter_append, hkept, List.dropWhile_cons_of_pos rfl, List.dropWhile_cons_of_pos rfl]
  exact dropWhile_append_cons (show isSlash ':' = false from rfl) _ _

/-- A host with a colon is in brackets. -/
theorem exists_bracket_of_colon (h : ':' ∈ c.hostChars) : ∃ r, c.hostChars = '[' :: r := by
  have hcolon : ':' ∈ c.hostText.toList :=
    (List.mem_filter.1 ((List.dropWhile_sublist isSlash).subset h)).1
  have hbracket : ∃ r, c.hostText.toList = '[' :: r := by
    unfold hostText at hcolon ⊢
    split
    · rw [String.toList_append, String.toList_append]
      exact ⟨_, rfl⟩
    · next hnot =>
      rw [if_neg hnot] at hcolon
      have hstarts : startsWith c.target "[" := by
        by_contra hno
        exact hnot ⟨List.contains_iff_mem.2 hcolon, hno⟩
      obtain ⟨r, hr⟩ := List.isPrefixOf_iff_prefix.1 hstarts
      exact ⟨r, hr.symm⟩
  obtain ⟨r, hr⟩ := hbracket
  unfold hostChars significant
  rw [hr, List.filter_cons_of_pos (by decide), List.dropWhile_cons_of_neg (by decide)]
  exact ⟨_, rfl⟩

/-! ### The parts of an endpoint -/

/-- What follows the host, where the host does not go further than it should. -/
theorem span_of_host (h : ∀ d ∈ c.hostChars, endsAuthority d = false) :
    authority c.endpointText = c.hostChars ++ ':' :: Nat.toDigits 10 c.port ∧
      behindAuthority c.endpointText = '/' :: "wsman".toList := by
  have hkept : ∀ d ∈ c.hostChars ++ ':' :: Nat.toDigits 10 c.port, endsAuthority d = false := by
    intro d hd
    rcases List.mem_append.1 hd with hd | hd
    · exact h d hd
    · exact endsAuthority_port c.port d hd
  unfold authority behindAuthority
  rw [significant_endpointText, afterHost, ← List.append_assoc, spanUntil_append hkept,
    spanUntil_cons (c := '/') rfl]
  exact ⟨List.append_nil _, rfl⟩

/-- A host that is cut off hands on the colon and the port to the parts behind it. -/
theorem span_of_cut {s t : List Char} {d : Char} (hs : ∀ x ∈ s, endsAuthority x = false)
    (hd : endsAuthority d) (h : c.hostChars = s ++ d :: t) :
    behindAuthority c.endpointText = d :: (t ++ c.afterHost) := by
  unfold behindAuthority
  rw [significant_endpointText, h, List.append_assoc, spanUntil_append hs, List.cons_append,
    spanUntil_cons hd]

/-- A host that ends where it should is all right without a login in front of it. -/
theorem as_configured_of_host (hread : read c.scheme c.endpointText = .ok u)
    (huncut : ∀ d ∈ c.hostChars, endsAuthority d = false) (hlogin : '@' ∉ c.hostChars.tail) :
    c.AsConfigured u := by
  obtain ⟨host, port, hhost, hport, rfl⟩ := parts_of_read hread
  obtain ⟨hauthority, hbehind⟩ := span_of_host huncut
  obtain ⟨hnone, name, hserver⟩ := splitLogin_of_no_login hlogin (at_not_mem_toDigits c.port)
  rw [serverPart, hauthority] at hhost hport
  have hlogin : loginPart c.endpointText = [] := by rw [loginPart, hauthority, hnone]
  have hpath : ('/' :: "wsman".toList).all fun d => !endsPath d := by decide
  have hall : ∀ d ∈ behindAuthority c.endpointText, endsPath d = false := by
    intro d hd
    rw [hbehind] at hd
    exact (Bool.not_eq_true' _).mp (List.all_eq_true.1 hpath d hd)
  obtain ⟨hquery, hfragment⟩ := only_path_iff.2 hall
  exact
    { scheme := rfl
      port := port_of_server hserver hhost hport
      path := by
        rw [withParts, pathPart_of_only_path hall, hbehind]
        rfl
      username := by
        rw [withParts, hlogin]
        rfl
      password := by
        rw [withParts, hlogin]
        rfl
      query := hquery
      fragment := hfragment }

/-- What stands in front of the last `@` of a host is the name of a user. -/
theorem username_ne_empty (hread : read c.scheme c.endpointText = .ok u)
    (huncut : ∀ d ∈ c.hostChars, endsAuthority d = false) (hlogin : '@' ∈ c.hostChars.tail) :
    u.username ≠ "" := by
  obtain ⟨host, port, -, -, rfl⟩ := parts_of_read hread
  rcases split_at_last '@' c.hostChars with ⟨hnot, -⟩ | ⟨front, tail, heq, htail, -⟩
  · exact absurd (List.mem_of_mem_tail hlogin) hnot
  · have hserver : '@' ∉ tail ++ ':' :: Nat.toDigits 10 c.port := by
      rw [List.mem_append, List.mem_cons, not_or, not_or]
      exact ⟨htail, by decide, at_not_mem_toDigits c.port⟩
    cases front with
    | nil =>
      -- The only `@` is the first character.
      rw [heq] at hlogin
      exact absurd hlogin htail
    | cons x front =>
      have hx : x ≠ ':' := by
        rintro rfl
        obtain ⟨r, hr⟩ := exists_bracket_of_colon (c := c) (heq ▸ List.mem_cons_self)
        exact absurd (List.cons.inj (heq.symm.trans hr)).1 (by decide)
      have hname : (spanUntil (· = ':') (x :: front)).1 =
          x :: (spanUntil (· = ':') front).1 := by
        have hkept : ∀ d ∈ [x], decide (d = ':') = false := by simpa using hx
        exact congrArg Prod.fst (spanUntil_append hkept front)
      have hwhole : x :: front ++ '@' :: tail ++ ':' :: Nat.toDigits 10 c.port =
          x :: front ++ '@' :: (tail ++ ':' :: Nat.toDigits 10 c.port) := List.append_assoc _ _ _
      have hpart : loginPart c.endpointText = x :: front := by
        rw [loginPart, (span_of_host huncut).1, heq, hwhole, splitLogin_append hserver,
          Option.getD_some]
      rw [withParts, hpart, hname]
      intro hempty
      have hnil := String.ofList_inj.1 (hempty.trans String.ofList_nil.symm)
      exact percentEncode_ne_nil inLogin (List.cons_ne_nil x _) hnil

/-- A host that is cut off leaves a query or a fragment, or another path. -/
theorem not_as_configured_of_cut (hread : read c.scheme c.endpointText = .ok u) {s t : List Char}
    {d : Char} (hs : ∀ x ∈ s, endsAuthority x = false) (hd : endsAuthority d)
    (heq : c.hostChars = s ++ d :: t) : ¬ c.AsConfigured u := by
  intro hconfigured
  obtain ⟨host, port, -, -, rfl⟩ := parts_of_read hread
  have hpath : readPath (pathPart c.endpointText).1 = "/wsman" := hconfigured.path
  have hall := only_path_iff.1 ⟨hconfigured.query, hconfigured.fragment⟩
  rw [pathPart_of_only_path hall] at hpath
  rw [span_of_cut hs hd heq] at hall hpath
  have hslash : isSlash d := by
    have hends := hall d List.mem_cons_self
    rw [endsAuthority, Bool.or_assoc, Bool.or_eq_true] at hd
    refine hd.resolve_right fun h => ?_
    rw [← Bool.not_eq_true] at hends
    exact hends h
  have hport : ∀ x ∈ ':' :: Nat.toDigits 10 c.port, isSlash x = false := by
    intro x hx
    have hnot := endsAuthority_port c.port x hx
    rw [endsAuthority, Bool.or_eq_false_iff, Bool.or_eq_false_iff] at hnot
    exact hnot.1.1
  -- The port is in the last but one segment of the path, and its colon stays there.
  have hcolon : ':' ∈ (readPath (d :: (t ++ ':' :: Nat.toDigits 10 c.port) ++
      '/' :: "wsman".toList)).toList :=
    colon_mem_readPath hslash t hport (by simp [isSlash]) (by decide +kernel)
  rw [List.cons_append, List.append_assoc, ← afterHost, hpath] at hcolon
  exact absurd hcolon (by decide)

/-- An endpoint is as it is configured exactly if nothing in its target ends the host. -/
theorem endpoint_as_configured_iff (c : Config) (u : Url) (h : c.endpoint = .ok u) :
    c.AsConfigured u ↔ c.hostOnly := by
  have hread := read_of_endpoint h
  rw [hostOnly, Bool.and_eq_true, Bool.not_eq_true', List.contains_eq_mem, decide_eq_false_iff_not]
  by_cases huncut : ∀ d ∈ c.hostChars, endsAuthority d = false
  · have hall : c.hostChars.all (!endsAuthority ·) = true := by
      rw [List.all_eq_true]
      intro d hd
      rw [huncut d hd]
      rfl
    rw [hall, eq_self, true_and]
    constructor
    · intro hconfigured hlogin
      exact username_ne_empty hread huncut hlogin hconfigured.username
    · exact as_configured_of_host hread huncut
  · refine iff_of_false ?_ ?_
    · -- The first character that ends the host early decides what becomes of the rest.
      have hsome : (c.hostChars.find? endsAuthority).isSome := by simpa using huncut
      obtain ⟨d, hfind⟩ := Option.isSome_iff_exists.1 hsome
      obtain ⟨hd, s, t, heq, hs⟩ := List.find?_eq_some_iff_append.1 hfind
      exact not_as_configured_of_cut hread (by simpa using hs) hd heq
    · rintro ⟨hall, -⟩
      exact huncut (by simpa using hall)

/-! ### Targets with the host `win01` -/

/-- The endpoint of a target that is read as the host `win01` and something else. -/
def win01Endpoint (port : Option Nat) (path : String) : Url :=
  { scheme := .http, host := .domain "win01", port, path }

theorem ofText_win01 : Host.ofText "win01".toList = .ok (.domain "win01") := by
  have hplain : "win01".toList.all Idna.plainChars.contains := by decide
  refine Host.ofText_plain (by simpa using hplain) ?_ ?_ ?_
  · decide
  · decide +kernel
  · decide +kernel

/-- The endpoint of a target whose text has the host `win01`. -/
theorem endpoint_of_win01 {port : List Char} {p : Option Nat}
    (hserver : serverPart c.endpointText = ("win01".toList, port))
    (hport : readPort c.scheme port = .ok p) :
    c.endpoint = .ok (withParts c.scheme c.endpointText (.domain "win01") p) := by
  have hread : read c.scheme c.endpointText =
      .ok (withParts c.scheme c.endpointText (.domain "win01") p) := by
    rw [read_eq, hserver, ofText_win01, hport]
    rfl
  unfold endpointText at hread
  rw [endpoint, hread]
  rfl

/-- A target that is a host only. -/
theorem endpoint_win01 : ({ target := "win01" } : Config).endpoint =
    .ok (win01Endpoint (some 5985) "/wsman") := by
  have hserver : serverPart (endpointText { target := "win01" }) =
      ("win01".toList, ":5985".toList) := by decide +kernel
  have hurl : withParts .http (endpointText { target := "win01" }) (.domain "win01") (some 5985) =
      win01Endpoint (some 5985) "/wsman" := by decide +kernel
  rw [← hurl]
  exact endpoint_of_win01 hserver rfl

/-- The endpoint of the target `win01` is as it is configured. -/
theorem endpoint_as_configured_iff_plain :
    ({ target := "win01" } : Config).endpoint = .ok (win01Endpoint (some 5985) "/wsman") ∧
      hostOnly { target := "win01" } = true ∧
      AsConfigured { target := "win01" } (win01Endpoint (some 5985) "/wsman") := by
  have honly : hostOnly { target := "win01" } = true := by decide +kernel
  exact ⟨endpoint_win01, honly, (endpoint_as_configured_iff _ _ endpoint_win01).2 honly⟩

/-- A slash in the target ends the host: the requests go to the port of the scheme, and the port that
was configured becomes a part of the path. -/
theorem path_in_target :
    let config : Config := { target := "win01/x" }
    let u := win01Endpoint none "/x:5985/wsman"
    config.endpoint = .ok u ∧ u.port.getD u.scheme.port = 80 ∧ config.port = 5985 ∧
      ¬ config.AsConfigured u := by
  intro config u
  have hserver : serverPart config.endpointText = ("win01".toList, []) := by decide +kernel
  have hurl : withParts .http config.endpointText (.domain "win01") none = u := by decide +kernel
  have hpath : u.path ≠ "/wsman" := by decide
  refine ⟨?_, rfl, rfl, fun h => hpath h.path⟩
  rw [← hurl]
  exact endpoint_of_win01 hserver rfl

end RemoteHost.Winrm.Config
