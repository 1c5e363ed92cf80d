/-
RemoteHost/Proofs/Url/Parts.lean

The parts of a URL that was read.

Reading a URL fails at its host or at its port; its other parts are cut out of the text
(`parts_of_read`).  The path is all of them that there is behind the host and the port just where no
query and no fragment begins there (`only_path_iff`).  A port that is written behind the host is the
port of the URL: the host could take it in only with a colon, and no name has one (`port_of_server`).
A colon in a path stays where it is, since no segment that is left out has one (`colon_mem_readPath`).
-/
import RemoteHost.Proofs.Idna.KeptColon
import RemoteHost.Proofs.Text.Numeral
import RemoteHost.Url.Basic

namespace RemoteHost.Url

open Text

variable {s t u : List Char}

/-! ### Where a part ends -/

theorem spanUntil_append {stop : Char → Bool} (hs : ∀ c ∈ s, stop c = false) (t : List Char) :
    spanUntil stop (s ++ t) = (s ++ (spanUntil stop t).1, (spanUntil stop t).2) := by
  have hpos : ∀ c ∈ s, (!stop c) = true := fun c hc => by rw [hs c hc]; rfl
  rw [spanUntil, List.takeWhile_append_of_pos hpos, List.dropWhile_append_of_pos hpos]
  rfl

theorem spanUntil_cons {stop : Char → Bool} {c : Char} (hc : stop c) (s : List Char) :
    spanUntil stop (c :: s) = ([], c :: s) := by
  have hneg : ¬ (!stop c) = true := by
    rw [hc]
    decide
  exact Prod.ext (List.takeWhile_cons_of_neg (p := fun c => !stop c) hneg)
    (List.dropWhile_cons_of_neg (p := fun c => !stop c) hneg)

/-- A character that is kept keeps what stands behind it. -/
theorem dropWhile_append_cons {p : Char → Bool} {d : Char} (hd : p d = false) (s t : List Char) :
    (s ++ d :: t).dropWhile p = s.dropWhile p ++ d :: t := by
  rw [List.dropWhile_append]
  split
  · next hnil =>
    rw [List.isEmpty_iff.1 hnil, List.dropWhile_cons_of_neg (by rw [hd]; exact Bool.false_ne_true)]
    rfl
  · rfl

/-- The parts of a text after the scheme: tabs and line ends do not count, and neither do the slashes
in front of the rest. -/
def significant (text : String) : List Char :=
  (text.toList.filter fun c => c ≠ '\t' ∧ c ≠ '\n' ∧ c ≠ '\r').dropWhile isSlash

/-- The login, host and port of a text. -/
def authority (text : String) : List Char := (spanUntil endsAuthority (significant text)).1

/-- What follows the login, host and port. -/
def behindAuthority (text : String) : List Char := (spanUntil endsAuthority (significant text)).2

/-- The path ends here. -/
def endsPath (c : Char) : Bool := c = '?' || c = '#'

/-- The query that follows a path, and the rest. -/
def queryPart (s : List Char) : Option (List Char) × List Char :=
  match s with
  | '?' :: r => (some (spanUntil (· = '#') r).1, (spanUntil (· = '#') r).2)
  | _ => (none, s)

/-- The fragment that follows a query. -/
def fragmentPart : List Char → Option (List Char)
  | '#' :: s => some s
  | _ => none

/-- The login of a text, or nothing. -/
def loginPart (text : String) : List Char := (splitLogin (authority text)).1.getD []

/-- The host of a text and what follows it up to the path. -/
def serverPart (text : String) : List Char × List Char :=
  splitHost false (splitLogin (authority text)).2

/-- The path of a text and what follows it. -/
def pathPart (text : String) : List Char × List Char := spanUntil endsPath (behindAuthority text)

/-- The URL of a text whose host and port are known. -/
def withParts (scheme : Scheme) (text : String) (host : Host) (port : Option Nat) : Url where
  scheme := scheme
  host := host
  port := port
  username := String.ofList (percentEncode inLogin (spanUntil (· = ':') (loginPart text)).1)
  password := String.ofList (percentEncode inLogin ((spanUntil (· = ':') (loginPart text)).2.drop 1))
  path := readPath (pathPart text).1
  query := (queryPart (pathPart text).2).1.map fun q => String.ofList (percentEncode inQuery q)
  fragment := (fragmentPart (queryPart (pathPart text).2).2).map
    fun f => String.ofList (percentEncode inFragment f)

/-- Reading can fail at the host and at the port only. -/
theorem read_eq (scheme : Scheme) (text : String) : read scheme text = (do
    let host ← Host.ofText (serverPart text).1
    let port ← readPort scheme (serverPart text).2
    pure (withParts scheme text host port)) := by
  unfold read
  rfl

/-- Each part of a URL is what was read of the text at its place. -/
theorem parts_of_read {scheme : Scheme} {text : String} {url : Url} (h : read scheme text = .ok url) :
    ∃ host port, Host.ofText (serverPart text).1 = .ok host ∧
      readPort scheme (serverPart text).2 = .ok port ∧ url = withParts scheme text host port := by
  rw [read_eq] at h
  cases hhost : Host.ofText (serverPart text).1 with
  | error e =>
    rw [hhost] at h
    cases h
  | ok host =>
    rw [hhost] at h
    cases hport : readPort scheme (serverPart text).2 with
    | error e =>
      rw [hport] at h
      cases h
    | ok port =>
      rw [hport] at h
      exact ⟨host, port, rfl, rfl, (Except.ok.inj h).symm⟩

/-- There is neither a query nor a fragment where nothing ends the path. -/
theorem no_query_iff {s : List Char} :
    let tail := (spanUntil endsPath s).2
    ((queryPart tail).1 = none ∧ fragmentPart (queryPart tail).2 = none) ↔
      ∀ c ∈ s, endsPath c = false := by
  intro tail
  have htail : tail = s.dropWhile fun c => !endsPath c := rfl
  have hnil : tail = [] ↔ ∀ c ∈ s, endsPath c = false := by
    rw [htail, List.dropWhile_eq_nil_iff]
    simp only [Bool.not_eq_true']
  rw [← hnil]
  have hhead := List.head?_dropWhile_not (fun c => !endsPath c) s
  rw [← htail] at hhead
  clear_value tail
  cases tail with
  | nil => exact iff_of_true ⟨rfl, rfl⟩ rfl
  | cons c r =>
    refine iff_of_false ?_ (List.cons_ne_nil c r)
    have hends : endsPath c = true := by simpa using hhead
    have hc : c = '?' ∨ c = '#' := by simpa [endsPath] using hends
    rcases hc with rfl | rfl
    · rintro ⟨hquery, -⟩
      cases hquery
    · rintro ⟨-, hfragment⟩
      cases hfragment

/-- A URL has neither of them just where all that follows the host and port is a path. -/
theorem only_path_iff {scheme : Scheme} {text : String} {host : Host} {port : Option Nat} :
    let url := withParts scheme text host port
    (url.query = none ∧ url.fragment = none) ↔ ∀ c ∈ behindAuthority text, endsPath c = false := by
  unfold withParts
  simp only [Option.map_eq_none_iff]
  exact no_query_iff

/-- Then the path is all that follows. -/
theorem pathPart_of_only_path {text : String} (h : ∀ c ∈ behindAuthority text, endsPath c = false) :
    (pathPart text).1 = behindAuthority text := by
  refine List.takeWhile_eq_self_iff.2 fun c hc => ?_
  rw [h c hc]
  rfl

/-! ### Logins -/

theorem splitLogin_of_not_mem (h : '@' ∉ s) : splitLogin s = (none, s) := by
  rcases split_at_last '@' s with ⟨-, htail⟩ | ⟨front, tail, rfl, -⟩
  · unfold splitLogin
    simp only [htail, if_true]
  · exact absurd (List.mem_append_right front List.mem_cons_self) h

theorem splitLogin_append (ht : '@' ∉ t) (s : List Char) :
    splitLogin (s ++ '@' :: t) = (some s, t) := by
  rcases split_at_last '@' (s ++ '@' :: t) with ⟨hnot, -⟩ | ⟨front, tail, heq, htail, hlast, hfront⟩
  · exact absurd (List.mem_append_right s List.mem_cons_self) hnot
  · obtain ⟨rfl, rfl⟩ := eq_of_append_cons ht htail heq
    have hlen : t.length ≠ (s ++ '@' :: t).length := by
      rw [List.length_append, List.length_cons]
      omega
    unfold splitLogin
    simp only [hlast, if_neg hlen, hfront]

/-- No login is in front of a text that has no `@` behind its first character. -/
theorem splitLogin_of_no_login {ds : List Char} (ht : '@' ∉ t.tail) (hds : '@' ∉ ds) :
    (splitLogin (t ++ ':' :: ds)).1.getD [] = [] ∧
      ∃ host, (splitLogin (t ++ ':' :: ds)).2 = host ++ ':' :: ds := by
  have hrest : ∀ s, '@' ∉ s → '@' ∉ s ++ ':' :: ds := by
    intro s hs hmem
    rcases List.mem_append.1 hmem with hmem | hmem
    · exact hs hmem
    · exact hds ((List.mem_cons.1 hmem).resolve_left (by decide))
  cases t with
  | nil =>
    rw [splitLogin_of_not_mem (hrest [] List.not_mem_nil)]
    exact ⟨rfl, [], rfl⟩
  | cons x t =>
    by_cases hx : x = '@'
    · -- Such a login is empty.
      rw [hx, List.cons_append, ← List.nil_append ('@' :: _), splitLogin_append (hrest t ht)]
      exact ⟨rfl, t, rfl⟩
    · have hnot : '@' ∉ x :: t := by
        rw [List.mem_cons, not_or]
        exact ⟨Ne.symm hx, ht⟩
      rw [splitLogin_of_not_mem (hrest _ hnot)]
      exact ⟨rfl, x :: t, rfl⟩

/-! ### Hosts and ports -/

/-- The host and what follows it make up the text, and what follows begins with a colon. -/
theorem splitHost_eq {inBrackets : Bool} {host rest : List Char}
    (h : splitHost inBrackets s = (host, rest)) :
    s = host ++ rest ∧ (rest = [] ∨ ∃ r, rest = ':' :: r) := by
  induction s generalizing inBrackets host with
  | nil =>
    obtain ⟨rfl, rfl⟩ := Prod.mk.inj h
    exact ⟨rfl, .inl rfl⟩
  | cons c s ih =>
    rw [splitHost] at h
    split at h
    · next hc =>
      obtain ⟨rfl, rfl⟩ := Prod.mk.inj h
      exact ⟨rfl, .inr ⟨s, by rw [hc.1]⟩⟩
    · obtain ⟨rfl, rfl⟩ := Prod.mk.inj h
      obtain ⟨hs, hrest⟩ := ih rfl
      exact ⟨congrArg (c :: ·) hs, hrest⟩

/-- A port that is not empty is the value of its digits. -/
theorem exists_of_readPort {scheme : Scheme} {port : Option Nat}
    (h : readPort scheme (':' :: s) = .ok port) :
    ∃ n, digitsValue 10 s = some n ∧ (s ≠ [] → port.getD scheme.port = n) := by
  unfold readPort at h
  simp only at h
  split at h
  · cases h
  · next n hn =>
    refine ⟨n, hn, fun hs => ?_⟩
    split at h
    · cases h
    · split at h
      · next hdefault =>
        obtain rfl := Except.ok.inj h
        have hempty : s.isEmpty = false := by
          rw [Bool.eq_false_iff, Ne, List.isEmpty_iff]
          exact hs
        rw [hempty] at hdefault
        exact (hdefault.resolve_left Bool.false_ne_true).symm
      · obtain rfl := Except.ok.inj h
        rfl

/-- A text that goes up to the end of a port is no host: it has a colon and does not end with a
bracket. -/
theorem ofText_port_ne_ok (s : List Char) (n : Nat) (host : Host) :
    Host.ofText (s ++ ':' :: Nat.toDigits 10 n) ≠ .ok host := by
  intro h
  have hlast := Host.ofText_colon (List.mem_append_right s List.mem_cons_self) h
  have hend : ']' ∈ ':' :: Nat.toDigits 10 n := by
    rw [List.getLast?_append, List.getLast?_cons] at hlast
    exact List.mem_of_getLast? (by rw [List.getLast?_cons]; exact hlast)
  have hdigit : ']' ∈ Nat.toDigits 10 n := (List.mem_cons.1 hend).resolve_left (by decide)
  exact absurd (Nat.isDigit_of_mem_toDigits (by decide) (by decide) hdigit) (by decide)

/-- A port that is written behind the host is the port of the URL. -/
theorem port_of_server {scheme : Scheme} {server : List Char} {n : Nat} {host : Host}
    {port : Option Nat} (hserver : server = s ++ ':' :: Nat.toDigits 10 n)
    (hhost : Host.ofText (splitHost false server).1 = .ok host)
    (hport : readPort scheme (splitHost false server).2 = .ok port) :
    port.getD scheme.port = n := by
  have hdigits : digitsValue 10 (Nat.toDigits 10 n) = some n := digitsValue_toDigits n
  have hsplit : splitHost false server = ((splitHost false server).1, (splitHost false server).2) :=
    rfl
  obtain ⟨heq, hrest⟩ := splitHost_eq hsplit
  rcases hrest with hnil | ⟨ds, hds⟩
  · -- The host would go up to the end of the port.
    rw [hnil, List.append_nil] at heq
    rw [← heq, hserver] at hhost
    exact absurd hhost (ofText_port_ne_ok s n host)
  · rw [hds] at heq hport
    obtain ⟨m, hm, hvalue⟩ := exists_of_readPort hport
    have hcolon : digitValue ':' = none := rfl
    obtain ⟨-, rfl⟩ := eq_of_append_cons (not_mem_of_digitsValue hm hcolon)
      (not_mem_of_digitsValue hdigits hcolon) (heq.symm.trans hserver)
    rw [hvalue Nat.toDigits_ne_nil]
    exact Option.some.inj (hm.symm.trans hdigits)

theorem at_not_mem_toDigits (n : Nat) : '@' ∉ Nat.toDigits 10 n := fun hmem =>
  absurd (Nat.isDigit_of_mem_toDigits (by decide) (by decide) hmem) (by decide)

/-- The port does not end what it stands in. -/
theorem endsAuthority_port (n : Nat) : ∀ d ∈ ':' :: Nat.toDigits 10 n, endsAuthority d = false := by
  intro d hd
  rcases List.mem_cons.1 hd with rfl | hd
  · rfl
  · have hdigit := Nat.isDigit_of_mem_toDigits (by decide) (by decide) hd
    by_contra hends
    rw [Bool.not_eq_false, endsAuthority, isSlash] at hends
    simp only [Bool.or_eq_true, decide_eq_true_eq] at hends
    rcases hends with ((rfl | rfl) | rfl) | rfl <;> exact absurd hdigit (by decide)

/-! ### Paths -/

/-- Encoding leaves no text out. -/
theorem percentEncode_ne_nil (isEncoded : Char → Bool) (hs : s ≠ []) :
    percentEncode isEncoded s ≠ [] := by
  obtain ⟨d, s, rfl⟩ := List.exists_cons_of_ne_nil hs
  rw [percentEncode, List.flatMap_cons]
  refine List.append_ne_nil_of_left_ne_nil ?_ _
  split
  · exact List.cons_ne_nil d []
  · obtain ⟨b, bs, hb⟩ := List.exists_cons_of_ne_nil
      (String.utf8EncodeChar_ne_nil : String.utf8EncodeChar d ≠ [])
    rw [hb, List.flatMap_cons]
    exact List.append_ne_nil_of_left_ne_nil (List.cons_ne_nil _ _) _

theorem colon_mem_percentEncode (h : ':' ∈ s) : ':' ∈ percentEncode inPath s :=
  List.mem_flatMap.2 ⟨':', h, by decide⟩

/-- A segment with a colon stands for itself. -/
theorem stays_of_colon (h : ':' ∈ s) : isUp s = false ∧ isHere s = false := by
  have hlower : ':' ∈ (toLowerAscii (String.ofList s)).toList := by
    rw [toLowerAscii, String.toList_ofList, String.toList_ofList]
    exact List.mem_map.2 ⟨':', h, by decide⟩
  have hnames : ([".", "%2e"] ++ ["..", ".%2e", "%2e.", "%2e%2e"]).all
      fun name => !name.toList.contains ':' := by decide
  have hnot : ∀ name ∈ [".", "%2e"] ++ ["..", ".%2e", "%2e.", "%2e%2e"],
      toLowerAscii (String.ofList s) ≠ name := by
    rintro name hname rfl
    have hfalse := List.all_eq_true.1 hnames _ hname
    rw [Bool.not_eq_true', List.contains_eq_mem, decide_eq_false_iff_not] at hfalse
    exact hfalse hlower
  constructor
  · exact decide_eq_false fun hmem => hnot _ (List.mem_append_right _ hmem) rfl
  · exact decide_eq_false fun hmem => hnot _ (List.mem_append_left _ hmem) rfl

/-- The last but one of some segments stays if it has a colon. -/
theorem exists_follow (done segments : List (List Char)) {s : List Char} (h : ':' ∈ s)
    (last : List Char) (hlast : isUp last = false ∧ isHere last = false) :
    ∃ done', follow done (segments ++ [s, last]) = done' ++ [s, last] := by
  obtain ⟨hup, hhere⟩ := stays_of_colon h
  -- Whatever the segments in front take back, they take it back before these two.
  induction segments generalizing done with
  | nil =>
    refine ⟨done, ?_⟩
    simp [follow, hup, hhere, hlast.1, hlast.2]
  | cons segment segments ih =>
    obtain ⟨c, r, hr⟩ : ∃ c r, segments ++ [s, last] = c :: r :=
      List.exists_cons_of_ne_nil (by simp)
    rw [List.cons_append, hr, follow]
    · rw [← hr]
      split
      · exact ih _
      · split
        · exact ih _
        · exact ih _
    · simp

/-- The last segment of a text grows by what is put behind it. -/
theorem exists_splitOnP_append {p : Char → Bool} (ht : ∀ c ∈ t, p c = false) (s : List Char) :
    ∃ segments segment, (s ++ t).splitOnP p = segments ++ [segment ++ t] := by
  induction s with
  | nil => exact ⟨[], [], List.splitOnP_eq_singleton ht⟩
  | cons c s ih =>
    obtain ⟨segments, segment, hs⟩ := ih
    rw [List.cons_append, List.splitOnP_cons_eq_if_modifyHead, hs]
    split
    · exact ⟨[] :: segments, segment, rfl⟩
    · cases segments with
      | nil => exact ⟨[], c :: segment, rfl⟩
      | cons segment' segments => exact ⟨(c :: segment') :: segments, segment, rfl⟩

/-- A colon in the last but one segment of a path is in the path as it is written. -/
theorem colon_mem_readPath {c : Char} (hc : isSlash c) (s : List Char)
    (ht : ∀ d ∈ ':' :: t, isSlash d = false) (hu : ∀ d ∈ u, isSlash d = false)
    (hlast : isUp (percentEncode inPath u) = false ∧ isHere (percentEncode inPath u) = false) :
    ':' ∈ (readPath (c :: (s ++ ':' :: t) ++ '/' :: u)).toList := by
  have hslash : isSlash '/' = true := rfl
  obtain ⟨segments, segment, hsegments⟩ := exists_splitOnP_append ht s
  have hsplit : ((s ++ ':' :: t) ++ '/' :: u).splitOnP isSlash =
      segments ++ [segment ++ ':' :: t, u] := by
    rw [List.splitOnP_append_cons _ _ hslash, hsegments, List.splitOnP_eq_singleton hu,
      List.append_assoc]
    rfl
  have hcolon : ':' ∈ percentEncode inPath (segment ++ ':' :: t) :=
    colon_mem_percentEncode (List.mem_append_right _ List.mem_cons_self)
  obtain ⟨done, hfollow⟩ := exists_follow [] (segments.map (percentEncode inPath)) hcolon
    (percentEncode inPath u) hlast
  have hne : ':' ≠ '/' := by decide
  unfold readPath
  rw [String.toList_ofList]
  simp only [List.cons_append, hc, if_true]
  rw [hsplit, List.map_append, List.map_cons, List.map_cons, List.map_nil, hfollow, List.mem_cons,
    Idna.mem_intercalate_singleton hne]
  exact .inr ⟨_, List.mem_append_right done List.mem_cons_self, hcolon⟩

end RemoteHost.Url
