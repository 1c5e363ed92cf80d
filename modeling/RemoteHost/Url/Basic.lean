/-
RemoteHost/Url/Basic.lean

URLs of the web: reading and writing.

`Url.read` takes what follows `http:` or `https:` as browsers take it.  Tabs and line
ends do not count, backslashes are slashes, and any number of slashes may stand in front
of the login and the host.  The parts are kept in the form in which they are written
again.
-/
import RemoteHost.Url.Host

namespace RemoteHost

/-- A scheme of the web. -/
inductive Url.Scheme where
  | http
  | https
  deriving DecidableEq, Repr

namespace Url

/-- The name of a scheme. -/
def Scheme.name : Scheme → String
  | .http => "http"
  | .https => "https"

/-- The port that need not be written. -/
def Scheme.port : Scheme → Nat
  | .http => 80
  | .https => 443

end Url

/-- A URL. -/
structure Url where
  scheme : Url.Scheme
  username : String := ""
  password : String := ""
  host : Url.Host
  /-- The port, where it is not the one of the scheme. -/
  port : Option Nat := none
  path : String := "/"
  query : Option String := none
  fragment : Option String := none
  deriving DecidableEq, Repr

namespace Url

/-- The user name and the password as they are written. -/
def login (u : Url) : String :=
  if u.username.isEmpty ∧ u.password.isEmpty then ""
  else u.username ++ (if u.password.isEmpty then "" else ":" ++ u.password) ++ "@"

/-- The text of a URL. -/
def render (u : Url) : String :=
  u.scheme.name ++ "://" ++ u.login ++ u.host.render ++
    (match u.port with
      | some p => ":" ++ toString p
      | none => "") ++
    u.path ++
    (match u.query with
      | some q => "?" ++ q
      | none => "") ++
    (match u.fragment with
      | some f => "#" ++ f
      | none => "")

/-! ### Reading -/

/-- A slash of either kind. -/
def isSlash (c : Char) : Bool := c = '/' || c = '\\'

/-- The login, host and port end here. -/
def endsAuthority (c : Char) : Bool := isSlash c || c = '?' || c = '#'

/-- The text before the first character that a predicate holds of, and the rest. -/
def spanUntil (stop : Char → Bool) (s : List Char) : List Char × List Char :=
  (s.takeWhile (!stop ·), s.dropWhile (!stop ·))

/-- The login in front of the last `@` of an authority, if there is one, and the rest. -/
def splitLogin (s : List Char) : Option (List Char) × List Char :=
  let host := (s.reverse.takeWhile (· ≠ '@')).reverse
  if host.length = s.length then (none, s) else (some (s.take (s.length - host.length - 1)), host)

/-- The host of an authority and what follows it: the host goes up to the first colon
that is not in brackets. -/
def splitHost (inBrackets : Bool) : List Char → List Char × List Char
  | [] => ([], [])
  | c :: r =>
    if c = ':' ∧ ¬ inBrackets then ([], c :: r)
    else
      let now := if c = '[' then true else if c = ']' then false else inBrackets
      let (host, rest) := splitHost now r
      (c :: host, rest)

/-- The port after the host; none where it is not given or is the one of the scheme. -/
def readPort (scheme : Scheme) (s : List Char) : Except Fault (Option Nat) :=
  match s with
  | ':' :: ds =>
    match Text.digitsValue 10 ds with
    | none => throw .invalidPort
    | some n =>
      if 65536 ≤ n then throw .invalidPort
      else if ds.isEmpty ∨ n = scheme.port then pure none
      else pure (some n)
  | _ => pure none

/-- A segment that stands for the segment it is in. -/
def isHere (s : List Char) : Bool := Text.toLowerAscii (String.ofList s) ∈ [".", "%2e"]

/-- A segment that stands for the segment before. -/
def isUp (s : List Char) : Bool :=
  Text.toLowerAscii (String.ofList s) ∈ ["..", ".%2e", "%2e.", "%2e%2e"]

/-- A drive of a file system: a letter and a colon or a bar. -/
def isDrive (s : List Char) : Bool :=
  match s with
  | [a, b] => Text.isLetter a && (b = ':' || b = '|')
  | _ => false

/-- Take back the last of some segments, unless it is a drive. -/
def goUp (segments : List (List Char)) : List (List Char) :=
  match segments.getLast? with
  | some s => if isDrive s then segments else segments.dropLast
  | none => []

/-- Follow the segments of a path; `done` are those that stay so far. -/
def follow (done : List (List Char)) : List (List Char) → List (List Char)
  | [] => done
  | [s] => if isUp s then goUp done ++ [[]] else if isHere s then done ++ [[]] else done ++ [s]
  | s :: r =>
    if isUp s then follow (goUp done) r
    else if isHere s then follow done r
    else follow (done ++ [s]) r

/-- The path as it is written. -/
def readPath (s : List Char) : String :=
  let inner := match s with
    | c :: r => if isSlash c then r else c :: r
    | [] => []
  let segments := (inner.splitOnP isSlash).map (percentEncode inPath)
  String.ofList ('/' :: ['/'].intercalate (follow [] segments))

/-- The URL that follows a scheme and its colon. -/
def read (scheme : Scheme) (text : String) : Except Fault Url := do
  let s := text.toList.filter fun c => c ≠ '\t' ∧ c ≠ '\n' ∧ c ≠ '\r'
  let (authority, rest) := spanUntil endsAuthority (s.dropWhile isSlash)
  let (login, server) := splitLogin authority
  let (name, password) := spanUntil (· = ':') (login.getD [])
  let (hostText, portText) := splitHost false server
  let host ← Host.ofText hostText
  let port ← readPort scheme portText
  let (path, rest) := spanUntil (fun c => c = '?' || c = '#') rest
  let (query, rest) := match rest with
    | '?' :: r =>
      let (q, rest) := spanUntil (· = '#') r
      (some q, rest)
    | _ => (none, rest)
  let fragment := match rest with
    | '#' :: r => some r
    | _ => none
  pure
    { scheme, host, port
      username := String.ofList (percentEncode inLogin name)
      password := String.ofList (percentEncode inLogin (password.drop 1))
      path := readPath path
      query := query.map fun q => String.ofList (percentEncode inQuery q)
      fragment := fragment.map fun f => String.ofList (percentEncode inFragment f) }

end Url

end RemoteHost
