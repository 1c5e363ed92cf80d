/-
RemoteHost/Winrm/Config.lean

How to reach the management service of a Windows host.

A configuration may come from JSON of fixed types or from a context of loose ones, in
which numbers may be given as texts and flags as words; what cannot be used there keeps
its default.  The address of the service is made by writing the target into a URL, with
brackets around a target that has colons, and reading that URL.
-/
import RemoteHost.CommandLog
import RemoteHost.Failure
import RemoteHost.Json.Record
import RemoteHost.Json.Value
import RemoteHost.Text.Quoted
import RemoteHost.Url.Basic

namespace RemoteHost.Winrm

/-- How to reach a service and log in to it. -/
structure Config where
  target : String := ""
  port : Nat := 5985
  username : String := ""
  password : String := ""
  /-- For each request, and for each operation of the service. -/
  timeoutSecs : Nat := 60
  https : Bool := false
  /-- Accept any certificate of the host. -/
  insecure : Bool := false
  deriving DecidableEq, Repr

namespace Config

/-- The time for a request, at least one second. -/
def timeout (c : Config) : Nat := max c.timeoutSecs 1

/-- The time for an operation as the protocol writes it. -/
def operationTimeout (c : Config) : String := "PT" ++ toString c.timeout ++ "S"

/-- The target as the host of a URL. -/
def hostText (c : Config) : String :=
  if c.target.toList.contains ':' ∧ ¬ Text.startsWith c.target "[" then "[" ++ c.target ++ "]"
  else c.target

/-- The scheme of the service's URL. -/
def scheme (c : Config) : Url.Scheme := if c.https then .https else .http

/-- The URL of the service. -/
def endpoint (c : Config) : Outcome Url :=
  match Url.read c.scheme ("//" ++ c.hostText ++ ":" ++ toString c.port ++ "/wsman") with
  | .ok u => .ok u
  | .error e =>
    .error { kind := .connectionFailed
             message := "invalid WinRM endpoint for '" ++ c.target ++ "': " ++ e.message }

/-- Yes or no, in the words of debug output. -/
def yesNo (b : Bool) : String := if b then "true" else "false"

/-- The text of a configuration for debug output. -/
def debug (c : Config) : String :=
  "WinRmConfig \x7b target: " ++ Text.quoted c.target ++ ", port: " ++ toString c.port ++
    ", username: " ++ Text.quoted c.username ++ ", password: " ++ Text.quoted c.password ++
    ", timeout_secs: " ++ toString c.timeoutSecs ++ ", https: " ++ yesNo c.https ++
    ", insecure: " ++ yesNo c.insecure ++ " \x7d"

/-! ### Loose contexts -/

/-- A value as a text: a text, or a number as it is written. -/
def textOf? : Json → Option String
  | .str s => some s
  | .num n => some n.render
  | _ => none

/-- A value as a whole number that a word of 64 bits can hold. -/
def wholeOf? : Json → Option Nat
  | .num (.nat n) => if n < UInt64.size then some n else none
  | .str s => (Text.natValue 10 (Text.trim s).toList).filter (· < UInt64.size)
  | _ => none

/-- The words for yes and no. -/
def flagWords : List (String × Bool) :=
  [("true", true), ("1", true), ("yes", true), ("false", false), ("0", false), ("no", false)]

/-- A value as a flag: a flag, or a word for one. -/
def flagOf? : Json → Option Bool
  | .bool b => some b
  | .str s => flagWords.lookup (Text.toLowerAscii (Text.trim s))
  | _ => none

/-- The port of a context, or the default, with a warning about a number that is no
port. -/
def portOf (v : Option Json) (default : Nat) : Nat × List LogRecord :=
  match v.bind wholeOf? with
  | none => (default, [])
  | some n =>
    if n < 65536 then (n, [])
    else (default, [.warn ("ignoring out of range WinRM port " ++ toString n)])

/-- The configuration that a context describes, with warnings. -/
def ofContext (context : Json) : Config × List LogRecord :=
  let default : Config := {}
  let value (key : String) := context.get? key
  let (port, log) := portOf (value "port") default.port
  ({ target := ((value "target").bind textOf?).getD default.target
     port
     username := ((value "username").bind textOf?).getD default.username
     password := ((value "password").bind textOf?).getD default.password
     timeoutSecs := ((value "timeout").bind wholeOf?).getD default.timeoutSecs
     https := ((value "https").bind flagOf?).getD default.https
     insecure := ((value "insecure").bind flagOf?).getD default.insecure }, log)

/-! ### JSON -/

/-- The JSON form, which leaves the password out. -/
def toJson (c : Config) : Json :=
  .obj [("target", .str c.target), ("port", .ofNat c.port), ("username", .str c.username),
    ("timeoutSecs", .ofNat c.timeoutSecs), ("https", .bool c.https),
    ("insecure", .bool c.insecure)]

/-- A configuration that is being read. -/
structure Draft where
  target : Option String := none
  port : Option Nat := none
  username : Option String := none
  password : Option String := none
  timeoutSecs : Option Nat := none
  https : Option Bool := none
  insecure : Option Bool := none

/-- A field of a configuration. -/
def member {α : Type} (name : String) (get : Draft → Option α) (read : Json.Reader α)
    (set : α → Draft → Draft) : Json.Field Draft where
  name := name
  required := false
  isSet := fun d => (get d).isSome
  read := do
    let v ← read
    pure (set v)

/-- The fields of a configuration. -/
def schema : Json.Schema Draft where
  name := "WinRmConfig"
  fields :=
    [ member "target" (·.target) Json.readText fun v d => { d with target := some v },
      member "port" (·.port) (Json.readWord 16) fun v d => { d with port := some v },
      member "username" (·.username) Json.readText fun v d => { d with username := some v },
      member "password" (·.password) Json.readText fun v d => { d with password := some v },
      member "timeoutSecs" (·.timeoutSecs) (Json.readWord 64)
        fun v d => { d with timeoutSecs := some v },
      member "https" (·.https) Json.readFlag fun v d => { d with https := some v },
      member "insecure" (·.insecure) Json.readFlag fun v d => { d with insecure := some v } ]

/-- Read a configuration from its JSON form. -/
def decode (text : String) : Except Json.Fault Config :=
  (schema.decode {} text).map fun d =>
    let default : Config := {}
    { target := d.target.getD default.target
      port := d.port.getD default.port
      username := d.username.getD default.username
      password := d.password.getD default.password
      timeoutSecs := d.timeoutSecs.getD default.timeoutSecs
      https := d.https.getD default.https
      insecure := d.insecure.getD default.insecure }

end Config

end RemoteHost.Winrm
