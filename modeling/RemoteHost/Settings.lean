/-
RemoteHost/Settings.lean

The settings that give access to a management endpoint.

A value that is given explicitly wins; what is left unset is looked up in the
environment.  For the four texts an empty value counts as unset, for the two
flags only an absent one does.  `resolve` gives its outcome together with the
warnings it has to make.
-/
import RemoteHost.Failure
import RemoteHost.CommandLog
import RemoteHost.Text.Ascii
import RemoteHost.Json.Record

namespace RemoteHost

/-- Settings as they are given: every field may be absent. -/
structure Settings where
  host : Option String := none
  username : Option String := none
  password : Option String := none
  insecure : Option Bool := none
  useCerts : Option Bool := none
  apiVersion : Option String := none
  deriving DecidableEq, Repr

/-- Settings that are complete. -/
structure Access where
  host : String
  username : String
  password : String
  insecure : Bool
  useCerts : Bool
  apiVersion : Option String
  deriving DecidableEq, Repr

/-- A look-up of environment variables. -/
abbrev Environment := String → Option String

namespace Settings

/-! ### Resolution -/

/-- A text that is not empty. -/
def nonEmpty? (s : String) : Option String := if s.isEmpty then none else some s

/-- The explicit text, or the variable's, if either is not empty. -/
def text (env : Environment) (explicit : Option String) (key : String) : Option String :=
  (explicit.bind nonEmpty?).or ((env key).bind nonEmpty?)

/-- The truth value that a variable spells; a word that is neither yes nor no counts
as no, with a warning. -/
def parseFlag (key value : String) : Bool × List LogRecord :=
  let word := Text.toLowerAscii (Text.trim value)
  if word = "true" ∨ word = "1" ∨ word = "yes" then (true, [])
  else if word = "false" ∨ word = "0" ∨ word = "no" ∨ word = "" then (false, [])
  else
    (false, [.warn (key ++ ": unrecognised boolean '" ++ word ++ "', treating as false")])

/-- The explicit flag, or the variable's. -/
def flag (env : Environment) (explicit : Option Bool) (key : String) : Bool × List LogRecord :=
  match explicit with
  | some b => (b, [])
  | none =>
    match env key with
    | some v => parseFlag key v
    | none => (false, [])

/-- The failure for a text that is given nowhere. -/
def missing (field key : String) : Failure where
  kind := .missingCredential
  message := field ++ " is not set; configure it explicitly or via " ++ key

/-- A text that has to be there. -/
def required (env : Environment) (explicit : Option String) (field key : String) :
    Outcome String :=
  match text env explicit key with
  | some v => .ok v
  | none => .error (missing field key)

/-- The complete settings, with the warnings on the way to them. -/
def resolve (env : Environment) (s : Settings) : Outcome Access × List LogRecord :=
  let texts : Outcome (String × String × String) := do
    let host ← required env s.host "host" "STORAGE_HOST"
    let username ← required env s.username "username" "STORAGE_USERNAME"
    let password ← required env s.password "password" "STORAGE_PASSWORD"
    pure (host, username, password)
  match texts with
  | .error e => (.error e, [])
  | .ok (host, username, password) =>
    let (insecure, w₁) := flag env s.insecure "STORAGE_INSECURE"
    let (useCerts, w₂) := flag env s.useCerts "STORAGE_USE_CERTS"
    let apiVersion := text env s.apiVersion "STORAGE_API_VERSION"
    (.ok ⟨host, username, password, insecure, useCerts, apiVersion⟩, w₁ ++ w₂)

/-! ### JSON -/

/-- A flag as a value, or null. -/
def flagJson : Option Bool → Json
  | some b => .bool b
  | none => .null

/-- The JSON form. -/
def toJson (s : Settings) : Json :=
  .obj [("host", Json.ofText? s.host), ("username", Json.ofText? s.username),
    ("password", Json.ofText? s.password), ("insecure", flagJson s.insecure),
    ("useCerts", flagJson s.useCerts), ("apiVersion", Json.ofText? s.apiVersion)]

/-- Settings that are being read; a field may be given as null. -/
structure Draft where
  host : Option (Option String) := none
  username : Option (Option String) := none
  password : Option (Option String) := none
  insecure : Option (Option Bool) := none
  useCerts : Option (Option Bool) := none
  apiVersion : Option (Option String) := none

/-- An optional text of the settings. -/
def textField (name : String) (isSet : Draft → Bool) (set : Option String → Draft → Draft) :
    Json.Field Draft where
  name := name
  required := false
  isSet := isSet
  read := do
    let v ← Json.readOptional Json.readText
    pure (set v)

/-- An optional flag of the settings. -/
def flagField (name : String) (isSet : Draft → Bool) (set : Option Bool → Draft → Draft) :
    Json.Field Draft where
  name := name
  required := false
  isSet := isSet
  read := do
    let v ← Json.readOptional Json.readFlag
    pure (set v)

/-- The fields of the settings. -/
def schema : Json.Schema Draft where
  name := "ProviderSettings"
  fields :=
    [ textField "host" (·.host.isSome) fun v d => { d with host := some v },
      textField "username" (·.username.isSome) fun v d => { d with username := some v },
      textField "password" (·.password.isSome) fun v d => { d with password := some v },
      flagField "insecure" (·.insecure.isSome) fun v d => { d with insecure := some v },
      flagField "useCerts" (·.useCerts.isSome) fun v d => { d with useCerts := some v },
      textField "apiVersion" (·.apiVersion.isSome) fun v d => { d with apiVersion := some v } ]

/-- Read settings from their JSON form. -/
def decode (text : String) : Except Json.Fault Settings :=
  (schema.decode {} text).map fun d =>
    ⟨d.host.join, d.username.join, d.password.join, d.insecure.join, d.useCerts.join,
      d.apiVersion.join⟩

end Settings

/-- The JSON form of complete settings, which leaves the password out. -/
def Access.toJson (e : Access) : Json :=
  .obj [("host", .str e.host), ("username", .str e.username), ("insecure", .bool e.insecure),
    ("useCerts", .bool e.useCerts), ("apiVersion", Json.ofText? e.apiVersion)]

end RemoteHost
