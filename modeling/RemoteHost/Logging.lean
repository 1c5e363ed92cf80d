/-
RemoteHost/Logging.lean

The configuration of log output, and the syntax of its filter.

A filter is a list of directives with commas between them.  A directive is a
level, or a target, or a target and a level with an equals sign between them; a
span with conditions on its fields may stand in brackets after the target.  The
environment variable, when it holds a filter, wins over the configuration.
-/
import RemoteHost.Settings
import RemoteHost.Regex.Parser

namespace RemoteHost.Logging

/-! ### Filters -/

/-- A word is a level: a name in either case, or a number up to 5. -/
def isLevel (s : List Char) : Bool :=
  (match Text.natValue 10 s with
    | some n => n ≤ 5
    | none => false) ||
  [[], "error".toList, "warn".toList, "info".toList, "debug".toList, "trace".toList,
    "off".toList].contains (s.map Text.lowerAscii)

/-- A numeral, with a sign or not. -/
def isNumeral (s : List Char) : Bool :=
  match s with
  | '-' :: r => !r.isEmpty && r.all Text.isDigit
  | r => (Text.natValue 10 r).isSome

/-- A condition on a field: a name, and a value that is a number or a pattern. -/
def isFieldMatch (s : List Char) : Bool :=
  match s.splitOn '=' with
  | [] => false
  | [name] => !name.isEmpty
  | _ :: value :: _ =>
    !s.isEmpty && (isNumeral value || (Regex.parse? (String.ofList value)).isSome)

/-- What may follow a target and a span: nothing, or an equals sign and a level. -/
def isLevelPart : List Char → Bool
  | [] => true
  | '=' :: level => isLevel level
  | _ => false

/-- A span after its opening bracket, with what follows it. -/
def isSpanPart (s : List Char) : Bool :=
  let name := s.takeWhile fun c => c != ']' && c != '\x7b'
  match s.drop name.length with
  | ']' :: r => isLevelPart r
  | '\x7b' :: r =>
    match Text.splitOnce '\x7d' r with
    | some (condition, ']' :: r) => isFieldMatch condition && isLevelPart r
    | _ => false
  | _ => false

/-- A directive. -/
def isDirective (s : List Char) : Bool :=
  match Text.trimChars s with
  | [] => false
  | '[' :: r => isSpanPart r
  | c :: r =>
    (c == '-' || c == ':' || c == '_' || Text.Category.isAlphanumeric c) &&
      match (c :: r).dropWhile fun c => c != '=' && c != '[' with
      | '=' :: level => isLevel level
      | '[' :: span => isSpanPart span
      | _ => true

/-- A filter: directives with commas between them, where nothing between two commas
is passed over. -/
def isFilter (s : String) : Bool :=
  ((s.toList.splitOn ',').filter (!·.isEmpty)).all isDirective

/-! ### Configuration -/

/-- The form of log output. -/
inductive Format where
  | text
  | json
  deriving DecidableEq, Repr

/-- The name of a form. -/
def Format.name : Format → String
  | .text => "Text"
  | .json => "Json"

/-- The configuration of log output. -/
structure Config where
  filter : String := "info"
  format : Format := .text
  deriving DecidableEq, Repr

/-- The failure to read a filter. -/
def invalidFilter (filter : String) : String := "invalid log filter '" ++ filter ++ "': <detail>"

/-- The filter in force: the environment's if it is one, else the configuration's. -/
def Config.filterIn (env : Environment) (c : Config) : Except String String :=
  match (env "RUST_LOG").filter isFilter with
  | some f => .ok f
  | none => if isFilter c.filter then .ok c.filter else .error (invalidFilter c.filter)

/-- The outcome of installing log output in a process that has done so before. -/
def Config.reinstall (env : Environment) (c : Config) : Except String Unit :=
  match c.filterIn env with
  | .error e => .error e
  | .ok _ => .error
      "logging already initialised: a global default trace dispatcher has already been set"

/-- A configuration that is being read. -/
structure Draft where
  filter : Option String := none
  format : Option Format := none

/-- The fields of a configuration. -/
def schema : Json.Schema Draft where
  name := "LoggingConfig"
  fields :=
    [ { name := "filter", required := false, isSet := fun d => d.filter.isSome
        read := do
          let v ← Json.readText
          pure fun d => { d with filter := some v } },
      { name := "format", required := false, isSet := fun d => d.format.isSome
        read := do
          let v ← Json.readChoice [("text", Format.text), ("json", Format.json)]
          pure fun d => { d with format := some v } } ]

/-- Read a configuration from its JSON form. -/
def Config.decode (text : String) : Except Json.Fault Config :=
  (schema.decode {} text).map fun d => ⟨d.filter.getD "info", d.format.getD .text⟩

end RemoteHost.Logging
