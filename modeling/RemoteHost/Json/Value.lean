/-
RemoteHost/Json/Value.lean

JSON values and their compact text.

A number keeps the kind it was written in: a whole number without fraction or
exponent that fits 64 bits stays whole, every other one is a floating-point
number.
-/
import RemoteHost.Text.Ascii
import RemoteHost.Decimal.Shortest

namespace RemoteHost

namespace Json

/-- A number of a JSON text. -/
inductive Number where
  | nat (n : Nat)
  | neg (n : Nat)
  | float (x : Float)

/-- JSON writes a floating-point number in positions from `0.00001` to below
`1e16`. -/
def floatFormat : Decimal.FloatFormat := ⟨-5, 15⟩

/-- The text of a number. -/
def Number.render : Number → String
  | .nat n => toString n
  | .neg n => "-" ++ toString n
  | .float x => floatFormat.render x

end Json

/-- A JSON value; the members of an object are in the order they were written. -/
inductive Json where
  | null
  | bool (b : Bool)
  | num (n : Json.Number)
  | str (s : String)
  | arr (items : List Json)
  | obj (members : List (String × Json))

namespace Json

/-! ### The compact text -/

/-- A character inside a JSON string. -/
def escapeChar (c : Char) : List Char :=
  if c = '"' then ['\\', '"']
  else if c = '\\' then ['\\', '\\']
  else if c = '\x08' then ['\\', 'b']
  else if c = '\x0c' then ['\\', 'f']
  else if c = '\n' then ['\\', 'n']
  else if c = '\r' then ['\\', 'r']
  else if c = '\t' then ['\\', 't']
  else if c < ' ' then '\\' :: 'u' :: Text.paddedHex 4 c.toNat
  else [c]

/-- A JSON string. -/
def renderString (s : String) : String :=
  String.ofList ('"' :: s.toList.flatMap escapeChar ++ ['"'])

mutual

/-- The text of a value, without blanks. -/
def render : Json → String
  | .null => "null"
  | .bool b => if b then "true" else "false"
  | .num n => n.render
  | .str s => renderString s
  | .arr items => "[" ++ renderItems items ++ "]"
  | .obj members => "\x7b" ++ renderMembers members ++ "\x7d"

/-- The items of an array, with commas between them. -/
def renderItems : List Json → String
  | [] => ""
  | [v] => render v
  | v :: w :: r => render v ++ "," ++ renderItems (w :: r)

/-- The members of an object, with commas between them. -/
def renderMembers : List (String × Json) → String
  | [] => ""
  | [(k, v)] => renderString k ++ ":" ++ render v
  | (k, v) :: m :: r => renderString k ++ ":" ++ render v ++ "," ++ renderMembers (m :: r)

end

/-! ### Access -/

/-- The member of an object under a key; of several, the last. -/
def get? (key : String) : Json → Option Json
  | .obj members => (members.reverse.find? (·.1 == key)).map (·.2)
  | _ => none

/-- A natural number as a value. -/
def ofNat (n : Nat) : Json := .num (.nat n)

/-- A text, or null. -/
def ofText? : Option String → Json
  | some s => .str s
  | none => .null

end Json

end RemoteHost
