/-
RemoteHost/Esxi/Inventory.lean

The list of installed software packages that `esxcli` prints.

Two header lines come first.  Each further line that is not blank describes one
package in five fields; a line with another number of fields becomes an issue
and does not stop the others from being read.
-/
import RemoteHost.Failure
import RemoteHost.Json.Value

namespace RemoteHost.Esxi

/-- An installed package. -/
structure Package where
  name : String
  version : String
  vendor : String
  /-- The acceptance level. -/
  kind : String
  installDate : String
  deriving DecidableEq, Repr

/-- The JSON form of a package. -/
def Package.toJson (p : Package) : Json :=
  .obj [("name", .str p.name), ("version", .str p.version), ("vendor", .str p.vendor),
    ("kind", .str p.kind), ("installDate", .str p.installDate)]

/-- A line that does not describe a package. -/
structure Issue where
  /-- The number of the line in the output, from 1. -/
  line : Nat
  fields : Nat
  text : String
  deriving DecidableEq, Repr

/-- The wording of an issue. -/
def Issue.message (i : Issue) : String :=
  "line " ++ toString i.line ++ ": expected 5 fields, found " ++ toString i.fields ++
    ": '" ++ i.text ++ "'"

/-- What a listing says: the packages and the lines that could not be read. -/
structure Inventory where
  packages : List Package := []
  issues : List Issue := []
  deriving DecidableEq, Repr

namespace Inventory

/-- The number of lines before the first package. -/
def headerLines : Nat := 2

/-- What a trimmed line describes; none for a blank one. -/
def readLine (number : Nat) (line : List Char) : Option (Package ⊕ Issue) :=
  if line.isEmpty then none
  else
    match (Text.wordsOf line).map String.ofList with
    | [name, version, vendor, kind, date] => some (.inl ⟨name, version, vendor, kind, date⟩)
    | fields => some (.inr ⟨number, fields.length, String.ofList line⟩)

/-- Put what a line describes in front of an inventory. -/
def cons : Option (Package ⊕ Issue) → Inventory → Inventory
  | none, l => l
  | some (.inl p), l => { l with packages := p :: l.packages }
  | some (.inr i), l => { l with issues := i :: l.issues }

/-- The inventory of some lines, the first of which has the given number. -/
def ofLines (number : Nat) : List (List Char) → Inventory
  | [] => {}
  | l :: r => cons (readLine number l) (ofLines (number + 1) r)

/-- The inventory that an output describes. -/
def ofOutput (output : String) : Inventory :=
  ofLines (headerLines + 1) ((Text.trimmedLines output.toList).drop headerLines)

/-- Every line could be read. -/
def isComplete (l : Inventory) : Bool := l.issues.isEmpty

/-- The issues as one failure, if there are any. -/
def failure? (l : Inventory) : Option Failure :=
  if l.isComplete then none
  else some ⟨.parseFailed, String.intercalate "\n" (l.issues.map Issue.message), none⟩

/-- The first package whose name satisfies `accepts`. -/
def find? (accepts : String → Bool) (l : Inventory) : Option Package :=
  l.packages.find? fun p => accepts p.name

end Inventory

end RemoteHost.Esxi
