/-
RemoteHost/Text/CharSet.lean

Sets of characters given as ranges of code points, and their written form.

The tables of this library are long, so they are kept as text: words of
hexadecimal digits, `lo` for a single code point, `lo-hi` for a range and
`lo=hi` for every second code point of a range.
-/
import RemoteHost.Text.Blank
import RemoteHost.Text.Ascii
import RemoteHost.Text.Search

namespace RemoteHost.Text

/-- The code points from `first` to `last` in steps. -/
structure Range where
  first : Nat
  last : Nat
  step : Nat
  deriving DecidableEq

/-- Membership of a code point. -/
def Range.has (r : Range) (n : Nat) : Bool :=
  r.first ≤ n && n ≤ r.last && (n - r.first) % r.step == 0

/-- The value of hexadecimal digits, 0 for anything else. -/
def hexValue (s : List Char) : Nat := (digitsValue 16 s).getD 0

/-- A range in its written form. -/
def Range.ofWord (s : List Char) : Range :=
  match splitOnce '-' s with
  | some (lo, hi) => ⟨hexValue lo, hexValue hi, 1⟩
  | none =>
    match splitOnce '=' s with
    | some (lo, hi) => ⟨hexValue lo, hexValue hi, 2⟩
    | none => ⟨hexValue s, hexValue s, 1⟩

/-- A set of code points: the union of some ranges. -/
structure CharSet where
  ranges : Array Range

/-- The set that a table spells. -/
def CharSet.ofTable (table : String) : CharSet :=
  ⟨((wordsOf table.toList).map Range.ofWord).toArray⟩

/-- Membership of a code point. -/
def CharSet.has (set : CharSet) (n : Nat) : Bool := set.ranges.any (·.has n)

/-- Membership of a character. -/
def CharSet.contains (set : CharSet) (c : Char) : Bool := set.has c.toNat

end RemoteHost.Text
