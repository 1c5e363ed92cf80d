/-
RemoteHost/Text/CaseRun.lean

Tables that take a character to another one, or to several.

In the written form of a table of runs, `lo-hi:to` moves a run of neighbours so
that `lo` becomes `to`, `lo=hi:to` does the same for every second character, and
`c:to` moves a single character.  In a table of expansions, `c:x+y+z` takes `c` to
the characters `x`, `y` and `z`.
-/
import RemoteHost.Text.CharSet

namespace RemoteHost.Text

/-- Characters that move by the same distance: the first of them to `target`. -/
structure CaseRun where
  range : Range
  target : Nat
  deriving DecidableEq

/-- A run in its written form. -/
def CaseRun.ofWord (s : List Char) : CaseRun :=
  match splitOnce ':' s with
  | some (run, target) => ⟨Range.ofWord run, hexValue target⟩
  | none => ⟨Range.ofWord s, hexValue s⟩

/-- The runs that a table spells. -/
def CaseRun.ofTable (table : String) : Array CaseRun :=
  ((wordsOf table.toList).map CaseRun.ofWord).toArray

/-- Where the runs take a code point; one in no run stays. -/
def CaseRun.move (runs : Array CaseRun) (n : Nat) : Nat :=
  match runs.find? (·.range.has n) with
  | some r => r.target + (n - r.range.first)
  | none => n

/-- The target of the run that a code point is in, where it is the same for all of the run; 0 for a
code point in no run. -/
def CaseRun.targetOf (runs : Array CaseRun) (n : Nat) : Nat :=
  match runs.find? (·.range.has n) with
  | some r => r.target
  | none => 0

/-- The code points other than `n` that the runs take to `n`. -/
def CaseRun.sources (runs : Array CaseRun) (n : Nat) : List Nat :=
  runs.toList.filterMap fun r =>
    let m := r.range.first + (n - r.target)
    if r.target ≤ n ∧ r.range.has m then some m else none

/-- A character that becomes several. -/
structure Expansion where
  source : Nat
  result : List Char
  deriving DecidableEq

/-- An expansion in its written form. -/
def Expansion.ofWord? (s : List Char) : Option Expansion :=
  (splitOnce ':' s).map fun (c, image) =>
    ⟨hexValue c, (image.splitOn '+').map fun d => Char.ofNat (hexValue d)⟩

/-- The expansions that a table spells. -/
def Expansion.ofTable (table : String) : Array Expansion :=
  ((wordsOf table.toList).filterMap Expansion.ofWord?).toArray

/-- What a table makes of a code point that is in it. -/
def Expansion.find? (table : Array Expansion) (n : Nat) : Option (List Char) :=
  (Array.find? (fun (e : Expansion) => e.source == n) table).map Expansion.result

end RemoteHost.Text
