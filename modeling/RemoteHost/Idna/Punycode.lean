/-
RemoteHost/Idna/Punycode.lean

Any characters written with ASCII letters, digits and hyphens.

The ASCII characters of a text come first, then a hyphen, then the other characters in
ascending order.  Of each the code tells how many steps it is from the last one, where
a step goes through all places of the text before it goes to the next code point.  The
numbers are written in base 36, the low digit first; where a number ends is told by its
digits alone, against thresholds that adapt to the numbers so far.
-/
import RemoteHost.Text.Ascii

namespace RemoteHost.Idna.Punycode

/-! ### Digits and thresholds -/

/-- The character of a digit. -/
def digitChar (d : Nat) : Char := if d < 26 then Char.ofNat (97 + d) else Char.ofNat (22 + d)

/-- The digit of a character. -/
def digitOf? (c : Char) : Option Nat :=
  if 'a' ≤ c ∧ c ≤ 'z' then some (c.toNat - 97)
  else if 'A' ≤ c ∧ c ≤ 'Z' then some (c.toNat - 65)
  else if '0' ≤ c ∧ c ≤ '9' then some (c.toNat - 22)
  else none

/-- The threshold at a place, where places count in steps of 36: a digit below it is the
last one of its number. -/
def threshold (bias place : Nat) : Nat :=
  if place ≤ bias then 1 else if bias + 26 ≤ place then 26 else place - bias

theorem threshold_pos (bias place : Nat) : 1 ≤ threshold bias place := by
  unfold threshold
  split
  · omega
  · split <;> omega

/-- Scale a number down to what thresholds distinguish, counting the scaling. -/
def scaleDown (delta count : Nat) : Nat :=
  if h : 455 < delta then scaleDown (delta / 35) (count + 36)
  else count + 36 * delta / (delta + 38)
termination_by delta
decreasing_by exact Nat.div_lt_self (by omega) (by omega)

/-- The bias after a number, in a text of `size` characters. -/
def adapt (delta size : Nat) (isFirst : Bool) : Nat :=
  let d := if isFirst then delta / 700 else delta / 2
  scaleDown (d + d / size) 0

/-! ### Encoding -/

/-- The digits of a number. -/
def encodeNumber (bias place n : Nat) : List Char :=
  let t := threshold bias place
  if h : n < t then [digitChar n]
  else digitChar (t + (n - t) % (36 - t)) :: encodeNumber bias (place + 36) ((n - t) / (36 - t))
termination_by n
decreasing_by
  have h1 := threshold_pos bias place
  exact Nat.lt_of_le_of_lt (Nat.div_le_self _ _) (by omega)

/-- What an encoder carries from one character to the next. -/
structure Encoder where
  output : List Char
  delta : Nat
  bias : Nat
  /-- How many characters are written. -/
  written : Nat

/-- Pass one character of the text, while `n` is the code point to be written. -/
def Encoder.pass (basics n : Nat) (e : Encoder) (c : Char) : Encoder :=
  if c.toNat < n then { e with delta := e.delta + 1 }
  else if c.toNat = n then
    { output := e.output ++ encodeNumber e.bias 36 e.delta
      delta := 0
      bias := adapt e.delta (e.written + 1) (e.written == basics)
      written := e.written + 1 }
  else e

/-- Write the characters with the code points of a list in ascending order; all code
points below `last` are written. -/
def encodeFrom (text : List Char) (basics : Nat) : (last : Nat) → List Nat → Encoder → Encoder
  | _, [], e => e
  | last, n :: ns, e =>
    let e := { e with delta := e.delta + (n - last) * (e.written + 1) }
    let e := text.foldl (Encoder.pass basics n) e
    encodeFrom text basics (n + 1) ns { e with delta := e.delta + 1 }

/-- A character is one of ASCII. -/
def isBasic (c : Char) : Bool := c.toNat < 128

/-- The code of a text. -/
def encode (text : List Char) : List Char :=
  let basics := text.filter isBasic
  let others := ((text.filter (!isBasic ·)).map Char.toNat).mergeSort.eraseDups
  let e := encodeFrom text basics.length 128 others ⟨[], 0, 72, basics.length⟩
  basics ++ (if basics.isEmpty then [] else ['-']) ++ e.output

/-! ### Decoding -/

/-- The largest number that a code may hold. -/
def numberBound : Nat := UInt32.size

/-- Read a number: add to `sum`, with the next digit weighing `weight`.  The result is
the sum and what follows the number, which is shorter than what was there. -/
def readNumber (bias place weight sum : Nat) :
    (s : List Char) → Option (Nat × { r : List Char // r.length < s.length })
  | [] => none
  | c :: r =>
    match digitOf? c with
    | none => none
    | some d =>
      let t := threshold bias place
      let sum := sum + d * weight
      if numberBound ≤ sum then none
      else if d < t then some (sum, ⟨r, by simp⟩)
      else if numberBound ≤ weight * (36 - t) then none
      else
        (readNumber bias (place + 36) (weight * (36 - t)) sum r).map fun (n, rest) =>
          (n, ⟨rest.val, by have := rest.property; simp; omega⟩)

/-- Decode what follows the ASCII characters: `index` is the place that comes next and
`n` the code point. -/
def decodeFrom (n index bias : Nat) (text s : List Char) : Option (List Char) :=
  if s.isEmpty then some text
  else
    match readNumber bias 36 1 index s with
    | none => none
    | some (sum, rest) =>
      let size := text.length + 1
      let n' := n + sum / size
      if 0x110000 ≤ n' ∨ (0xD800 ≤ n' ∧ n' < 0xE000) then none
      else
        decodeFrom n' (sum % size + 1) (adapt (sum - index) size (index == 0))
          (text.insertIdx (sum % size) (Char.ofNat n')) rest.val
termination_by s.length
decreasing_by exact rest.property

/-- The text before the last hyphen and the text behind it; no hyphen counts that
nothing stands before. -/
def splitLast (s : List Char) : List Char × List Char :=
  let tail := (s.reverse.takeWhile (· ≠ '-')).reverse
  let front := s.take (s.length - tail.length - 1)
  if front.isEmpty then ([], s) else (front, tail)

/-- The text of a code. -/
def decode? (code : List Char) : Option (List Char) :=
  let (basics, rest) := splitLast code
  if basics.all isBasic then decodeFrom 128 0 72 basics rest else none

end RemoteHost.Idna.Punycode
