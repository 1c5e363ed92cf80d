/-
RemoteHost/Text/Ascii.lean

Classes and case of the first 128 characters, numerals, and texts as bytes.
-/

namespace RemoteHost

/-- Binary data. -/
abbrev Bytes := List UInt8

namespace Text

/-- The digits `0` to `9`. -/
def isDigit (c : Char) : Bool := '0' ≤ c && c ≤ '9'

/-- The letters `a` to `z` and `A` to `Z`. -/
def isLetter (c : Char) : Bool := ('a' ≤ c && c ≤ 'z') || ('A' ≤ c && c ≤ 'Z')

/-- The lower case of `A` to `Z`; other characters stay. -/
def lowerAscii (c : Char) : Char :=
  if 'A' ≤ c ∧ c ≤ 'Z' then Char.ofNat (c.toNat + 32) else c

/-- The text with `A` to `Z` in lower case. -/
def toLowerAscii (s : String) : String := String.ofList (s.toList.map lowerAscii)

/-- The value of a digit, with letters of either case from 10 on. -/
def digitValue (c : Char) : Option Nat :=
  if '0' ≤ c ∧ c ≤ '9' then some (c.toNat - 48)
  else if 'a' ≤ c ∧ c ≤ 'z' then some (c.toNat - 87)
  else if 'A' ≤ c ∧ c ≤ 'Z' then some (c.toNat - 55)
  else none

/-- The number that a sequence of digits stands for; none for a character that
is no digit of the base.  No digits stand for 0. -/
def digitsValue (base : Nat) (s : List Char) : Option Nat :=
  s.foldlM (fun n c => do
    let d ← digitValue c
    if d < base then some (n * base + d) else none) 0

/-- An unsigned numeral: an optional plus sign and at least one digit. -/
def natValue (base : Nat) (s : List Char) : Option Nat :=
  let digits := match s with
    | '+' :: r => r
    | r => r
  if digits.isEmpty then none else digitsValue base digits

/-- The digits of a number in lower case. -/
def hexDigits (n : Nat) : List Char := Nat.toDigits 16 n

/-- The digits of a number, with zeros in front up to `width` places. -/
def paddedHex (width n : Nat) : List Char :=
  let ds := hexDigits n
  List.replicate (width - ds.length) '0' ++ ds

/-- The bytes of a text all of whose characters are below 128. -/
def asciiBytes (s : String) : Bytes := s.toList.map fun c => UInt8.ofNat c.toNat

end Text

end RemoteHost
