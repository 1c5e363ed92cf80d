/-
RemoteHost/Key/Wire.lean

The binary form of key material: numbers with the high byte first, and strings
with their length in front.

A reader takes bytes from the front and gives none when they do not fit.
-/
import RemoteHost.Crypto.Words
import RemoteHost.Text.Utf8

namespace RemoteHost.Wire

/-- A reader of a value at the front of some bytes. -/
abbrev Reader := StateT Bytes Option

/-- Take exactly `n` bytes. -/
def bytes (n : Nat) : Reader Bytes := fun b =>
  if n ≤ b.length then some (b.take n, b.drop n) else none

/-- A number of `width` bytes. -/
def number (width : Nat) : Reader Nat := do pure (ofBigEndian (← bytes width))

/-- A string: its length, then its bytes. -/
def string : Reader Bytes := do bytes (← number 4)

/-- A string that is text. -/
def text : Reader String := do
  match Utf8.decode? (← string) with
  | some s => pure s
  | none => failure

/-- A short text that names an algorithm or a curve. -/
def label : Reader String := do
  let b ← string
  if 48 < b.length then failure
  match Utf8.decode? b with
  | some s => pure s
  | none => failure

/-- Run a reader on all of some bytes. -/
def readAll {α : Type} (r : Reader α) (b : Bytes) : Option α :=
  match r b with
  | some (a, []) => some a
  | _ => none

/-- A string that another reader reads in full. -/
def nested {α : Type} (r : Reader α) : Reader α := do
  match readAll r (← string) with
  | some a => pure a
  | none => failure

/-- Values up to the end; the first argument bounds their number. -/
def many {α : Type} (r : Reader α) : Nat → Reader (List α)
  | 0 => do
    if (← get).isEmpty then pure [] else failure
  | n + 1 => do
    if (← get).isEmpty then pure []
    else
      let a ← r
      let rest ← many r n
      pure (a :: rest)

/-- Values up to the end, each of which takes at least a byte. -/
def all {α : Type} (r : Reader α) : Reader (List α) := do many r (← get).length

/-- A whole number of any size; one byte of zeros, and zeros in front that the sign
does not need, are refused. -/
def integer : Reader Bytes := do
  match ← string with
  | [0] => failure
  | 0 :: b :: r => if b < 0x80 then failure else pure (0 :: b :: r)
  | b => pure b

/-- The bytes of a positive whole number without the one for its sign. -/
def magnitude : Bytes → Option Bytes
  | 0 :: r => some r
  | b :: r => if b < 0x80 then some (b :: r) else none
  | [] => some []

/-- A string in its binary form. -/
def writeString (b : Bytes) : Bytes := bigEndianBytes 4 b.length ++ b

/-- A text in its binary form. -/
def writeText (s : String) : Bytes := writeString (Utf8.encode s)

/-- A natural number in its shortest form, with a byte for the sign where it is
needed. -/
def integerOf (n : Nat) : Bytes :=
  let b := bigEndianBytes ((n.log2 + 8) / 8) n
  if n = 0 then []
  else if b.headD 0 < 0x80 then b else 0 :: b

end RemoteHost.Wire
