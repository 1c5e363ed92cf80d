/-
RemoteHost/Text/Utf16.lean

UTF-16, and its little-endian byte form, in which Windows keeps its texts.

A character outside the basic plane is a high and a low surrogate.  The reader
refuses a surrogate that stands alone.
-/
import RemoteHost.Text.Ascii

namespace RemoteHost.Utf16

/-- The code units of a character. -/
def unitsOf (c : Char) : List Nat :=
  let n := c.toNat
  if n < 0x10000 then [n]
  else [0xD800 + (n - 0x10000) / 0x400, 0xDC00 + (n - 0x10000) % 0x400]

/-- The code units of a text. -/
def units (s : List Char) : List Nat := s.flatMap unitsOf

/-- A code unit as two bytes, the low one first. -/
def littleEndian (u : Nat) : Bytes := [UInt8.ofNat (u % 256), UInt8.ofNat (u / 256)]

/-- A text as bytes, each code unit with its low byte first. -/
def encodeChars (s : List Char) : Bytes := (units s).flatMap littleEndian

/-- A text as bytes, each code unit with its low byte first. -/
def encode (s : String) : Bytes := encodeChars s.toList

/-- The text of some code units; none where a surrogate stands alone. -/
def ofUnits? : List Nat → Option (List Char)
  | [] => some []
  | u :: r =>
    if u < 0xD800 ∨ (0xE000 ≤ u ∧ u < 0x10000) then (ofUnits? r).map (Char.ofNat u :: ·)
    else if u < 0xDC00 then
      match r with
      | v :: r' =>
        if 0xDC00 ≤ v ∧ v < 0xE000 then
          (ofUnits? r').map (Char.ofNat (0x10000 + (u - 0xD800) * 0x400 + (v - 0xDC00)) :: ·)
        else none
      | [] => none
    else none

/-- Pairs of bytes as code units, the low byte first; none where a byte is left. -/
def unitsOfBytes? : Bytes → Option (List Nat)
  | [] => some []
  | [_] => none
  | a :: b :: r => (unitsOfBytes? r).map ((a.toNat + b.toNat * 256) :: ·)

/-- The text of some bytes, each code unit with its low byte first. -/
def decode? (bytes : Bytes) : Option String :=
  ((unitsOfBytes? bytes).bind ofUnits?).map String.ofList

end RemoteHost.Utf16
