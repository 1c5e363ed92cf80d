/-
RemoteHost/Url/Percent.lean

Percent-encoding: a byte as a percent sign and two hexadecimal digits.

Each part of a URL has its own set of ASCII characters that are encoded; characters
beyond ASCII always are, byte by byte.
-/
import RemoteHost.Text.Utf8

namespace RemoteHost.Url

/-- A byte as a percent sign and two digits. -/
def percentByte (b : UInt8) : List Char :=
  '%' :: (Text.paddedHex 2 b.toNat).map fun c =>
    if 'a' ≤ c ∧ c ≤ 'f' then Char.ofNat (c.toNat - 32) else c

/-- The text with the characters of a set, and those beyond ASCII, encoded. -/
def percentEncode (isEncoded : Char → Bool) (s : List Char) : List Char :=
  s.flatMap fun c =>
    if c.toNat < 128 ∧ ¬ isEncoded c then [c] else (String.utf8EncodeChar c).flatMap percentByte

/-- The value of a hexadecimal digit. -/
def hexDigit? (b : UInt8) : Option Nat :=
  (Text.digitValue (Char.ofNat b.toNat)).filter (· < 16)

/-- The bytes with every encoded byte decoded, the first `skip` of which belong to one
that is; a percent sign without two digits behind it stays. -/
def percentDecodeFrom (skip : Nat) : Bytes → Bytes
  | [] => []
  | b :: r =>
    match skip with
    | k + 1 => percentDecodeFrom k r
    | 0 =>
      let encoded : Option UInt8 := do
        guard (b = 0x25)
        let high ← hexDigit? (← r[0]?)
        let low ← hexDigit? (← r[1]?)
        pure (UInt8.ofNat (high * 16 + low))
      match encoded with
      | some c => c :: percentDecodeFrom 2 r
      | none => b :: percentDecodeFrom 0 r

/-- The bytes with every encoded byte decoded. -/
def percentDecode (s : Bytes) : Bytes := percentDecodeFrom 0 s

/-! ### The sets of the parts of a URL -/

/-- Control characters. -/
def isControl (c : Char) : Bool := c.toNat < 32 || c.toNat == 127

/-- Encoded in a fragment. -/
def inFragment (c : Char) : Bool := isControl c || c ∈ [' ', '"', '<', '>', '\x60']

/-- Encoded in a path. -/
def inPath (c : Char) : Bool := inFragment c || c ∈ ['#', '?', '\x7b', '\x7d']

/-- Encoded in a query. -/
def inQuery (c : Char) : Bool := isControl c || c ∈ [' ', '"', '#', '<', '>', '\'']

/-- Encoded in a user name and in a password. -/
def inLogin (c : Char) : Bool :=
  inPath c || c ∈ ['/', ':', ';', '=', '@', '[', '\\', ']', '^', '|']

end RemoteHost.Url
