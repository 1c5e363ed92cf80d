/-
RemoteHost/Text/Base64.lean

Base64 with the standard alphabet and required padding.

`encode` writes three bytes as four characters.  `decode` is strict: it takes
back only what `encode` writes, and its error names the first reason against
the text.  The text is given as bytes, so that offsets count bytes and a
character outside the alphabet can be reported by its value.
-/
import RemoteHost.Text.Ascii

namespace RemoteHost.Base64

/-! ### The alphabet -/

/-- The character of a value below 64. -/
def symbol (n : Nat) : Char :=
  if n < 26 then Char.ofNat (65 + n)
  else if n < 52 then Char.ofNat (71 + n)
  else if n < 62 then Char.ofNat (n - 4)
  else if n = 62 then '+'
  else '/'

/-- The value of a byte of the alphabet. -/
def sextet? (b : UInt8) : Option Nat :=
  let n := b.toNat
  if 65 ≤ n ∧ n ≤ 90 then some (n - 65)
  else if 97 ≤ n ∧ n ≤ 122 then some (n - 71)
  else if 48 ≤ n ∧ n ≤ 57 then some (n + 4)
  else if n = 43 then some 62
  else if n = 47 then some 63
  else none

/-- The byte of the padding character. -/
def pad : UInt8 := 61

/-! ### Encoding -/

/-- Bytes as text, without padding at the end. -/
def encodeUnpadded : Bytes → List Char
  | [] => []
  | [a] => [symbol (a.toNat / 4), symbol (a.toNat % 4 * 16)]
  | [a, b] =>
    [symbol (a.toNat / 4), symbol (a.toNat % 4 * 16 + b.toNat / 16), symbol (b.toNat % 16 * 4)]
  | a :: b :: c :: r =>
    symbol (a.toNat / 4) :: symbol (a.toNat % 4 * 16 + b.toNat / 16) ::
      symbol (b.toNat % 16 * 4 + c.toNat / 64) :: symbol (c.toNat % 64) :: encodeUnpadded r

/-- The padding that fills the last group of four. -/
def padding (bytes : Bytes) : List Char :=
  List.replicate ((3 - bytes.length % 3) % 3) '='

/-- Bytes as text. -/
def encodeChars (bytes : Bytes) : List Char := encodeUnpadded bytes ++ padding bytes

/-- Bytes as text. -/
def encode (bytes : Bytes) : String := String.ofList (encodeChars bytes)

/-! ### Decoding -/

/-- Why a text is not the base64 of anything. -/
inductive Fault where
  /-- A byte that cannot stand where it stands. -/
  | invalidByte (offset : Nat) (byte : UInt8)
  /-- One character is left over after the groups of four. -/
  | sixBitRemainder
  /-- The last character has bits that belong to no byte. -/
  | invalidLastSymbol (offset : Nat) (byte : UInt8)
  /-- The last group of four is not filled up. -/
  | invalidPadding
  deriving DecidableEq, Repr

/-- The wording of a fault. -/
def Fault.message : Fault → String
  | .invalidByte offset byte =>
    "Invalid byte " ++ toString byte.toNat ++ ", offset " ++ toString offset ++ "."
  | .sixBitRemainder => "Encoded text cannot have a 6-bit remainder."
  | .invalidLastSymbol offset byte =>
    "Invalid last symbol " ++ toString byte.toNat ++ ", offset " ++ toString offset ++ "."
  | .invalidPadding => "Invalid padding"

/-- The bytes that a sequence of values below 64 spells; bits left over at the end
are dropped. -/
def bytesOf : List Nat → Bytes
  | s :: t :: u :: v :: r =>
    UInt8.ofNat (s * 4 + t / 16) :: UInt8.ofNat (t % 16 * 16 + u / 4) ::
      UInt8.ofNat (u % 4 * 64 + v) :: bytesOf r
  | [s, t, u] => [UInt8.ofNat (s * 4 + t / 16), UInt8.ofNat (t % 16 * 16 + u / 4)]
  | [s, t] => [UInt8.ofNat (s * 4 + t / 16)]
  | _ => []

/-- The bits of the last value that belong to no byte. -/
def looseBits (values : List Nat) : Nat :=
  match values.length % 4 with
  | 2 => values.getLast?.getD 0 % 16
  | 3 => values.getLast?.getD 0 % 4
  | _ => 0

/-- The values of the characters, or the first one that has none and its place. -/
def sextets (offset : Nat) : Bytes → Except Fault (List Nat)
  | [] => .ok []
  | b :: r =>
    match sextet? b with
    | none => .error (.invalidByte offset b)
    | some v => (sextets (offset + 1) r).map (v :: ·)

/-- Padding may follow two or three characters of a last group and fills at most
that group. -/
def paddingFits (symbols padding : Nat) : Bool :=
  padding == 0 || (2 ≤ symbols % 4 && symbols % 4 + padding ≤ 4)

/-- The bytes that a text stands for, or the first thing wrong with it. -/
def decode (text : Bytes) : Except Fault Bytes :=
  if text.length % 4 = 1 then
    match text.getLast? with
    | some b =>
      if b ≠ pad ∧ sextet? b = none then .error (.invalidByte (text.length - 1) b)
      else .error .sixBitRemainder
    | none => .error .sixBitRemainder
  else
    let body := text.takeWhile (· != pad)
    let tail := text.dropWhile (· != pad)
    match sextets 0 body with
    | .error e => .error e
    | .ok values =>
      if ¬ (tail.all (· == pad) ∧ paddingFits values.length tail.length) then
        .error (.invalidByte body.length pad)
      else if (values.length + tail.length) % 4 ≠ 0 then .error .invalidPadding
      else if looseBits values ≠ 0 then
        .error (.invalidLastSymbol (body.length - 1) (body.getLast?.getD 0))
      else .ok (bytesOf values)

/-- The bytes that a text stands for. -/
def decode? (text : Bytes) : Option Bytes := (decode text).toOption

end RemoteHost.Base64
