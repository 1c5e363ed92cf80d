/-
RemoteHost/Text/Utf8.lean

UTF-8.  `encode` is total.  For the way back there is one step, `first`, which
reads the character at the front of some bytes or says how many bytes are
spoilt: the longest front part that could have begun a character.  `decode?`
stops at spoilt bytes, `decodeLossy` writes one replacement character for each
such part.
-/
import RemoteHost.Text.Ascii

namespace RemoteHost.Utf8

/-- The bytes of a text. -/
def encodeChars (s : List Char) : Bytes := s.flatMap String.utf8EncodeChar

/-- The bytes of a text. -/
def encode (s : String) : Bytes := encodeChars s.toList

/-- A byte that continues a character. -/
def isContinuation (b : UInt8) : Bool := 0x80 ≤ b && b ≤ 0xBF

/-- The six low bits of a continuation byte. -/
def low (b : UInt8) : Nat := b.toNat % 64

/-- The range of the second byte after a first byte that begins three or four. -/
def secondRange (b : UInt8) : UInt8 × UInt8 :=
  if b = 0xE0 then (0xA0, 0xBF)
  else if b = 0xED then (0x80, 0x9F)
  else if b = 0xF0 then (0x90, 0xBF)
  else if b = 0xF4 then (0x80, 0x8F)
  else (0x80, 0xBF)

/-- The character that begins with `b` and goes on in `r`, with the number of bytes
of `r` it takes; or no character, with the number of bytes of `r` that are
spoilt along with `b`. -/
def first (b : UInt8) (r : Bytes) : Option Char × Nat :=
  if b < 0x80 then (some (Char.ofNat b.toNat), 0)
  else if b < 0xC2 then (none, 0)
  else if b < 0xE0 then
    match r with
    | c :: _ =>
      if isContinuation c then (some (Char.ofNat (b.toNat % 32 * 64 + low c)), 1) else (none, 0)
    | [] => (none, 0)
  else if b < 0xF5 then
    match r with
    | [] => (none, 0)
    | c :: r =>
      if ¬ ((secondRange b).1 ≤ c ∧ c ≤ (secondRange b).2) then (none, 0)
      else
        match r with
        | [] => (none, 1)
        | d :: r =>
          if ¬ isContinuation d then (none, 1)
          else if b < 0xF0 then
            (some (Char.ofNat ((b.toNat % 16 * 64 + low c) * 64 + low d)), 2)
          else
            match r with
            | [] => (none, 2)
            | e :: _ =>
              if isContinuation e then
                (some (Char.ofNat (((b.toNat % 8 * 64 + low c) * 64 + low d) * 64 + low e)), 3)
              else (none, 2)
  else (none, 0)

/-- The text of some bytes, the first `skip` of which are already read; `none` where
they are not UTF-8. -/
def decodeFrom (skip : Nat) : Bytes → Option (List Char)
  | [] => some []
  | b :: r =>
    match skip with
    | k + 1 => decodeFrom k r
    | 0 =>
      match first b r with
      | (some c, k) => (decodeFrom k r).map (c :: ·)
      | (none, _) => none

/-- The text of some bytes, if they are UTF-8. -/
def decode? (bytes : Bytes) : Option String := (decodeFrom 0 bytes).map String.ofList

/-- The text of some bytes, the first `skip` of which are already read, with a
replacement character for each spoilt part. -/
def decodeLossyFrom (skip : Nat) : Bytes → List Char
  | [] => []
  | b :: r =>
    match skip with
    | k + 1 => decodeLossyFrom k r
    | 0 =>
      let (c, k) := first b r
      c.getD '\uFFFD' :: decodeLossyFrom k r

/-- The text of some bytes, with a replacement character for each spoilt part. -/
def decodeLossy (bytes : Bytes) : String := String.ofList (decodeLossyFrom 0 bytes)

end RemoteHost.Utf8
