/-
RemoteHost/Url/Address.lean

Numerical addresses of hosts, read as generously as URLs read them and written in one
form.

An IPv4 address has one to four numbers, decimal, octal or hexadecimal, the last of
which stands for all the bytes that are left.  An IPv6 address has eight pieces; two
colons in a row stand for pieces that are zero, and the last two pieces may be written
as an IPv4 address.
-/
import RemoteHost.Text.Ascii

namespace RemoteHost.Url

/-! ### IPv4 -/

/-- An IPv4 address as one number. -/
structure Ipv4 where
  value : Nat
  deriving DecidableEq, Repr

namespace Ipv4

/-- A number of an address. -/
def number? (s : List Char) : Option Nat :=
  match s with
  | [] => none
  | '0' :: 'x' :: r => Text.digitsValue 16 r
  | '0' :: 'X' :: r => Text.digitsValue 16 r
  | '0' :: c :: r => Text.digitsValue 8 (c :: r)
  | s => Text.digitsValue 10 s

/-- The parts of a name between full stops, without an empty part at its end. -/
def parts (s : List Char) : List (List Char) :=
  let ps := s.splitOn '.'
  if ps.getLast? = some [] then ps.dropLast else ps

/-- A name whose last part is a number is an address and nothing else. -/
def isMeant (s : List Char) : Bool :=
  match (parts s).getLast? with
  | some p => !p.isEmpty && (p.all Text.isDigit || (number? p).isSome)
  | none => false

/-- The number of an address from its numbers in order: each but the last is one byte,
the last has the bytes that are left. -/
def combine : List Nat → (left : Nat) → Option Nat
  | [], _ => none
  | [n], left => if n < 1 <<< (8 * left) then some n else none
  | n :: ns, left =>
    if n < 256 then (combine ns (left - 1)).map ((n <<< (8 * (left - 1))) + ·) else none

/-- The address that a name spells. -/
def ofName? (s : List Char) : Option Ipv4 := do
  let ps := parts s
  guard (ps.length ≤ 4)
  (combine (← ps.mapM number?) 4).map Ipv4.mk

/-- The text of an address. -/
def render (a : Ipv4) : String :=
  ".".intercalate ([16777216, 65536, 256, 1].map fun k => toString (a.value / k % 256))

end Ipv4

/-! ### IPv6 -/

/-- An IPv6 address as its eight pieces. -/
structure Ipv6 where
  pieces : List Nat
  deriving DecidableEq, Repr

namespace Ipv6

/-- A piece: one to four hexadecimal digits. -/
def piece? (s : List Char) : Option Nat :=
  if 1 ≤ s.length ∧ s.length ≤ 4 then Text.digitsValue 16 s else none

/-- A byte of an address in IPv4 form: a decimal number without leading zeros. -/
def byte? (s : List Char) : Option Nat :=
  if s.isEmpty ∨ (s.head? = some '0' ∧ 1 < s.length) then none
  else (Text.digitsValue 10 s).filter (· < 256)

/-- The two pieces of an address in IPv4 form. -/
def embedded? (s : List Char) : Option (List Nat) :=
  match (s.splitOn '.').mapM byte? with
  | some [a, b, c, d] => some [a * 256 + b, c * 256 + d]
  | _ => none

/-- The pieces of a list; where `isEnd` holds, the last item may be in IPv4 form. -/
def piecesOf? (isEnd : Bool) : List (List Char) → Option (List Nat)
  | [] => some []
  | [s] =>
    if isEnd && s.contains '.' then embedded? s else (piece? s).map fun p => [p]
  | s :: r => do
    let p ← piece? s
    let ps ← piecesOf? isEnd r
    pure (p :: ps)

/-- The items between colons; nothing has no items. -/
def items (s : List Char) : List (List Char) := if s.isEmpty then [] else s.splitOn ':'

/-- The text before and the text after the first two colons in a row. -/
def cutAtGap : List Char → Option (List Char × List Char)
  | ':' :: ':' :: r => some ([], r)
  | c :: r => (cutAtGap r).map fun (a, b) => (c :: a, b)
  | [] => none

/-- The address that a text spells. -/
def ofText? (s : List Char) : Option Ipv6 :=
  match cutAtGap s with
  | some (front, back) => do
    let a ← piecesOf? false (items front)
    let b ← piecesOf? true (items back)
    guard (a.length + b.length ≤ 7)
    pure ⟨a ++ List.replicate (8 - a.length - b.length) 0 ++ b⟩
  | none => do
    let a ← piecesOf? true (items s)
    guard (a.length = 8)
    pure ⟨a⟩

/-- The length of the run of zeros at the front. -/
def zeros (ps : List Nat) : Nat := (ps.takeWhile (· == 0)).length

/-- The place and the length of the first of the longest runs of zeros. -/
def longestZeros : (place : Nat) → List Nat → Nat × Nat
  | _, [] => (0, 0)
  | place, p :: ps =>
    let here := zeros (p :: ps)
    let later := longestZeros (place + 1) ps
    if later.2 ≤ here then (place, here) else later

/-- The text of pieces. -/
def renderPieces (ps : List Nat) : String :=
  ":".intercalate (ps.map fun p => String.ofList (Text.hexDigits p))

/-- The text of an address: two colons stand for the first of the longest runs of zeros,
if it is longer than one piece. -/
def render (a : Ipv6) : String :=
  let (place, length) := longestZeros 0 a.pieces
  if length < 2 then renderPieces a.pieces
  else
    renderPieces (a.pieces.take place) ++ "::" ++ renderPieces (a.pieces.drop (place + length))

end Ipv6

end RemoteHost.Url
