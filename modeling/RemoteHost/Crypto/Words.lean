/-
RemoteHost/Crypto/Words.lean

Bytes as words and words as bytes, in both orders.
-/
import RemoteHost.Text.Ascii

namespace RemoteHost

/-- A number as `width` bytes, the low one first. -/
def littleEndianBytes (width n : Nat) : Bytes :=
  (List.range width).map fun i => UInt8.ofNat (n >>> (8 * i))

/-- A number as `width` bytes, the high one first. -/
def bigEndianBytes (width n : Nat) : Bytes :=
  (List.range width).map fun i => UInt8.ofNat (n >>> (8 * (width - 1 - i)))

/-- Bytes as a number, the low one first. -/
def ofLittleEndian (b : Bytes) : Nat := b.foldr (fun x n => x.toNat + n * 256) 0

/-- Bytes as a number, the high one first. -/
def ofBigEndian (b : Bytes) : Nat := b.foldl (fun n x => n * 256 + x.toNat) 0

@[simp] theorem length_littleEndianBytes (width n : Nat) :
    (littleEndianBytes width n).length = width := by simp [littleEndianBytes]

/-- The first `n` consecutive pieces of a given length. -/
def pieces {α : Type} (size : Nat) : Nat → List α → List (List α)
  | 0, _ => []
  | n + 1, xs => xs.take size :: pieces size n (xs.drop size)

/-- Consecutive pieces of a given length, the last one possibly shorter. -/
def chunks {α : Type} (size : Nat) (xs : List α) : List (List α) :=
  pieces size ((xs.length + size - 1) / size) xs

/-- A 32-bit word rotated to the left. -/
def rotateLeft (x : UInt32) (n : UInt32) : UInt32 := (x <<< n) ||| (x >>> (32 - n))

/-- The exclusive or of two byte strings, as far as the shorter one goes. -/
def xorBytes (a b : Bytes) : Bytes := List.zipWith (· ^^^ ·) a b

end RemoteHost
