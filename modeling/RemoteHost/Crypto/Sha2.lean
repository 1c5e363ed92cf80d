/-
RemoteHost/Crypto/Sha2.lean

The SHA-2 digests with 32-bit and with 64-bit words.

Both are the same construction and differ in the width of a word, the number of
rounds and the rotations, so there is one definition with those as parameters.
The constants are not listed but computed: they are the first bits of the
fractional parts of the square and cube roots of the first primes.
-/
import RemoteHost.Crypto.Words

namespace RemoteHost.Sha2

/-! ### Constants -/

/-- The numbers from 2 up to a bound that no smaller number of the list divides. -/
def primesBelow (bound : Nat) : List Nat :=
  ((List.range bound).drop 2).filter fun n =>
    ((List.range n).drop 2).all fun d => n < d * d || n % d != 0

/-- The first 80 primes. -/
def primes : List Nat := (primesBelow 410).take 80

/-- The largest number below `2 ^ bits` whose power stays below `n`, found bit by
bit. -/
def rootBelow (power n : Nat) : Nat → Nat → Nat
  | 0, r => r
  | bit + 1, r =>
    let r' := r + (1 <<< bit)
    rootBelow power n bit (if Nat.pow r' power ≤ n then r' else r)

/-- The first `w` bits of the fractional part of the root of a small number. -/
def rootBits (power w n : Nat) : Nat :=
  rootBelow power (n <<< (power * w)) (w + 8) 0 % (1 <<< w)

/-! ### The construction -/

/-- A member of the family. -/
structure Variant where
  /-- The width of a word in bits. -/
  w : Nat
  rounds : Nat
  /-- Rotations of the two mixing functions of a round. -/
  mix0 : Nat × Nat × Nat
  mix1 : Nat × Nat × Nat
  /-- Two rotations and a shift of the two functions of the schedule. -/
  spread0 : Nat × Nat × Nat
  spread1 : Nat × Nat × Nat

/-- The digest with 32-bit words. -/
def sha256Variant : Variant where
  w := 32
  rounds := 64
  mix0 := (2, 13, 22)
  mix1 := (6, 11, 25)
  spread0 := (7, 18, 3)
  spread1 := (17, 19, 10)

/-- The digest with 64-bit words. -/
def sha512Variant : Variant where
  w := 64
  rounds := 80
  mix0 := (28, 34, 39)
  mix1 := (14, 18, 41)
  spread0 := (1, 8, 7)
  spread1 := (19, 61, 6)

namespace Variant

variable (v : Variant)

/-- A word. -/
abbrev Word := BitVec v.w

/-- The exclusive or of three rotations. -/
def mix (r : Nat × Nat × Nat) (x : v.Word) : v.Word :=
  x.rotateRight r.1 ^^^ x.rotateRight r.2.1 ^^^ x.rotateRight r.2.2

/-- The exclusive or of two rotations and a shift. -/
def spread (r : Nat × Nat × Nat) (x : v.Word) : v.Word :=
  x.rotateRight r.1 ^^^ x.rotateRight r.2.1 ^^^ x >>> r.2.2

/-- The constants of the rounds. -/
def roundConstants : List v.Word :=
  (primes.take v.rounds).map fun p => BitVec.ofNat v.w (rootBits 3 v.w p)

/-- The eight words that a digest starts from. -/
def start : List v.Word :=
  (primes.take 8).map fun p => BitVec.ofNat v.w (rootBits 2 v.w p)

/-- The next word of a schedule, given the last sixteen with the newest first. -/
def nextWord (last : List v.Word) : v.Word :=
  v.spread v.spread1 (last.getD 1 0) + last.getD 6 0 +
    v.spread v.spread0 (last.getD 14 0) + last.getD 15 0

/-- A schedule with the newest word first, extended by `n` words. -/
def extend : Nat → List v.Word → List v.Word
  | 0, ws => ws
  | n + 1, ws => extend n (v.nextWord ws :: ws)

/-- One round on the eight working words. -/
def round (s : List v.Word) (k w : v.Word) : List v.Word :=
  match s with
  | [a, b, c, d, e, f, g, h] =>
    let t₁ := h + v.mix v.mix1 e + ((e &&& f) ^^^ (~~~e &&& g)) + k + w
    let t₂ := v.mix v.mix0 a + ((a &&& b) ^^^ (a &&& c) ^^^ (b &&& c))
    [t₁ + t₂, a, b, c, d + t₁, e, f, g]
  | s => s

/-- Take in one block of sixteen words. -/
def compress (constants s : List v.Word) (block : List v.Word) : List v.Word :=
  let schedule := (v.extend (v.rounds - 16) block.reverse).reverse
  let out := (constants.zip schedule).foldl (fun s (k, w) => v.round s k w) s
  List.zipWith (· + ·) s out

/-- The number of bytes in a word. -/
def wordBytes : Nat := v.w / 8

/-- A message with its padding: a one bit, zeros, and the length in bits. -/
def padded (message : Bytes) : Bytes :=
  let block := 16 * v.wordBytes
  let tail := 1 + 2 * v.wordBytes
  let zeros := (block - (message.length + tail) % block) % block
  message ++ 0x80 :: List.replicate zeros 0 ++ bigEndianBytes (2 * v.wordBytes) (8 * message.length)

/-- The digest of a message. -/
def digest (message : Bytes) : Bytes :=
  let bytes := v.padded message
  let words := (pieces v.wordBytes (bytes.length / v.wordBytes) bytes).map fun b =>
    BitVec.ofNat v.w (ofBigEndian b)
  let constants := v.roundConstants
  let out := (pieces 16 (words.length / 16) words).foldl (v.compress constants) v.start
  out.flatMap fun x => bigEndianBytes v.wordBytes x.toNat

end Variant

/-- The 32-byte digest. -/
def sha256 (message : Bytes) : Bytes := sha256Variant.digest message

/-- The 64-byte digest. -/
def sha512 (message : Bytes) : Bytes := sha512Variant.digest message

end RemoteHost.Sha2
