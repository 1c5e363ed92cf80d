/-
RemoteHost/Crypto/ChaCha.lean

The ChaCha20 stream cipher with a 64-bit counter, the Poly1305 authenticator, and
the two of them combined as key files use them.
-/
import RemoteHost.Crypto.Words

namespace RemoteHost.ChaCha

/-! ### The stream -/

/-- Mix the words at four places of the state. -/
def quarter (s : Array UInt32) (a b c d : Nat) : Array UInt32 :=
  let get (s : Array UInt32) (i : Nat) : UInt32 := s.getD i 0
  let s := s.set! a (get s a + get s b)
  let s := s.set! d (rotateLeft (get s d ^^^ get s a) 16)
  let s := s.set! c (get s c + get s d)
  let s := s.set! b (rotateLeft (get s b ^^^ get s c) 12)
  let s := s.set! a (get s a + get s b)
  let s := s.set! d (rotateLeft (get s d ^^^ get s a) 8)
  let s := s.set! c (get s c + get s d)
  s.set! b (rotateLeft (get s b ^^^ get s c) 7)

/-- Mix the columns and then the diagonals. -/
def doubleRound (s : Array UInt32) : Array UInt32 :=
  [(0, 4, 8, 12), (1, 5, 9, 13), (2, 6, 10, 14), (3, 7, 11, 15),
   (0, 5, 10, 15), (1, 6, 11, 12), (2, 7, 8, 13), (3, 4, 9, 14)].foldl
    (fun s (a, b, c, d) => quarter s a b c d) s

/-- The words of some bytes. -/
def words (b : Bytes) : List UInt32 :=
  (pieces 4 (b.length / 4) b).map fun w => UInt32.ofNat (ofLittleEndian w)

/-- A block of the stream; the nonce has eight bytes. -/
def block (key nonce : Bytes) (counter : Nat) : Bytes :=
  let start := (words (Text.asciiBytes "expand 32-byte k") ++ words key ++
    words (littleEndianBytes 8 counter) ++ words nonce).toArray
  let mixed := (List.range 10).foldl (fun s _ => doubleRound s) start
  (List.zipWith (· + ·) mixed.toList start.toList).flatMap fun w => littleEndianBytes 4 w.toNat

/-- Mix data with the stream from a block on. -/
def xorStream (key nonce : Bytes) (counter : Nat) (data : Bytes) : Bytes :=
  ((chunks 64 data).zipIdx.map fun (b, i) => xorBytes b (block key nonce (counter + i))).flatten

/-! ### Authentication -/

/-- The bits of the multiplier that count. -/
def multiplierMask : Nat := 0x0ffffffc0ffffffc0ffffffc0fffffff

/-- The tag of a message under a key of 32 bytes: the value of a polynomial whose
coefficients are the message. -/
def poly1305 (key message : Bytes) : Bytes :=
  let r := ofLittleEndian (key.take 16) &&& multiplierMask
  let sum := (chunks 16 message).foldl
    (fun acc b => (acc + ofLittleEndian (b ++ [1])) * r % ((1 <<< 130) - 5)) 0
  littleEndianBytes 16 (sum + ofLittleEndian (key.drop 16))

/-- Decrypt data and check its tag.  The key of the authenticator is the first block
of the stream; the nonce is zero. -/
def decryptSealed (key data tag : Bytes) : Option Bytes :=
  let nonce : Bytes := List.replicate 8 0
  if poly1305 ((block key nonce 0).take 32) data = tag then some (xorStream key nonce 1 data)
  else none

end RemoteHost.ChaCha
