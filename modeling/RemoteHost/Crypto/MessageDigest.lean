/-
RemoteHost/Crypto/MessageDigest.lean

The digests MD4 and MD5, and message authentication with MD5.

Both digests take in blocks of sixteen little-endian words and carry four words
from block to block.  A round step rotates its four words; the steps differ in
the word of the block they use, the constant they add, the mixing function and
the rotation, which are listed for each digest.
-/
import RemoteHost.Crypto.Words
import RemoteHost.Text.CharSet

namespace RemoteHost.MessageDigest

/-- The four words that are carried along. -/
structure State where
  a : UInt32
  b : UInt32
  c : UInt32
  d : UInt32

/-- The state before the first block. -/
def State.start : State := ⟨0x67452301, 0xefcdab89, 0x98badcfe, 0x10325476⟩

/-- The sum of two states. -/
def State.add (s t : State) : State := ⟨s.a + t.a, s.b + t.b, s.c + t.c, s.d + t.d⟩

/-- The state as bytes. -/
def State.bytes (s : State) : Bytes :=
  [s.a, s.b, s.c, s.d].flatMap fun x => littleEndianBytes 4 x.toNat

/-- A message with its padding: a one bit, zeros, and the length in bits. -/
def padded (message : Bytes) : Bytes :=
  message ++ 0x80 :: List.replicate ((119 - message.length % 64) % 64) 0 ++
    littleEndianBytes 8 (8 * message.length)

/-- The words of a block. -/
def wordsOf (block : Bytes) : Array UInt32 :=
  ((pieces 4 16 block).map fun b => UInt32.ofNat (ofLittleEndian b)).toArray

/-- A digest from its way of taking in a block. -/
def digest (compress : Array UInt32 → State → State) (message : Bytes) : Bytes :=
  let bytes := padded message
  ((pieces 64 (bytes.length / 64) bytes).foldl
    (fun s block => s.add (compress (wordsOf block) s)) State.start).bytes

/-- The second of three words where the first has a one, else the third. -/
def choose (x y z : UInt32) : UInt32 := (x &&& y) ||| (~~~x &&& z)

/-- What most of three words have. -/
def majority (x y z : UInt32) : UInt32 := (x &&& y) ||| (x &&& z) ||| (y &&& z)

/-- The exclusive or of three words. -/
def parity (x y z : UInt32) : UInt32 := x ^^^ y ^^^ z

/-! ### MD4 -/

/-- The order of the words in the three rounds. -/
def md4Order : List Nat :=
  [0, 1, 2, 3, 4, 5, 6, 7, 8, 9, 10, 11, 12, 13, 14, 15,
   0, 4, 8, 12, 1, 5, 9, 13, 2, 6, 10, 14, 3, 7, 11, 15,
   0, 8, 4, 12, 2, 10, 6, 14, 1, 9, 5, 13, 3, 11, 7, 15]

/-- The rotations of a round, in turn. -/
def md4Rotation (step : Nat) : UInt32 :=
  let row : List UInt32 :=
    if step < 16 then [3, 7, 11, 19] else if step < 32 then [3, 5, 9, 13] else [3, 9, 11, 15]
  row.getD (step % 4) 0

/-- A step of MD4. -/
def md4Step (block : Array UInt32) (s : State) (step : Nat × Nat) : State :=
  let (i, k) := step
  let mixed :=
    if i < 16 then choose s.b s.c s.d
    else if i < 32 then majority s.b s.c s.d + 0x5a827999
    else parity s.b s.c s.d + 0x6ed9eba1
  ⟨s.d, rotateLeft (s.a + mixed + block.getD k 0) (md4Rotation i), s.b, s.c⟩

/-- The MD4 digest. -/
def md4 (message : Bytes) : Bytes :=
  digest (fun block s => ((List.range 48).zip md4Order).foldl (md4Step block) s) message

/-! ### MD5 -/

/-- The constants of the 64 steps: the first 32 bits of the sines of 1 to 64. -/
def md5Constants : Array UInt32 :=
  ((Text.wordsOf "
d76aa478 e8c7b756 242070db c1bdceee f57c0faf 4787c62a a8304613 fd469501
698098d8 8b44f7af ffff5bb1 895cd7be 6b901122 fd987193 a679438e 49b40821
f61e2562 c040b340 265e5a51 e9b6c7aa d62f105d 02441453 d8a1e681 e7d3fbc8
21e1cde6 c33707d6 f4d50d87 455a14ed a9e3e905 fcefa3f8 676f02d9 8d2a4c8a
fffa3942 8771f681 6d9d6122 fde5380c a4beea44 4bdecfa9 f6bb4b60 bebfbc70
289b7ec6 eaa127fa d4ef3085 04881d05 d9d4d039 e6db99e5 1fa27cf8 c4ac5665
f4292244 432aff97 ab9423a7 fc93a039 655b59c3 8f0ccc92 ffeff47d 85845dd1
6fa87e4f fe2ce6e0 a3014314 4e0811a1 f7537e82 bd3af235 2ad7d2bb eb86d391".toList).map fun w =>
    UInt32.ofNat (Text.hexValue w)).toArray

/-- The rotations of a round, in turn. -/
def md5Rotation (step : Nat) : UInt32 :=
  let row : List UInt32 :=
    if step < 16 then [7, 12, 17, 22] else if step < 32 then [5, 9, 14, 20]
    else if step < 48 then [4, 11, 16, 23] else [6, 10, 15, 21]
  row.getD (step % 4) 0

/-- A step of MD5. -/
def md5Step (block : Array UInt32) (s : State) (i : Nat) : State :=
  let (mixed, k) :=
    if i < 16 then (choose s.b s.c s.d, i)
    else if i < 32 then (choose s.d s.b s.c, (5 * i + 1) % 16)
    else if i < 48 then (parity s.b s.c s.d, (3 * i + 5) % 16)
    else (s.c ^^^ (s.b ||| ~~~s.d), (7 * i) % 16)
  let sum := s.a + mixed + md5Constants.getD i 0 + block.getD k 0
  ⟨s.d, s.b + rotateLeft sum (md5Rotation i), s.b, s.c⟩

/-- The MD5 digest. -/
def md5 (message : Bytes) : Bytes :=
  digest (fun block s => (List.range 64).foldl (md5Step block) s) message

/-! ### Authentication -/

/-- A key as one block: hashed if it is longer, then filled with zeros. -/
def keyBlock (key : Bytes) : Bytes :=
  let k := if key.length ≤ 64 then key else md5 key
  k ++ List.replicate (64 - k.length) 0

/-- The authentication code of a message under a key, with MD5. -/
def hmacMd5 (key message : Bytes) : Bytes :=
  let k := keyBlock key
  md5 (k.map (· ^^^ 0x5c) ++ md5 (k.map (· ^^^ 0x36) ++ message))

end RemoteHost.MessageDigest
