/-
RemoteHost/Crypto/Aes.lean

The AES cipher and three of its modes.

A block is sixteen bytes, four columns of four.  The substitution table is
computed from its definition: the inverse in the field of 256 elements followed by
an affine map over bits.
-/
import RemoteHost.Crypto.Words

namespace RemoteHost.Aes

/-! ### The field of 256 elements -/

/-- A byte times the element 2. -/
def double (x : UInt8) : UInt8 := (x <<< 1) ^^^ (if x &&& 0x80 = 0 then 0 else 0x1b)

/-- The product of two bytes; the first argument bounds the bits of the second. -/
def mulBits : Nat → UInt8 → UInt8 → UInt8
  | 0, _, _ => 0
  | n + 1, x, y => (if y &&& 1 = 0 then 0 else x) ^^^ mulBits n (double x) (y >>> 1)

/-- The product of two bytes. -/
def mul (x y : UInt8) : UInt8 := mulBits 8 x y

/-- A power of a byte. -/
def power (x : UInt8) : Nat → UInt8
  | 0 => 1
  | n + 1 => mul x (power x n)

/-- A byte rotated to the left. -/
def rotate (x n : UInt8) : UInt8 := (x <<< n) ||| (x >>> (8 - n))

/-- The substitute of a byte. -/
def substitute (x : UInt8) : UInt8 :=
  let y := power x 254
  y ^^^ rotate y 1 ^^^ rotate y 2 ^^^ rotate y 3 ^^^ rotate y 4 ^^^ 0x63

/-- The substitution table. -/
def table : Array UInt8 := ((List.range 256).map fun n => substitute (UInt8.ofNat n)).toArray

/-- The table of the way back. -/
def inverseTable : Array UInt8 :=
  (List.range 256).foldl (fun t n => t.set! (table.getD n 0).toNat (UInt8.ofNat n))
    (Array.replicate 256 0)

/-! ### The key schedule -/

/-- The next four bytes of a schedule; `size` is the number of words in the key. -/
def nextColumn (size i : Nat) (schedule : Array Bytes) : Bytes :=
  let last := schedule.getD (i - 1) []
  let changed :=
    if i % size = 0 then
      let turned := (last.drop 1 ++ last.take 1).map fun x => table.getD x.toNat 0
      xorBytes turned [power 2 (i / size - 1), 0, 0, 0]
    else if 6 < size ∧ i % size = 4 then last.map fun x => table.getD x.toNat 0
    else last
  xorBytes (schedule.getD (i - size) []) changed

/-- The round keys of a key of 16, 24 or 32 bytes. -/
def roundKeys (key : Bytes) : List Bytes :=
  let size := key.length / 4
  let total := 4 * (size + 7)
  let schedule := ((List.range total).drop size).foldl
    (fun s i => s.push (nextColumn size i s)) (pieces 4 size key).toArray
  (pieces 4 (size + 7) schedule.toList).map List.flatten

/-! ### Blocks -/

/-- Move the bytes of each row to the left by the number of the row, or to the right
with `back`. -/
def shiftRows (back : Bool) (block : Bytes) : Bytes :=
  (List.range 16).map fun i =>
    let row := i % 4
    let column := if back then (i / 4 + 4 - row) % 4 else (i / 4 + row) % 4
    block.getD (4 * column + row) 0

/-- Multiply each column by a circulant matrix, given by its first row. -/
def mixColumns (row : Bytes) (block : Bytes) : Bytes :=
  (pieces 4 4 block).flatMap fun column =>
    (List.range 4).map fun i =>
      (List.range 4).foldl (fun sum j =>
        sum ^^^ mul (column.getD j 0) (row.getD ((j + 4 - i) % 4) 0)) 0

/-- Encrypt a block. -/
def encryptBlock (keys : List Bytes) (block : Bytes) : Bytes :=
  match keys with
  | [] => block
  | first :: rest =>
    let last := rest.length - 1
    (rest.zipIdx).foldl (fun b (key, i) =>
      let b := shiftRows false (b.map fun x => table.getD x.toNat 0)
      xorBytes (if i = last then b else mixColumns [2, 3, 1, 1] b) key) (xorBytes block first)

/-- Decrypt a block. -/
def decryptBlock (keys : List Bytes) (block : Bytes) : Bytes :=
  match keys.reverse with
  | [] => block
  | last :: rest =>
    let final := rest.length - 1
    (rest.zipIdx).foldl (fun b (key, i) =>
      let b := (shiftRows true b).map fun x => inverseTable.getD x.toNat 0
      let b := xorBytes b key
      if i = final then b else mixColumns [14, 11, 13, 9] b) (xorBytes block last)

/-! ### Modes -/

/-- Decrypt blocks each of which was mixed with the one before it. -/
def decryptCbc (key iv data : Bytes) : Bytes :=
  let keys := roundKeys key
  let blocks := pieces 16 (data.length / 16) data
  (List.zipWith (fun before b => xorBytes (decryptBlock keys b) before) (iv :: blocks) blocks).flatten

/-- Mix data with the encryption of consecutive numbers; `width` is the number of low
bytes of the first number that count. -/
def counterMode (width : Nat) (key first data : Bytes) : Bytes :=
  let keys := roundKeys key
  let fixed := first.take (16 - width)
  let n := ofBigEndian (first.drop (16 - width))
  ((chunks 16 data).zipIdx.map fun (b, i) =>
    xorBytes b (encryptBlock keys (fixed ++ bigEndianBytes width (n + i)))).flatten

/-- The product of two elements of the field of `2 ^ 128` elements, whose bits are
numbered from the highest; the first argument counts the bits of `y` left. -/
def mul128 (y : Nat) : Nat → Nat → Nat → Nat
  | 0, _, z => z
  | n + 1, x, z =>
    let z := if y.testBit n then z ^^^ x else z
    mul128 y n (if x.testBit 0 then (x >>> 1) ^^^ (0xe1 <<< 120) else x >>> 1) z

/-- The hash of data with its length, under a key. -/
def galoisHash (h : Nat) (data : Bytes) : Nat :=
  let blocks := (chunks 16 data).map fun b => b ++ List.replicate (16 - b.length) 0
  let lengths := List.replicate 8 0 ++ bigEndianBytes 8 (8 * data.length)
  (blocks ++ [lengths]).foldl (fun y b => mul128 (y ^^^ ofBigEndian b) 128 h 0) 0

/-- Decrypt data and check its tag; the nonce has twelve bytes. -/
def decryptGcm (key nonce data tag : Bytes) : Option Bytes :=
  let keys := roundKeys key
  let h := ofBigEndian (encryptBlock keys (List.replicate 16 0))
  let first := nonce ++ [0, 0, 0, 1]
  let expected := xorBytes (bigEndianBytes 16 (galoisHash h data)) (encryptBlock keys first)
  if expected = tag then some (counterMode 4 key (nonce ++ [0, 0, 0, 2]) data) else none

end RemoteHost.Aes
