/-
RemoteHost/Crypto/Blowfish.lean

The Blowfish cipher with its expensive key schedule, and the derivation of keys
from passphrases that is built on it.

The state of the cipher is one array of 1042 words: 18 round keys and four tables
of 256 words.  It starts as the binary digits of the fraction of π, which are
computed here, not listed.  A key schedule replaces the words two by two by the
encryption of the two before them.
-/
import RemoteHost.Crypto.Sha2

namespace RemoteHost.Blowfish

/-! ### The digits of π -/

/-- The sum `1/x - 1/(3 x^3) + 1/(5 x^5) - …` in units of the first power, which is
`unit / x`; `square` is `x * x`.  The signs are split into two sums. -/
def arctanTerms (square : Nat) : Nat → Nat → Nat → Nat × Nat → Nat × Nat
  | 0, _, _, sums => sums
  | fuel + 1, k, power, (plus, minus) =>
    if power = 0 then (plus, minus)
    else
      let term := power / (2 * k + 1)
      arctanTerms square fuel (k + 1) (power / square)
        (if k % 2 = 0 then (plus + term, minus) else (plus, minus + term))

/-- The arcus tangent of `1 / x` in units of `1 / unit`. -/
def arctanInverse (unit x : Nat) : Nat :=
  let (plus, minus) := arctanTerms (x * x) unit.log2 0 (unit / x) (0, 0)
  plus - minus

/-- The number of words in the state. -/
def stateSize : Nat := 18 + 4 * 256

/-- The first bits of the fraction of π, as many as there are in the state. -/
def piFraction : Nat :=
  let bits := 32 * stateSize
  let guardBits := 64
  let unit := 1 <<< (bits + guardBits)
  ((16 * arctanInverse unit 5 - 4 * arctanInverse unit 239) % unit) >>> guardBits

/-- The words of a number, the high one first; `n` is the number of them. -/
def wordsOfNat (n value : Nat) : Array UInt32 :=
  ((List.range n).map fun i => UInt32.ofNat (value >>> (32 * (n - 1 - i)))).toArray

/-! ### The cipher -/

/-- The words of the state. -/
abbrev State := Array UInt32

/-- The state before any key. -/
def start : State := wordsOfNat stateSize piFraction

/-- The table look-ups of a round. -/
def mix (s : State) (x : UInt32) : UInt32 :=
  ((s[18 + (x >>> 24).toNat]! + s[274 + ((x >>> 16) &&& 0xff).toNat]!) ^^^
    s[530 + ((x >>> 8) &&& 0xff).toNat]!) + s[786 + (x &&& 0xff).toNat]!

/-- Pairs of rounds, from round key `i` on. -/
def rounds (s : State) : Nat → Nat → UInt32 → UInt32 → UInt32 × UInt32
  | 0, _, l, r => (r ^^^ s[17]!, l)
  | n + 1, i, l, r =>
    let r := r ^^^ mix s l ^^^ s[i]!
    let l := l ^^^ mix s r ^^^ s[i + 1]!
    rounds s n (i + 2) l r

/-- Encrypt two words. -/
def encipher (s : State) (l r : UInt32) : UInt32 × UInt32 :=
  rounds s 8 1 (l ^^^ s[0]!) r

/-- Replace the words from place `i` on, two by two, mixing in sixteen words of
data again and again. -/
def replaceWords (data : Array UInt32) : Nat → Nat → UInt32 → UInt32 → State → State
  | 0, _, _, _, s => s
  | n + 1, i, l, r, s =>
    let (l, r) := encipher s (l ^^^ data[i % 16]!) (r ^^^ data[(i + 1) % 16]!)
    replaceWords data n (i + 2) l r ((s.set! i l).set! (i + 1) r)

/-- Mix sixteen words of key into the round keys. -/
def mixKey (key : Array UInt32) : Nat → State → State
  | 0, s => s
  | n + 1, s => mixKey key n (s.set! n (s[n]! ^^^ key[n % 16]!))

/-- One key schedule with data. -/
def expand (data key : Array UInt32) (s : State) : State :=
  replaceWords data (stateSize / 2) 0 0 0 (mixKey key 18 s)

/-! ### Deriving keys -/

/-- Sixteen words that change nothing. -/
def zeros : Array UInt32 := Array.replicate 16 0

/-- A digest as sixteen words. -/
def digestWords (b : Bytes) : Array UInt32 :=
  ((pieces 4 16 b).map fun w => UInt32.ofNat (ofBigEndian w)).toArray

/-- The key schedules with the salt and the password in turn. -/
def expandAlternately (salt password : Array UInt32) : Nat → State → State
  | 0, s => s
  | n + 1, s => expandAlternately salt password n (expand zeros password (expand zeros salt s))

/-- Encrypt a list of words in pairs. -/
def encryptPairs (s : State) : List UInt32 → List UInt32
  | l :: r :: rest =>
    let (l, r) := encipher s l r
    l :: r :: encryptPairs s rest
  | rest => rest

/-- The text that the schedule encrypts in the end. -/
def magic : List UInt32 :=
  (digestWords (Text.asciiBytes "OxychromaticBlowfishSwatDynamite")).toList.take 8

/-- The 32-byte hash of a password and a salt, both digests of 64 bytes. -/
def passwordHash (password salt : Bytes) : Bytes :=
  let p := digestWords password
  let t := digestWords salt
  let s := expandAlternately t p 64 (expand t p start)
  let out := (List.range 64).foldl (fun ws _ => encryptPairs s ws) magic
  out.flatMap fun w => littleEndianBytes 4 w.toNat

/-- The exclusive or of a chain of hashes, each salted with the one before it. -/
def hashChain (password : Bytes) : Nat → Bytes → Bytes → Bytes
  | 0, _, acc => acc
  | n + 1, last, acc =>
    let next := passwordHash password (Sha2.sha512 last)
    hashChain password n next (xorBytes acc next)

/-- One block of derived key. -/
def deriveBlock (password salt : Bytes) (rounds count : Nat) : Bytes :=
  let first := passwordHash password (Sha2.sha512 (salt ++ bigEndianBytes 4 count))
  hashChain password (rounds - 1) first first

/-- A key of `size` bytes from a passphrase.  The bytes of the blocks are dealt out
in turn.  Nothing is derived from an empty passphrase or salt, in no rounds, or
for a key of no bytes or more than 1024. -/
def deriveKey (passphrase salt : Bytes) (rounds size : Nat) : Option Bytes :=
  if passphrase = [] ∨ salt = [] ∨ rounds = 0 ∨ size = 0 ∨ 1024 < size then none
  else
    let password := Sha2.sha512 passphrase
    let stride := (size + 31) / 32
    let blocks := (List.range stride).map fun i => deriveBlock password salt rounds (i + 1)
    some ((List.range size).map fun i => (blocks.getD (i % stride) []).getD (i / stride) 0)

end RemoteHost.Blowfish
