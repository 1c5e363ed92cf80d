/-
RemoteHost/Crypto/Ed25519.lean

The public half of an Ed25519 key.

Points of the curve are kept in four coordinates, in which adding and doubling
need no division.
-/
import RemoteHost.Crypto.Sha2

namespace RemoteHost.Ed25519

/-- The prime of the field. -/
def p : Nat := (1 <<< 255) - 19

/-- A power modulo the prime; the first argument counts the bits of the exponent
left. -/
def powMod (x e : Nat) : Nat → Nat
  | 0 => 1
  | n + 1 =>
    let h := powMod x (e / 2) n
    let square := h * h % p
    if e % 2 = 1 then square * x % p else square

/-- The inverse of an element. -/
def inverse (x : Nat) : Nat := powMod x (p - 2) 255

/-- The difference of two elements. -/
def sub (x y : Nat) : Nat := (x + p - y % p) % p

/-- The constant of the curve. -/
def d : Nat := sub 0 121665 * inverse 121666 % p

/-- A point in four coordinates: `x = X / Z`, `y = Y / Z`, `x * y = T / Z`. -/
structure Point where
  X : Nat
  Y : Nat
  Z : Nat
  T : Nat

/-- The neutral point. -/
def Point.zero : Point := ⟨0, 1, 1, 0⟩

/-- The sum of two points. -/
def Point.add (a b : Point) : Point :=
  let r := sub a.Y a.X * sub b.Y b.X % p
  let s := (a.Y + a.X) * (b.Y + b.X) % p
  let t := 2 * a.T * b.T % p * d % p
  let z := 2 * a.Z * b.Z % p
  let e := sub s r
  let f := sub z t
  let g := z + t
  let h := s + r
  ⟨e * f % p, g * h % p, f * g % p, e * h % p⟩

/-- The base point. -/
def base : Point :=
  let x := 0x216936d3cd6e53fec0a4e231fdd6dc5c692cc7609525a7b2c9562d608f25d51a
  let y := 0x6666666666666666666666666666666666666666666666666666666666666658
  ⟨x, y, 1, x * y % p⟩

/-- A multiple of a point; the first argument counts the bits of the factor left. -/
def Point.times (a : Point) (k : Nat) : Nat → Point
  | 0 => .zero
  | n + 1 =>
    let h := a.times (k / 2) n
    let twice := h.add h
    if k % 2 = 1 then twice.add a else twice

/-- A point as 32 bytes: `y`, and the lowest bit of `x` in the highest bit. -/
def Point.bytes (a : Point) : Bytes :=
  let z := inverse a.Z
  let x := a.X * z % p
  let y := a.Y * z % p
  littleEndianBytes 32 (y + (x % 2) <<< 255)

/-- The factor that a secret stands for. -/
def scalar (secret : Bytes) : Nat :=
  let n := ofLittleEndian ((Sha2.sha512 secret).take 32)
  (1 <<< 254) + n % (1 <<< 254) / 8 * 8

/-- The public half of a secret of 32 bytes. -/
def publicKey (secret : Bytes) : Bytes := (base.times (scalar secret) 256).bytes

end RemoteHost.Ed25519
