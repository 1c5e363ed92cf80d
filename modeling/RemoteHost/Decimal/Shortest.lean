/-
RemoteHost/Decimal/Shortest.lean

The shortest decimal that reads back as a given binary floating-point number.

A finite number is `m * 2 ^ q` with a whole `m`.  The reals that round to it form
an interval around it, ends included exactly when `m` is even.  For one digit,
two digits and so on up to seventeen, the two neighbours of the number on the
decimal grid of that many digits are tried; the first grid with a neighbour in
the interval gives the answer, and of two neighbours the nearer one.  All of it
is exact arithmetic on natural numbers.
-/

namespace RemoteHost.Decimal

/-- A decimal `digits * 10 ^ exponent`. -/
structure Scaled where
  digits : Nat
  exponent : Int
  deriving DecidableEq, Repr

/-- A positive binary number `m * 2 ^ q`; `narrow` says that its lower neighbour is
only half as far away as its upper one. -/
structure Binary where
  m : Nat
  q : Int
  narrow : Bool

/-- The magnitude of a finite number other than zero, from its 64 bits. -/
def Binary.ofBits (bits : UInt64) : Binary :=
  let exponent : Nat := (bits.toNat >>> 52) % (1 <<< 11)
  let fraction : Nat := bits.toNat % (1 <<< 52)
  if exponent = 0 then ⟨fraction, -1074, false⟩
  else ⟨(1 <<< 52) + fraction, (exponent : Int) - 1075, fraction == 0 && exponent != 1⟩

/-- The number and the ends of its interval as fractions over one denominator:
lower end, number, upper end, denominator. -/
def Binary.interval (b : Binary) : Nat × Nat × Nat × Nat :=
  let q := b.q - 2
  let up := 1 <<< q.toNat
  let below := if b.narrow then 1 else 2
  ((4 * b.m - below) * up, 4 * b.m * up, (4 * b.m + 2) * up, 1 <<< (-q).toNat)

/-- The number of decimal places that `num / den`, below 1, needs to reach 1. -/
def placesToOne (num den : Nat) : Nat → Nat
  | 0 => 0
  | fuel + 1 => if den ≤ num then 0 else placesToOne (num * 10) den fuel + 1

/-- The exponent of the leading decimal digit of `num / den`. -/
def leadingExponent (num den : Nat) : Int :=
  if den ≤ num then ((Nat.toDigits 10 (num / den)).length : Int) - 1
  else -(placesToOne num den 400 : Int)

/-- The neighbours of the number on the grid `10 ^ k` that lie in its interval, the
nearer one first. -/
def Binary.hits (b : Binary) (k : Int) : List Nat :=
  let (lo, mid, hi, den) := b.interval
  let grow := Nat.pow 10 (-k).toNat
  let unit := den * Nat.pow 10 k.toNat
  let inside (d : Nat) : Bool :=
    if b.m % 2 = 0 then lo * grow ≤ d * unit && d * unit ≤ hi * grow
    else lo * grow < d * unit && d * unit < hi * grow
  let d := mid * grow / unit
  let toLower := mid * grow - d * unit
  let toUpper := (d + 1) * unit - mid * grow
  let upperFirst := toUpper < toLower || (toUpper == toLower && d % 2 == 1)
  (if upperFirst then [d + 1, d] else [d, d + 1]).filter fun d => d != 0 && inside d

/-- A decimal without zeros at the end of its digits. -/
def Scaled.stripped (digits : Nat) (exponent : Int) : Nat → Scaled
  | 0 => ⟨digits, exponent⟩
  | fuel + 1 =>
    if digits ≠ 0 ∧ digits % 10 = 0 then stripped (digits / 10) (exponent + 1) fuel
    else ⟨digits, exponent⟩

/-- The shortest decimal in the interval of a number. -/
def Binary.shortest (b : Binary) : Scaled :=
  let (_, mid, _, den) := b.interval
  let top := leadingExponent mid den
  let found := (List.range 17).findSome? fun n =>
    let k := top - Int.ofNat n
    (b.hits k).head?.map fun d => Scaled.stripped d k 20
  found.getD ⟨0, 0⟩

/-- Where positional notation begins and ends: the exponents of the leading digit
for which no power of ten is written. -/
structure FloatFormat where
  minFixed : Int
  maxFixed : Int

/-- The digits of a decimal in a notation, always with a point or an exponent. -/
def FloatFormat.write (format : FloatFormat) (s : Scaled) : List Char :=
  let ds := Nat.toDigits 10 s.digits
  let top := (ds.length : Int) - 1 + s.exponent
  if format.minFixed ≤ top ∧ top ≤ format.maxFixed then
    if 0 ≤ s.exponent then ds ++ List.replicate s.exponent.toNat '0' ++ ['.', '0']
    else if 0 ≤ top then
      let whole := (top + 1).toNat
      ds.take whole ++ '.' :: ds.drop whole
    else ['0', '.'] ++ List.replicate (-top - 1).toNat '0' ++ ds
  else
    let mantissa := match ds with
      | [] => []
      | [d] => [d]
      | d :: r => d :: '.' :: r
    mantissa ++ 'e' :: (if top < 0 then '-' else '+') :: Nat.toDigits 10 top.natAbs

/-- A finite number in a notation. -/
def FloatFormat.render (format : FloatFormat) (x : Float) : String :=
  let bits := x.toBits
  let sign := if bits.toNat >>> 63 = 1 then "-" else ""
  if bits.toNat % (1 <<< 63) = 0 then sign ++ "0.0"
  else sign ++ String.ofList (format.write (Binary.ofBits bits).shortest)

end RemoteHost.Decimal
