/-
RemoteHost/Uuid.lean

Random identifiers.
-/
import RemoteHost.Text.Ascii

namespace RemoteHost.Uuid

/-- Bytes as digits in upper case. -/
def digits (b : Bytes) : List Char :=
  b.flatMap fun x => (Text.paddedHex 2 x.toNat).map fun c =>
    if 'a' ≤ c ∧ c ≤ 'f' then Char.ofNat (c.toNat - 32) else c

/-- Sixteen random bytes with the marks of a random identifier: version 4 and the
variant of the standard. -/
def marked (random : Bytes) : Bytes :=
  (random.take 6 ++ [(random[6]?.getD 0 &&& 0x0f) ||| 0x40, random[7]?.getD 0,
    (random[8]?.getD 0 &&& 0x3f) ||| 0x80]) ++ random.drop 9

/-- The identifier that sixteen random bytes make, in groups of 8, 4, 4, 4 and 12
digits. -/
def ofRandom (random : Bytes) : String :=
  let ds := digits (marked random)
  String.ofList ((ds.take 8) ++ '-' :: ((ds.drop 8).take 4) ++ '-' :: ((ds.drop 12).take 4) ++
    '-' :: ((ds.drop 16).take 4) ++ '-' :: (ds.drop 20))

end RemoteHost.Uuid
