/-
RemoteHost/Proofs/Crypto/Bytes.lean

The bytes of numbers and of digests.

A number reads back from its bytes, low one first, as far as they reach
(`ofLittleEndian_littleEndianBytes`), and bytes from their number
(`littleEndianBytes_ofLittleEndian`).  A digest has sixteen bytes, whatever it is made of, and
so has an authentication code (`length_hmacMd5`).
-/
import RemoteHost.Crypto.MessageDigest

namespace RemoteHost

/-! ### Numbers -/

/-- The low byte comes first, and the others are those of what is left. -/
theorem littleEndianBytes_succ (width n : Nat) :
    littleEndianBytes (width + 1) n = UInt8.ofNat n :: littleEndianBytes width (n / 256) := by
  have hshift : ∀ i, n >>> (8 * (i + 1)) = (n / 256) >>> (8 * i) := by
    intro i
    rw [Nat.mul_succ, Nat.add_comm, Nat.shiftRight_add, Nat.shiftRight_eq_div_pow n 8]
  simp only [littleEndianBytes, List.range_succ_eq_map, List.map_cons, List.map_map]
  refine congrArg _ (List.map_congr_left ?_)
  intro i _
  show UInt8.ofNat (n >>> (8 * (i + 1))) = UInt8.ofNat ((n / 256) >>> (8 * i))
  rw [hshift]

@[simp] theorem ofLittleEndian_cons (x : UInt8) (b : Bytes) :
    ofLittleEndian (x :: b) = x.toNat + ofLittleEndian b * 256 := rfl

/-- A number reads back from its bytes up to multiples of what they can hold. -/
theorem ofLittleEndian_littleEndianBytes (width n : Nat) :
    ofLittleEndian (littleEndianBytes width n) = n % Nat.pow 256 width := by
  induction width generalizing n with
  | zero => exact (Nat.mod_one n).symm
  | succ width ih =>
    have hlow : (UInt8.ofNat n).toNat = n % 256 := by simp
    show _ = n % (Nat.pow 256 width * 256)
    rw [littleEndianBytes_succ, ofLittleEndian_cons, ih, hlow, Nat.mul_comm (Nat.pow 256 width),
      Nat.mod_mul, Nat.mul_comm 256]

/-- Bytes are those of the number that they stand for. -/
theorem littleEndianBytes_ofLittleEndian (b : Bytes) :
    littleEndianBytes b.length (ofLittleEndian b) = b := by
  induction b with
  | nil => rfl
  | cons x b ih =>
    have hx : x.toNat < 256 := x.toNat_lt
    have hlow : UInt8.ofNat (x.toNat + ofLittleEndian b * 256) = x := by
      rw [← UInt8.toNat_inj, UInt8.toNat_ofNat']
      omega
    have hrest : (x.toNat + ofLittleEndian b * 256) / 256 = ofLittleEndian b := by omega
    rw [List.length_cons, littleEndianBytes_succ, ofLittleEndian_cons, hlow, hrest, ih]

theorem ofLittleEndian_lt (b : Bytes) : ofLittleEndian b < Nat.pow 256 b.length := by
  induction b with
  | nil => exact Nat.one_pos
  | cons x b ih =>
    have hx : x.toNat < 256 := x.toNat_lt
    show x.toNat + ofLittleEndian b * 256 < Nat.pow 256 b.length * 256
    omega

/-! ### Digests -/

namespace MessageDigest

theorem State.length_bytes (s : State) : s.bytes.length = 16 := by
  simp [State.bytes]

@[simp] theorem length_md5 (message : Bytes) : (md5 message).length = 16 := State.length_bytes _

@[simp] theorem length_hmacMd5 (key message : Bytes) : (hmacMd5 key message).length = 16 :=
  length_md5 _

end MessageDigest

end RemoteHost
