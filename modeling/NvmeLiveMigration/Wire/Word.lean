import Mathlib

/-! Command dwords. The plugin packs `__u8`, `__u16` and `bool` fields into `__u32` dwords with
`<<` and `|`; the fields of one dword occupy disjoint bit ranges, so `|` is addition there, and
every decoding below goes through `toNat` and `omega`. -/

namespace Lm

/-- Bits `hi` down to `lo` of a dword, written `[hi:lo]` in the NVMe specification. -/
def bits (w : UInt32) (hi lo : Nat) : Nat := w.toNat / 2 ^ lo % 2 ^ (hi + 1 - lo)

/-- A C `__s32`. -/
structure S32 where
  val : Int
  ge : -2 ^ 31 ≤ val
  lt : val < 2 ^ 31

/-- `(__u32)t`: the two's complement bits of a `__s32`. -/
def S32.toUInt32 (t : S32) : UInt32 := UInt32.ofNat (t.val % 2 ^ 32).toNat

/-- A dword read back as a `__s32`. -/
def signed32 (w : UInt32) : Int := if w.toNat < 2 ^ 31 then w.toNat else w.toNat - 2 ^ 32

namespace Word

theorem two_pow_mul_or_eq_add {a b i : Nat} (hb : b < 2 ^ i) :
    2 ^ i * a ||| b = 2 ^ i * a + b := by
  apply Nat.eq_of_testBit_eq
  intro j
  rw [Nat.testBit_or, Nat.testBit_mul_pow_two_add a hb, Nat.testBit_mul_pow_two]
  by_cases hj : j < i
  · simp [hj]
  · have hbj : b < 2 ^ j := lt_of_lt_of_le hb (Nat.pow_le_pow_right (by decide) (by omega))
    simp [hj, Nat.testBit_lt_two_pow hbj]
    omega

theorem or_eq_add (k : Nat) {a b : Nat} (ha : a % 2 ^ k = 0) (hb : b < 2 ^ k) :
    a ||| b = a + b := by
  have h := two_pow_mul_or_eq_add (a := a / 2 ^ k) hb
  rwa [Nat.mul_div_cancel' (Nat.dvd_of_mod_eq_zero ha)] at h

theorem or_or_eq_add (k j : Nat) {a b c : Nat} (ha : a % 2 ^ k = 0) (hb : b % 2 ^ j = 0)
    (hb' : b < 2 ^ k) (hc : c < 2 ^ j) (hjk : j ≤ k) : a ||| b ||| c = a + b + c := by
  have hc' : c < 2 ^ k := lt_of_lt_of_le hc (Nat.pow_le_pow_right (by decide) hjk)
  have hbc : (b + c) < 2 ^ k := by
    have h2 : 2 ^ j ∣ 2 ^ k := Nat.pow_dvd_pow 2 hjk
    obtain ⟨q, hq⟩ := h2
    have : b / 2 ^ j < q := by
      rw [Nat.div_lt_iff_lt_mul (Nat.two_pow_pos j), Nat.mul_comm, ← hq]; exact hb'
    have hb2 : b = 2 ^ j * (b / 2 ^ j) := (Nat.mul_div_cancel' (Nat.dvd_of_mod_eq_zero hb)).symm
    calc b + c < 2 ^ j * (b / 2 ^ j) + 2 ^ j := by omega
      _ = 2 ^ j * (b / 2 ^ j + 1) := by rw [Nat.mul_add, Nat.mul_one]
      _ ≤ 2 ^ j * q := Nat.mul_le_mul_left _ this
      _ = 2 ^ k := hq.symm
  rw [Nat.or_assoc, or_eq_add j hb hc, or_eq_add k ha hbc, Nat.add_assoc]

@[simp] theorem toNat_lit32 (n : Nat) : (no_index (OfNat.ofNat n : UInt32)).toNat = n % 2 ^ 32 :=
  BitVec.toNat_ofNat n 32

@[simp] theorem toNat_lit64 (n : Nat) : (no_index (OfNat.ofNat n : UInt64)).toNat = n % 2 ^ 64 :=
  BitVec.toNat_ofNat n 64

@[simp] theorem toNat_shiftLeft32 (a b : UInt32) :
    (a <<< b).toNat = a.toNat * 2 ^ (b.toNat % 32) % 2 ^ 32 := by
  show (a.toBitVec <<< (b % 32).toBitVec).toNat = _
  rw [BitVec.shiftLeft_eq', BitVec.toNat_shiftLeft, Nat.shiftLeft_eq]
  rfl

@[simp] theorem toNat_shiftRight32 (a b : UInt32) :
    (a >>> b).toNat = a.toNat / 2 ^ (b.toNat % 32) := by
  show (a.toBitVec >>> (b % 32).toBitVec).toNat = _
  rw [BitVec.ushiftRight_eq', BitVec.toNat_ushiftRight, Nat.shiftRight_eq_div_pow]
  rfl

@[simp] theorem toNat_shiftRight64 (a b : UInt64) :
    (a >>> b).toNat = a.toNat / 2 ^ (b.toNat % 64) := by
  show (a.toBitVec >>> (b % 64).toBitVec).toNat = _
  rw [BitVec.ushiftRight_eq', BitVec.toNat_ushiftRight, Nat.shiftRight_eq_div_pow]
  rfl

@[simp] theorem toNat_or32 (a b : UInt32) : (a ||| b).toNat = a.toNat ||| b.toNat := rfl

@[simp] theorem toNat_u8_toUInt32 (a : UInt8) : a.toUInt32.toNat = a.toNat := rfl

@[simp] theorem toNat_u16_toUInt32 (a : UInt16) : a.toUInt32.toNat = a.toNat := rfl

@[simp] theorem toNat_u64_toUInt32 (a : UInt64) : a.toUInt32.toNat = a.toNat % 2 ^ 32 :=
  BitVec.toNat_ofNat _ 32

@[simp] theorem toNat_u64_toUInt64 (a : UInt32) : a.toUInt64.toNat = a.toNat := rfl

theorem u8_lt (a : UInt8) : a.toNat < 256 := a.toNat_lt_size

theorem u16_lt (a : UInt16) : a.toNat < 65536 := a.toNat_lt_size

theorem u32_lt (a : UInt32) : a.toNat < 4294967296 := a.toNat_lt_size

theorem u64_lt (a : UInt64) : a.toNat < 18446744073709551616 := a.toNat_lt_size

@[simp] theorem bits_eq (w : UInt32) (hi lo : Nat) :
    bits w hi lo = w.toNat / 2 ^ lo % 2 ^ (hi + 1 - lo) := rfl

theorem bits_pack {w : UInt32} {a b lo : Nat} (hi : Nat) (h : w.toNat = a * 2 ^ lo + b)
    (hb : b < 2 ^ lo) : bits w hi lo = a % 2 ^ (hi + 1 - lo) := by
  rw [bits_eq, h, Nat.mul_comm, Nat.mul_add_div (Nat.two_pow_pos lo), Nat.div_eq_of_lt hb,
    Nat.add_zero]

theorem bits_low {w : UInt32} {a b k : Nat} (hi : Nat) (h : w.toNat = a * 2 ^ k + b)
    (hb : b < 2 ^ (hi + 1)) (hk : hi + 1 ≤ k) : bits w hi 0 = b := by
  obtain ⟨d, rfl⟩ := Nat.exists_eq_add_of_le hk
  rw [bits_eq, h, Nat.pow_zero, Nat.div_one, Nat.sub_zero, Nat.pow_add,
    Nat.mul_comm (2 ^ (hi + 1)), ← Nat.mul_assoc, Nat.mul_add_mod_of_lt hb]

theorem signed32_toUInt32 (t : S32) : signed32 t.toUInt32 = t.val := by
  have h₁ := t.ge
  have h₂ := t.lt
  have hw : t.toUInt32.toNat = (t.val % 2 ^ 32).toNat := by
    show (BitVec.ofNat 32 _).toNat = _
    rw [BitVec.toNat_ofNat, Nat.mod_eq_of_lt (by omega)]
  unfold signed32
  rw [hw]
  split <;> omega

end Word

end Lm
