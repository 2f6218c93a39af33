import Mathlib.Tactic.Ring
import Mathlib.Data.Int.Defs
import Mathlib.Data.String.Basic

/-!
Machine integers as the codec uses them. `u8`, `u16` and `u32` are Lean's `UInt8`,
`UInt16` and `UInt32`; their `+`, `*` and casts wrap as Rust's do in a release build,
which is how the plugin DLL ships. Lean 4.14 has no `Int32`, so `i32` (the fields of
`WICRect`) is `I32`, an integer that carries its range. The lemmas here move each
operation to `Nat` or `Int` arithmetic so that `omega` closes the side goals.
-/

namespace BmxShell

universe u v

/-- Results of fallible code are compared in statements, so `Except` needs decidable
equality. -/
instance instDecidableEqExcept {ε : Type u} {α : Type v} [DecidableEq ε] [DecidableEq α] :
    DecidableEq (Except ε α)
  | .error a, .error b => decidable_of_iff (a = b) ⟨congrArg _, Except.error.inj⟩
  | .ok a, .ok b => decidable_of_iff (a = b) ⟨congrArg _, Except.ok.inj⟩
  | .error _, .ok _ => isFalse fun h => Except.noConfusion h
  | .ok _, .error _ => isFalse fun h => Except.noConfusion h

/-- A Rust `i32`: an integer in `[-2^31, 2^31)`. -/
structure I32 where
  toInt : Int
  ge : -2147483648 ≤ toInt
  lt : toInt < 2147483648
deriving DecidableEq

namespace I32

/-- Two's complement wrap of an integer into the `i32` range (`as i32`, wrapping `+`). -/
def ofInt (z : Int) : I32 :=
  ⟨(z + 2147483648) % 4294967296 - 2147483648, by omega, by omega⟩

instance : OfNat I32 n := ⟨ofInt n⟩
instance : Add I32 := ⟨fun a b => ofInt (a.toInt + b.toInt)⟩
instance : Sub I32 := ⟨fun a b => ofInt (a.toInt - b.toInt)⟩
instance : LT I32 := ⟨fun a b => a.toInt < b.toInt⟩
instance : LE I32 := ⟨fun a b => a.toInt ≤ b.toInt⟩
instance (a b : I32) : Decidable (a < b) := inferInstanceAs (Decidable (a.toInt < b.toInt))
instance (a b : I32) : Decidable (a ≤ b) := inferInstanceAs (Decidable (a.toInt ≤ b.toInt))

/-- `Ord::max` and `Ord::min` on `i32`. -/
def max (a b : I32) : I32 := if a.toInt ≤ b.toInt then b else a
def min (a b : I32) : I32 := if a.toInt ≤ b.toInt then a else b

/-- `u32 as i32`. -/
def ofU32 (a : UInt32) : I32 := ofInt a.toNat

/-- `i32 as u32`: the low 32 bits. -/
def toU32 (a : I32) : UInt32 := UInt32.ofNat (a.toInt % 4294967296).toNat

/-- `i32 as u16`: the low 16 bits. -/
def toU16 (a : I32) : UInt16 := UInt16.ofNat (a.toInt % 65536).toNat

/-- `i32 as usize` on a 64-bit target: sign extension. -/
def toUsize (a : I32) : Nat := (a.toInt % 18446744073709551616).toNat

@[simp] theorem toInt_ofInt_of_range {z : Int} (h₁ : -2147483648 ≤ z) (h₂ : z < 2147483648) :
    (ofInt z).toInt = z := by
  simp only [ofInt]
  omega

theorem toInt_ofInt (z : Int) :
    (ofInt z).toInt = (z + 2147483648) % 4294967296 - 2147483648 := rfl

theorem toInt_add (a b : I32) : (a + b).toInt = (ofInt (a.toInt + b.toInt)).toInt := rfl

theorem toInt_sub (a b : I32) : (a - b).toInt = (ofInt (a.toInt - b.toInt)).toInt := rfl

theorem lt_iff (a b : I32) : a < b ↔ a.toInt < b.toInt := Iff.rfl

theorem le_iff (a b : I32) : a ≤ b ↔ a.toInt ≤ b.toInt := Iff.rfl

@[simp] theorem toInt_ofNat (n : Nat) (h : n < 2147483648) :
    (OfNat.ofNat n : I32).toInt = n :=
  toInt_ofInt_of_range (by omega) (by omega)

/-- A non-negative `i32` reads the same as a `u32`. -/
theorem toU32_toNat_of_nonneg {a : I32} (h : 0 ≤ a.toInt) : a.toU32.toNat = a.toInt.toNat := by
  have := a.lt
  simp only [toU32, UInt32.toNat, UInt32.ofNat, BitVec.toNat_ofNat]
  omega

theorem toU16_toNat (a : I32) : a.toU16.toNat = (a.toInt % 65536).toNat := by
  simp only [toU16, UInt16.toNat, UInt16.ofNat, BitVec.toNat_ofNat]
  omega

end I32

end BmxShell

/-! Unsigned integers: each operation the codec uses, read in `Nat`, with the modulus written
out for `omega`. -/

@[simp] theorem UInt16.toNat_add' (a b : UInt16) :
    (a + b).toNat = (a.toNat + b.toNat) % 65536 := UInt16.toNat_add a b

@[simp] theorem UInt32.toNat_add' (a b : UInt32) :
    (a + b).toNat = (a.toNat + b.toNat) % 4294967296 := UInt32.toNat_add a b

@[simp] theorem UInt32.toNat_mul' (a b : UInt32) :
    (a * b).toNat = a.toNat * b.toNat % 4294967296 := UInt32.toNat_mul a b

@[simp] theorem UInt16.toNat_mul' (a b : UInt16) :
    (a * b).toNat = a.toNat * b.toNat % 65536 := UInt16.toNat_mul a b

@[simp] theorem UInt8.toNat_ofNat_lit (n : Nat) :
    (no_index (OfNat.ofNat n : UInt8)).toNat = n % 256 := rfl

@[simp] theorem UInt16.toNat_ofNat_lit (n : Nat) :
    (no_index (OfNat.ofNat n : UInt16)).toNat = n % 65536 := rfl

@[simp] theorem UInt32.toNat_ofNat_lit (n : Nat) :
    (no_index (OfNat.ofNat n : UInt32)).toNat = n % 4294967296 := rfl

theorem UInt16.lt_iff_toNat {a b : UInt16} : a < b ↔ a.toNat < b.toNat := Iff.rfl

theorem UInt16.le_iff_toNat {a b : UInt16} : a ≤ b ↔ a.toNat ≤ b.toNat := Iff.rfl

theorem UInt32.lt_iff_toNat {a b : UInt32} : a < b ↔ a.toNat < b.toNat := Iff.rfl

theorem UInt16.eq_iff_toNat {a b : UInt16} : a = b ↔ a.toNat = b.toNat :=
  ⟨congrArg _, UInt16.toNat.inj⟩

theorem UInt8.eq_iff_toNat {a b : UInt8} : a = b ↔ a.toNat = b.toNat :=
  ⟨congrArg _, UInt8.toNat.inj⟩

theorem UInt32.eq_iff_toNat {a b : UInt32} : a = b ↔ a.toNat = b.toNat :=
  ⟨congrArg _, UInt32.toNat.inj⟩

@[simp] theorem UInt8.toNat_toUInt16 (a : UInt8) : a.toUInt16.toNat = a.toNat := rfl

@[simp] theorem UInt8.toNat_toUInt32 (a : UInt8) : a.toUInt32.toNat = a.toNat := rfl

@[simp] theorem UInt16.toNat_toUInt32 (a : UInt16) : a.toUInt32.toNat = a.toNat := rfl

@[simp] theorem UInt32.toNat_toUInt16 (a : UInt32) : a.toUInt16.toNat = a.toNat % 65536 := by
  simp [UInt32.toUInt16, UInt16.toNat, Nat.toUInt16, UInt16.ofNat]

@[simp] theorem UInt32.toNat_toUInt8 (a : UInt32) : a.toUInt8.toNat = a.toNat % 256 := by
  simp [UInt32.toUInt8, UInt8.toNat, Nat.toUInt8, UInt8.ofNat]

@[simp] theorem UInt16.toNat_toUInt8 (a : UInt16) : a.toUInt8.toNat = a.toNat % 256 := by
  simp [UInt16.toUInt8, UInt8.toNat, Nat.toUInt8, UInt8.ofNat]

@[simp] theorem UInt16.toNat_ofNat' (n : Nat) : (UInt16.ofNat n).toNat = n % 65536 := by
  simp [UInt16.toNat, UInt16.ofNat]

@[simp] theorem UInt8.toNat_ofNat' (n : Nat) : (UInt8.ofNat n).toNat = n % 256 := by
  simp [UInt8.toNat, UInt8.ofNat]

@[simp] theorem UInt32.toNat_ofNat' (n : Nat) : (UInt32.ofNat n).toNat = n % 4294967296 := by
  simp [UInt32.toNat, UInt32.ofNat]

/-- Clearing the two low bits of a 16-bit value rounds it down to a multiple of four. -/
theorem Nat.and_65532_eq {m : Nat} (hm : m < 65536) : m &&& 65532 = m / 4 * 4 := by
  apply Nat.eq_of_testBit_eq
  intro j
  have hq : m / 4 < 2 ^ 14 := by omega
  rw [Nat.testBit_and, show (65532 : Nat) = 2 ^ 2 * (2 ^ 14 - 1) from rfl,
    Nat.testBit_mul_pow_two, Nat.testBit_two_pow_sub_one, Nat.mul_comm _ 4,
    show (4 : Nat) = 2 ^ 2 from rfl, Nat.testBit_mul_pow_two]
  conv_lhs =>
    rw [← Nat.div_add_mod m (2 ^ 2), Nat.testBit_mul_pow_two_add _ (Nat.mod_lt _ (by decide))]
  by_cases hj : j < 2
  · simp [show ¬ 2 ≤ j by omega]
  · have hj2 : 2 ≤ j := by omega
    by_cases hk : j - 2 < 14
    · simp [hj, hj2, hk, Bool.and_comm]
    · have hzero := Nat.testBit_lt_two_pow
        (Nat.lt_of_lt_of_le hq (Nat.pow_le_pow_right (by decide) (Nat.le_of_not_lt hk)))
      simp [hj, hj2, hk, hzero]

theorem UInt16.toNat_and_not_three (a : UInt16) : (a &&& ~~~3).toNat = a.toNat / 4 * 4 := by
  have h : (a &&& ~~~3).toNat = a.toNat &&& 65532 := by
    show (a.toBitVec &&& (~~~3 : UInt16).toBitVec).toNat = _
    rw [BitVec.toNat_and]
    rfl
  rw [h]
  exact Nat.and_65532_eq a.toBitVec.isLt

theorem UInt8.toNat_lt' (a : UInt8) : a.toNat < 256 := a.toBitVec.isLt

theorem UInt16.toNat_lt' (a : UInt16) : a.toNat < 65536 := a.toBitVec.isLt

theorem UInt32.toNat_lt' (a : UInt32) : a.toNat < 4294967296 := a.toBitVec.isLt

/-! Bitwise operations, read on the underlying bit vectors. -/

@[simp] theorem UInt32.toBitVec_or (a b : UInt32) :
    (a ||| b).toBitVec = a.toBitVec ||| b.toBitVec := rfl

@[simp] theorem UInt32.toBitVec_and (a b : UInt32) :
    (a &&& b).toBitVec = a.toBitVec &&& b.toBitVec := rfl

@[simp] theorem UInt32.toBitVec_shiftLeft (a b : UInt32) :
    (a <<< b).toBitVec = a.toBitVec <<< (b.toBitVec % 32) := rfl

@[simp] theorem UInt32.toBitVec_shiftRight (a b : UInt32) :
    (a >>> b).toBitVec = a.toBitVec >>> (b.toBitVec % 32) := rfl

@[simp] theorem UInt8.toBitVec_or (a b : UInt8) :
    (a ||| b).toBitVec = a.toBitVec ||| b.toBitVec := rfl

@[simp] theorem UInt8.toBitVec_and (a b : UInt8) :
    (a &&& b).toBitVec = a.toBitVec &&& b.toBitVec := rfl

@[simp] theorem UInt8.toBitVec_shiftLeft (a b : UInt8) :
    (a <<< b).toBitVec = a.toBitVec <<< (b.toBitVec % 8) := rfl

@[simp] theorem UInt8.toBitVec_shiftRight (a b : UInt8) :
    (a >>> b).toBitVec = a.toBitVec >>> (b.toBitVec % 8) := rfl

@[simp] theorem UInt8.toBitVec_toUInt32 (a : UInt8) :
    a.toUInt32.toBitVec = a.toBitVec.setWidth 32 := by
  apply BitVec.eq_of_toNat_eq
  simp only [BitVec.toNat_setWidth]
  have := a.toNat_lt'
  exact (Nat.mod_eq_of_lt (by omega)).symm

@[simp] theorem UInt32.toBitVec_toUInt8 (a : UInt32) :
    a.toUInt8.toBitVec = a.toBitVec.setWidth 8 := by
  apply BitVec.eq_of_toNat_eq
  simp [UInt32.toUInt8, Nat.toUInt8, UInt8.ofNat, UInt32.toNat]
