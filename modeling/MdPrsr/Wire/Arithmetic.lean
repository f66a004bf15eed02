import Mathlib.Algebra.Order.Ring.Int

/-!
# Integer arithmetic of a 64-bit target

A comparison of a signed with an unsigned number of 64 bits converts the signed one,
which makes a negative number large. Operands of a product that are narrower than
`int` are promoted to it, and a product that is not an `int` has no defined value.
-/
namespace MdPrsr.Wire

/-- `a < b` where `b` is unsigned. -/
def unsignedLt (a : Int64) (b : UInt64) : Bool := a.toUInt64 < b

/-- `a * b` where both are of type `int`. -/
def intMul (a b : Int32) : Option Int32 :=
  if a.toBitVec.smulOverflow b.toBitVec then none else some (a * b)

/-! ### Conversion to unsigned -/

theorem toNat_toUInt64_cases (a : Int64) :
    0 ≤ a.toInt ∧ (a.toUInt64.toNat : ℤ) = a.toInt ∨
      a.toInt < 0 ∧ (a.toUInt64.toNat : ℤ) = a.toInt + 2 ^ 64 := by
  have hcond := BitVec.toInt_eq_toNat_cond a.toBitVec
  change a.toInt = _ at hcond
  have hlt := a.toUInt64.toNat_lt
  rw [Int64.toNat_toBitVec] at hcond
  split at hcond
  · exact .inl (by omega)
  · exact .inr (by omega)

/-- The converted number is less exactly when the signed one is and is not negative. -/
theorem unsignedLt_iff {a : Int64} {b : UInt64} (hb : b.toNat ≤ 2 ^ 63) :
    unsignedLt a b = true ↔ 0 ≤ a.toInt ∧ a.toInt < b.toNat := by
  have hrange := a.le_toInt
  unfold unsignedLt
  rw [decide_eq_true_iff, UInt64.lt_iff_toNat_lt]
  rcases toNat_toUInt64_cases a with ⟨hsign, hvalue⟩ | ⟨hsign, hvalue⟩ <;> omega

/-! ### Products -/

variable {a b : ℕ}

theorem smulOverflow_ofNat (ha : a < 2 ^ 31) (hb : b < 2 ^ 31) :
    (Int32.ofNat a).toBitVec.smulOverflow (Int32.ofNat b).toBitVec = true ↔ 2 ^ 31 ≤ a * b := by
  have hleft : (Int32.ofNat a).toBitVec.toInt = a := Int32.toInt_ofNat_of_lt ha
  have hright : (Int32.ofNat b).toBitVec.toInt = b := Int32.toInt_ofNat_of_lt hb
  have hmul : ((a * b : ℕ) : ℤ) = a * b := Int.natCast_mul a b
  rw [BitVec.smulOverflow, hleft, hright, ← hmul]
  simp
  omega

theorem intMul_ofNat_of_le (ha : a < 2 ^ 31) (hb : b < 2 ^ 31) (h : 2 ^ 31 ≤ a * b) :
    intMul (Int32.ofNat a) (Int32.ofNat b) = none :=
  if_pos ((smulOverflow_ofNat ha hb).mpr h)

theorem intMul_ofNat_of_lt (ha : a < 2 ^ 31) (hb : b < 2 ^ 31) (h : a * b < 2 ^ 31) :
    ∃ product, intMul (Int32.ofNat a) (Int32.ofNat b) = some product ∧
      product.toInt = (a * b : ℕ) := by
  have hfits := mt (smulOverflow_ofNat ha hb).mp (Nat.not_le.mpr h)
  have hleft : (Int32.ofNat a).toBitVec.toInt = a := Int32.toInt_ofNat_of_lt ha
  have hright : (Int32.ofNat b).toBitVec.toInt = b := Int32.toInt_ofNat_of_lt hb
  refine ⟨_, if_neg hfits, ?_⟩
  have hproduct := BitVec.toInt_mul_of_not_smulOverflow hfits
  rw [hleft, hright] at hproduct
  exact hproduct.trans (Int.natCast_mul a b).symm

end MdPrsr.Wire
