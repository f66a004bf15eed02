import Mathlib.Data.Nat.Digits.Lemmas
import Mathlib.Data.List.Basic

/-!
# Fixed-width integers as byte strings

An unsigned integer of `width` bytes is stored with either its least or its
most significant byte first. `bytes` writes the low `width` bytes of a natural
number and `value` reads a byte string back, so the two are inverse up to the
reduction modulo `256 ^ width`, in either order.
-/
namespace MdPrsr.Wire

/-- Which end of an integer comes first in memory or on the wire. -/
inductive ByteOrder where
  | little
  | big
  deriving DecidableEq, Repr

namespace ByteOrder

/-- The low `width` bytes of `n`, least significant first. -/
def leBytes : ℕ → ℕ → List UInt8
  | 0, _ => []
  | width + 1, n => UInt8.ofNat n :: leBytes width (n / 256)

def leValue (bs : List UInt8) : ℕ := Nat.ofDigits 256 (bs.map UInt8.toNat)

def bytes (o : ByteOrder) (width n : ℕ) : List UInt8 :=
  match o with
  | .little => leBytes width n
  | .big => (leBytes width n).reverse

def value (o : ByteOrder) (bs : List UInt8) : ℕ :=
  match o with
  | .little => leValue bs
  | .big => leValue bs.reverse

@[simp] theorem leValue_nil : leValue [] = 0 := rfl

@[simp] theorem leValue_cons (b : UInt8) (bs : List UInt8) :
    leValue (b :: bs) = b.toNat + 256 * leValue bs := by
  simp [leValue, Nat.ofDigits_cons]

theorem leValue_append (as bs : List UInt8) :
    leValue (as ++ bs) = leValue as + 256 ^ as.length * leValue bs := by
  simp [leValue, Nat.ofDigits_append]

@[simp] theorem length_leBytes (width n : ℕ) : (leBytes width n).length = width := by
  induction width generalizing n with
  | zero => rfl
  | succ width ih => simp [leBytes, ih]

@[simp] theorem length_bytes (o : ByteOrder) (width n : ℕ) :
    (o.bytes width n).length = width := by
  cases o <;> simp [bytes]

theorem take_leBytes {width k : ℕ} (h : k ≤ width) (n : ℕ) :
    (leBytes width n).take k = leBytes k n := by
  induction width generalizing k n with
  | zero => rw [Nat.le_zero.mp h]; rfl
  | succ width ih =>
    cases k with
    | zero => rfl
    | succ k => rw [leBytes, leBytes, List.take_succ_cons, ih (by omega)]

theorem leValue_lt (bs : List UInt8) : leValue bs < 256 ^ bs.length := by
  have h := Nat.ofDigits_lt_base_pow_length (b := 256) (by decide)
    (l := bs.map UInt8.toNat) (by simpa using fun b _ => UInt8.toNat_lt b)
  simpa [leValue] using h

theorem value_lt (o : ByteOrder) (bs : List UInt8) : o.value bs < 256 ^ bs.length := by
  cases o with
  | little => exact leValue_lt bs
  | big => simpa [value] using leValue_lt bs.reverse

theorem leValue_leBytes (width n : ℕ) : leValue (leBytes width n) = n % 256 ^ width := by
  induction width generalizing n with
  | zero => simp [leBytes, Nat.mod_one]
  | succ width ih =>
    have hlow : (UInt8.ofNat n).toNat = n % 256 := by simp
    rw [leBytes, leValue_cons, ih, hlow, pow_succ', Nat.mod_mul]

/-- Reading what was written gives the number modulo `256 ^ width`. -/
theorem value_bytes (o : ByteOrder) (width n : ℕ) :
    o.value (o.bytes width n) = n % 256 ^ width := by
  cases o <;> simp [value, bytes, leValue_leBytes]

theorem value_bytes_of_lt (o : ByteOrder) {width n : ℕ} (h : n < 256 ^ width) :
    o.value (o.bytes width n) = n := by
  rw [value_bytes, Nat.mod_eq_of_lt h]

theorem leBytes_leValue (bs : List UInt8) : leBytes bs.length (leValue bs) = bs := by
  induction bs with
  | nil => rfl
  | cons b bs ih =>
    have hb : b.toNat < 256 := UInt8.toNat_lt b
    have hdiv : leValue (b :: bs) / 256 = leValue bs := by
      rw [leValue_cons]; omega
    have hlow : UInt8.ofNat (leValue (b :: bs)) = b := by
      apply UInt8.toNat_inj.mp
      simp only [UInt8.toNat_ofNat', leValue_cons]
      omega
    rw [List.length_cons, leBytes, hdiv, ih, hlow]

/-- Writing what was read gives the bytes back. -/
theorem bytes_value (o : ByteOrder) (bs : List UInt8) :
    o.bytes bs.length (o.value bs) = bs := by
  cases o with
  | little => exact leBytes_leValue bs
  | big =>
    have h := leBytes_leValue bs.reverse
    rw [List.length_reverse] at h
    simp [bytes, value, h]

theorem bytes_value_of_length (o : ByteOrder) {width : ℕ} {bs : List UInt8}
    (h : bs.length = width) : o.bytes width (o.value bs) = bs := by
  subst h
  exact o.bytes_value bs

/-- Only the low `width` bytes of a number are written. -/
theorem bytes_mod (o : ByteOrder) (width n : ℕ) :
    o.bytes width (n % 256 ^ width) = o.bytes width n := by
  rw [← o.value_bytes]
  exact o.bytes_value_of_length (o.length_bytes width n)

/-! ### Big-endian order -/

theorem big_value_cons (b : UInt8) (bs : List UInt8) :
    big.value (b :: bs) = b.toNat * 256 ^ bs.length + big.value bs := by
  simp [value, leValue_append, Nat.mul_comm, Nat.add_comm]

/-- The most significant byte comes first, so strings of one length are ordered like
their values: by the first byte that differs. -/
theorem big_value_lt_iff {as bs : List UInt8} (h : as.length = bs.length) :
    big.value as < big.value bs ↔ as < bs := by
  induction as generalizing bs with
  | nil =>
    cases List.length_eq_zero_iff.mp h.symm
    simp
  | cons a as ih =>
    cases bs with
    | nil => simp at h
    | cons b bs =>
      have hlen : as.length = bs.length := Nat.succ.inj h
      have has := big.value_lt as
      have hbs := big.value_lt bs
      rw [big_value_cons, big_value_cons, List.cons_lt_cons_iff, ← ih hlen, UInt8.lt_iff_toNat_lt,
        ← UInt8.toNat_inj]
      rw [hlen] at has ⊢
      constructor
      · intro hlt
        rcases Nat.lt_trichotomy a.toNat b.toNat with hab | hab | hab
        · exact .inl hab
        · rw [hab] at hlt
          exact .inr ⟨hab, by omega⟩
        · have hmul := Nat.mul_le_mul_right (256 ^ bs.length) hab
          rw [Nat.succ_mul] at hmul
          omega
      · intro hlex
        rcases hlex with hab | ⟨hab, hlt⟩
        · have hmul := Nat.mul_le_mul_right (256 ^ bs.length) hab
          rw [Nat.succ_mul] at hmul
          omega
        · rw [hab]
          omega

end ByteOrder
end MdPrsr.Wire
