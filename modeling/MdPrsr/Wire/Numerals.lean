import Mathlib.Data.List.Basic
import Mathlib.Data.Nat.Digits.Lemmas

/-!
# Decimal numerals

A number is printed with leading zeros up to a given width, and with all its digits
if there are more of them. Digits of one length are ordered like the numbers they
stand for, and a character that is no digit ends a numeral.
-/
namespace MdPrsr.Wire

/-- The decimal digits of `n` behind as many zeros as `width` asks for. -/
def numeral (width n : ℕ) : List Char := (Nat.toDigits 10 n).leftpad width '0'

section Numeral
variable {width m n : ℕ}

theorem isDigit_of_mem_numeral {c : Char} (h : c ∈ numeral width n) : c.isDigit := by
  rw [numeral, List.leftpad, List.mem_append] at h
  rcases h with hzero | hdigit
  · rw [List.eq_of_mem_replicate hzero]
    rfl
  · exact Nat.isDigit_of_mem_toDigits (by decide) (by decide) hdigit

@[simp] theorem ofDigitChars_numeral : Nat.ofDigitChars 10 (numeral width n) 0 = n := by
  simp [numeral, List.leftpad, Nat.ofDigitChars_append]

theorem not_mem_numeral {c : Char} (hc : c.isDigit = false) (width n : ℕ) :
    c ∉ numeral width n := by
  intro hmem
  rw [isDigit_of_mem_numeral hmem] at hc
  cases hc

theorem numeral_inj : numeral width m = numeral width n ↔ m = n := by
  constructor
  · intro h
    simpa using congrArg (fun cs => Nat.ofDigitChars 10 cs 0) h
  · intro h
    rw [h]

theorem length_numeral (hwidth : 0 < width) (h : n < 10 ^ width) :
    (numeral width n).length = width := by
  have hdigits := (Nat.length_toDigits_le_iff (by decide) hwidth).mpr h
  rw [numeral, List.length_leftpad]
  omega

end Numeral

/-! ### The order of digits -/

theorem ofDigitChars_cons_zero (c : Char) (cs : List Char) :
    Nat.ofDigitChars 10 (c :: cs) 0 =
      10 ^ cs.length * (c.toNat - 48) + Nat.ofDigitChars 10 cs 0 := by
  rw [Nat.ofDigitChars_cons, Nat.ofDigitChars_eq_ofDigitChars_zero]
  simp

theorem ofDigitChars_lt {cs : List Char} (h : ∀ c ∈ cs, c.isDigit) :
    Nat.ofDigitChars 10 cs 0 < 10 ^ cs.length := by
  induction cs with
  | nil => decide
  | cons c cs ih =>
    have htail := ih fun d hd => h d (List.mem_cons_of_mem c hd)
    have hdigit : 48 ≤ c.toNat ∧ c.toNat ≤ 57 :=
      Char.isDigit_iff_toNat.mp (h c List.mem_cons_self)
    have hmul := Nat.mul_le_mul_left (10 ^ cs.length) (show c.toNat - 48 ≤ 9 by omega)
    rw [ofDigitChars_cons_zero, List.length_cons, Nat.pow_succ]
    omega

/-- The first digit that differs decides. -/
theorem ofDigitChars_lt_iff {cs ds : List Char} (hcs : ∀ c ∈ cs, c.isDigit)
    (hds : ∀ d ∈ ds, d.isDigit) (hlen : cs.length = ds.length) :
    Nat.ofDigitChars 10 cs 0 < Nat.ofDigitChars 10 ds 0 ↔ cs < ds := by
  induction cs generalizing ds with
  | nil =>
    cases List.length_eq_zero_iff.mp hlen.symm
    simp
  | cons c cs ih =>
    cases ds with
    | nil => simp at hlen
    | cons d ds =>
      have hlen' : cs.length = ds.length := Nat.succ.inj hlen
      have hcs' : ∀ c ∈ cs, c.isDigit := fun c' h => hcs c' (List.mem_cons_of_mem c h)
      have hds' : ∀ d ∈ ds, d.isDigit := fun d' h => hds d' (List.mem_cons_of_mem d h)
      have hc : 48 ≤ c.toNat ∧ c.toNat ≤ 57 :=
        Char.isDigit_iff_toNat.mp (hcs c List.mem_cons_self)
      have hd : 48 ≤ d.toNat ∧ d.toNat ≤ 57 :=
        Char.isDigit_iff_toNat.mp (hds d List.mem_cons_self)
      have hlt := ofDigitChars_lt hcs'
      have hlt' := ofDigitChars_lt hds'
      rw [ofDigitChars_cons_zero, ofDigitChars_cons_zero, List.cons_lt_cons_iff,
        ← ih hcs' hds' hlen', Char.lt_def, UInt32.lt_iff_toNat_lt, ← Char.toNat_inj]
      change _ ↔ c.toNat < d.toNat ∨ _
      rw [hlen'] at hlt ⊢
      constructor
      · intro h
        rcases Nat.lt_trichotomy c.toNat d.toNat with hcd | hcd | hcd
        · exact .inl hcd
        · rw [hcd] at h
          exact .inr ⟨hcd, by omega⟩
        · have hmul := Nat.mul_le_mul_left (10 ^ ds.length)
            (show d.toNat - 48 + 1 ≤ c.toNat - 48 by omega)
          rw [Nat.mul_succ] at hmul
          omega
      · intro h
        rcases h with hcd | ⟨hcd, htail⟩
        · have hmul := Nat.mul_le_mul_left (10 ^ ds.length)
            (show c.toNat - 48 + 1 ≤ d.toNat - 48 by omega)
          rw [Nat.mul_succ] at hmul
          omega
        · rw [hcd]
          omega

section Order
variable {width m n : ℕ}

theorem numeral_lt_iff (hwidth : 0 < width) (hm : m < 10 ^ width) (hn : n < 10 ^ width) :
    numeral width m < numeral width n ↔ m < n := by
  have hlen : (numeral width m).length = (numeral width n).length := by
    rw [length_numeral hwidth hm, length_numeral hwidth hn]
  have h := ofDigitChars_lt_iff (fun _ hc => isDigit_of_mem_numeral hc)
    (fun _ hd => isDigit_of_mem_numeral hd) hlen
  rw [ofDigitChars_numeral, ofDigitChars_numeral] at h
  exact h.symm

/-- Without leading zeros the shorter numeral is the smaller one. -/
theorem toDigits_lt_iff :
    (Nat.toDigits 10 m).length < (Nat.toDigits 10 n).length ∨
      (Nat.toDigits 10 m).length = (Nat.toDigits 10 n).length ∧
        Nat.toDigits 10 m < Nat.toDigits 10 n ↔ m < n := by
  have hdigits (k : ℕ) : ∀ c ∈ Nat.toDigits 10 k, c.isDigit := fun _ hc =>
    Nat.isDigit_of_mem_toDigits (by decide) (by decide) hc
  have hlonger {k l : ℕ} (h : (Nat.toDigits 10 k).length < (Nat.toDigits 10 l).length) :
      k < l := by
    have hk := ofDigitChars_lt (hdigits k)
    have hl := (Nat.length_toDigits_le_iff (n := l) (show 1 < 10 by decide)
      (Nat.length_toDigits_pos (b := 10) (n := k))).not.mp (Nat.not_le.mpr h)
    rw [Nat.ofDigitChars_ten_toDigits] at hk
    omega
  rcases Nat.lt_trichotomy (Nat.toDigits 10 m).length (Nat.toDigits 10 n).length with
    hlen | hlen | hlen
  · exact iff_of_true (.inl hlen) (hlonger hlen)
  · have horder := ofDigitChars_lt_iff (hdigits m) (hdigits n) hlen
    rw [Nat.ofDigitChars_ten_toDigits, Nat.ofDigitChars_ten_toDigits] at horder
    simp [hlen, horder]
  · have hlt := hlonger hlen
    refine iff_of_false ?_ (by omega)
    omega

end Order

/-! ### Texts made of several numerals -/

section Texts
variable {α : Type}

theorem append_lt_append_iff [LT α] {as bs : List α} (hlen : as.length = bs.length)
    (cs ds : List α) : as ++ cs < bs ++ ds ↔ as < bs ∨ as = bs ∧ cs < ds := by
  induction as generalizing bs with
  | nil =>
    cases List.length_eq_zero_iff.mp hlen.symm
    simp
  | cons a as ih =>
    cases bs with
    | nil => simp at hlen
    | cons b bs =>
      rw [List.cons_append, List.cons_append, List.cons_lt_cons_iff, ih (Nat.succ.inj hlen),
        List.cons_lt_cons_iff, List.cons.injEq]
      tauto

/-- A separator that occurs in neither front divides a text in one way only. -/
theorem append_cons_inj {as bs cs ds : List α} {sep : α} (has : sep ∉ as) (hbs : sep ∉ bs) :
    as ++ sep :: cs = bs ++ sep :: ds ↔ as = bs ∧ cs = ds := by
  induction as generalizing bs with
  | nil =>
    cases bs with
    | nil => simp
    | cons b bs =>
      have hne : sep ≠ b := fun h => hbs (h ▸ List.mem_cons_self)
      simp [hne]
  | cons a as ih =>
    cases bs with
    | nil =>
      have hne : a ≠ sep := fun h => has (h ▸ List.mem_cons_self)
      simp [hne]
    | cons b bs =>
      rw [List.cons_append, List.cons_append, List.cons.injEq, List.cons.injEq,
        ih (fun h => has (List.mem_cons_of_mem a h)) fun h => hbs (List.mem_cons_of_mem b h),
        and_assoc]

/-- A numeral in front of a text decides, unless it is the same one. -/
theorem numeral_cons_lt_iff {width m n : ℕ} (hwidth : 0 < width) (hm : m < 10 ^ width)
    (hn : n < 10 ^ width) (sep : Char) (cs ds : List Char) :
    numeral width m ++ sep :: cs < numeral width n ++ sep :: ds ↔ m < n ∨ m = n ∧ cs < ds := by
  have hlen : (numeral width m).length = (numeral width n).length := by
    rw [length_numeral hwidth hm, length_numeral hwidth hn]
  have hsep : ¬ sep < sep := Char.lt_irrefl sep
  rw [append_lt_append_iff hlen, numeral_lt_iff hwidth hm hn, numeral_inj, List.cons_lt_cons_iff,
    or_iff_right hsep, and_iff_right rfl]

end Texts
end MdPrsr.Wire
