import MdPrsr.Wire.Record

/-!
# Encodings that agree except in some leaves

A mask has a flag for each byte. Two byte strings of the length of a mask agree on it if
they have the same bytes wherever a flag is set. Strings that are put together from
parts agree if the parts do.

A record that was read keeps its bytes when it is written, and so does one that shares
only some of its values, in the leaves of these values.
-/
namespace MdPrsr.Wire

/-- The strings are as long as the mask and have the same elements where it is set. -/
inductive AgreeOn {α : Type} : List Bool → List α → List α → Prop
  | nil : AgreeOn [] [] []
  | cons {flag : Bool} {x y : α} {mask : List Bool} {xs ys : List α} :
      (flag = true → x = y) → AgreeOn mask xs ys → AgreeOn (flag :: mask) (x :: xs) (y :: ys)

namespace AgreeOn
variable {α : Type} {mask mask' : List Bool} {xs ys xs' ys' : List α}

theorem append (h : AgreeOn mask xs ys) (h' : AgreeOn mask' xs' ys') :
    AgreeOn (mask ++ mask') (xs ++ xs') (ys ++ ys') := by
  induction h with
  | nil => exact h'
  | cons hxy _ ih => exact .cons hxy ih

theorem length_eq (h : AgreeOn mask xs ys) : xs.length = mask.length ∧ ys.length = mask.length := by
  induction h with
  | nil => exact ⟨rfl, rfl⟩
  | cons _ _ ih => simp [ih]

theorem getElem?_eq (h : AgreeOn mask xs ys) {i : ℕ} (hi : mask[i]? = some true) :
    xs[i]? = ys[i]? := by
  induction h generalizing i with
  | nil => cases hi
  | cons hxy _ ih =>
    cases i with
    | zero =>
      have hflag : _ = true := Option.some.inj hi
      rw [List.getElem?_cons_zero, List.getElem?_cons_zero, hxy hflag]
    | succ i =>
      rw [List.getElem?_cons_succ] at hi
      rw [List.getElem?_cons_succ, List.getElem?_cons_succ, ih hi]

/-- Equal strings agree on every mask, and strings of one length where no flag is set. -/
theorem replicate {flag : Bool} {n : ℕ} (hx : xs.length = n) (hy : ys.length = n)
    (h : flag = true → xs = ys) : AgreeOn (List.replicate n flag) xs ys := by
  induction n generalizing xs ys with
  | zero =>
    rw [List.length_eq_zero_iff] at hx hy
    subst hx hy
    exact .nil
  | succ n ih =>
    obtain ⟨x, xs, rfl⟩ := List.exists_cons_of_length_eq_add_one hx
    obtain ⟨y, ys, rfl⟩ := List.exists_cons_of_length_eq_add_one hy
    rw [List.replicate_succ]
    refine .cons (fun hflag => (List.cons.inj (h hflag)).1) ?_
    exact ih (Nat.succ.inj hx) (Nat.succ.inj hy) fun hflag => (List.cons.inj (h hflag)).2

end AgreeOn

/-! ### Records -/

section Records
variable {K : Type} [Leaves K]

/-- The bytes of the leaves that are kept. -/
def Layout.flags (keep : Leaf K → Bool) (L : Layout K) : List Bool :=
  L.flatMap fun f => List.replicate (Leaves.size f.kind) (keep f)

/-- The records have the same values in the leaves that are kept. -/
def Record.SameOn (keep : Leaf K → Bool) : {L : Layout K} → Record L → Record L → Prop
  | _, .nil, .nil => True
  | _, .cons (f := f) v r, .cons w s => (keep f = true → v = w) ∧ SameOn keep r s

theorem Record.sameOn_refl (keep : Leaf K → Bool) {L : Layout K} (r : Record L) :
    r.SameOn keep r := by
  induction r with
  | nil => trivial
  | cons v r ih => exact ⟨fun _ => rfl, ih⟩

namespace LeafCodec
variable (C : LeafCodec K) {data : K → Bool}
  (hdata : ∀ (k : K) (bs : List UInt8), data k = true → bs.length = Leaves.size k →
    C.write k (C.read k bs) = bs)
include hdata

/-- A record that has the kept values of what stands in a buffer is written with the kept
bytes of the buffer. -/
theorem agreeOn_writeRecord {keep : Leaf K → Bool} (hkeep : ∀ f, keep f = true → data f.kind = true)
    {L : Layout K} {bs : List UInt8} (hlen : bs.length = L.size) {s : Record L}
    (h : (C.readRecord L bs).SameOn keep s) : AgreeOn (L.flags keep) (C.writeRecord s) bs := by
  induction s generalizing bs with
  | nil =>
    obtain rfl : bs = [] := List.length_eq_zero_iff.mp hlen
    exact .nil
  | @cons f L v s ih =>
    rw [Layout.size_cons] at hlen
    have hfirst : (bs.take (Leaves.size f.kind)).length = Leaves.size f.kind := by
      rw [List.length_take]
      omega
    have hrest : (bs.drop (Leaves.size f.kind)).length = Layout.size L := by
      rw [List.length_drop]
      omega
    obtain ⟨hvalue, hsame⟩ := h
    rw [Layout.flags, List.flatMap_cons, writeRecord]
    conv_rhs => rw [← List.take_append_drop (Leaves.size f.kind) bs]
    refine (AgreeOn.replicate (C.length_write _ _) hfirst fun hf => ?_).append (ih hrest hsame)
    rw [← hvalue hf]
    exact hdata _ _ (hkeep f hf) hfirst

/-- A record is written with the bytes it was read from, where its leaves carry data. -/
theorem agreeOn_readRecord {L : Layout K} {bs : List UInt8} (hlen : bs.length = L.size) :
    AgreeOn (L.mask data) (C.writeRecord (C.readRecord L bs)) bs := by
  have hsame : (C.readRecord L bs).SameOn (fun f => data f.kind) (C.readRecord L bs) :=
    Record.sameOn_refl _ _
  exact C.agreeOn_writeRecord hdata (fun _ hf => hf) hlen hsame

theorem agreeOn_readRecords (L : Layout K) {n : ℕ} {bs : List UInt8}
    (h : L.size * n ≤ bs.length) :
    AgreeOn (List.replicate n (L.mask data)).flatten ((C.readRecords L n bs).flatMap C.writeRecord)
      (bs.take (L.size * n)) := by
  induction n generalizing bs with
  | zero => exact .nil
  | succ n ih =>
    rw [Nat.mul_succ] at h
    have hfirst : (bs.take L.size).length = L.size := List.length_take_of_le (by omega)
    have hrest : L.size * n ≤ (bs.drop L.size).length := by
      rw [List.length_drop]
      omega
    rw [List.replicate_succ, List.flatten_cons, readRecords, List.flatMap_cons,
      ← C.readRecord_take L bs, Nat.mul_succ, Nat.add_comm, List.take_add]
    exact (C.agreeOn_readRecord hdata hfirst).append (ih hrest)

end LeafCodec
end Records
end MdPrsr.Wire
