import MdPrsr.Cme.GroupEncoder
import MdPrsr.Wire.Arithmetic

/-!
# The guards of the group coders on a 64-bit target

The distance from `begin` to `end` is a signed number of 64 bits. The first guard
compares it with `encoded_sizeof::value`, which is unsigned, and the second with the
product of two members of the header, which is an `int`. So the first guard lets a
negative distance pass, and the second has no value where the product of two 16-bit
members is too large.

Where the cursor is inside the buffer and the product is an `int`, the two guards are
the comparisons of numbers that `Group.decode` makes.
-/
namespace MdPrsr
open Wire

namespace GroupSize
variable (h : GroupSize)

/-- `std::distance(begin, end) < encoded_sizeof<GroupSize>::value`. -/
def headerGuard (distance : Int64) : Bool :=
  unsignedLt distance (UInt64.ofNat h.struct.layout.size)

/-- `std::distance(begin, end) < group_size.blockLength * group_size.numInGroup`. -/
def blocksGuard (groupSize : Record h.struct.layout) (distance : Int64) : Option Bool :=
  (intMul (Int32.ofNat (h.blockLength groupSize)) (Int32.ofNat (h.numInGroup groupSize))).map
    fun product => distance < product.toInt64

/-- The number that the second guard compares the distance with. -/
def announced (groupSize : Record h.struct.layout) : ℕ :=
  h.blockLength groupSize * h.numInGroup groupSize

/-- The two members are of types that are promoted to `int`. -/
structure Narrow : Prop where
  blockLength_lt : ∀ r, h.blockLength r < 2 ^ 16
  numInGroup_lt : ∀ r, h.numInGroup r < 2 ^ h.countBits
  countBits_le : h.countBits ≤ 16
  size_lt : h.struct.layout.size < 2 ^ 63

variable {h}

theorem Narrow.numInGroup_lt_int (hn : h.Narrow) (r : Record h.struct.layout) :
    h.numInGroup r < 2 ^ 16 :=
  (hn.numInGroup_lt r).trans_le (Nat.pow_le_pow_right (by decide) hn.countBits_le)

/-- Eight bits for the count leave the product far below the largest `int`. -/
theorem Narrow.announced_lt (hn : h.Narrow) (hbits : h.countBits = 8)
    (r : Record h.struct.layout) : h.announced r < 2 ^ 31 := by
  have hblock := hn.blockLength_lt r
  have hnum := hn.numInGroup_lt r
  rw [hbits] at hnum
  have hmul := Nat.mul_le_mul hblock.le hnum.le
  unfold announced
  omega

theorem headerGuard_iff (hn : h.Narrow) {distance : Int64} :
    h.headerGuard distance = true ↔
      0 ≤ distance.toInt ∧ distance.toInt < h.struct.layout.size := by
  have hsize := hn.size_lt
  have hvalue : (UInt64.ofNat h.struct.layout.size).toNat = h.struct.layout.size :=
    UInt64.toNat_ofNat_of_lt' (by rw [UInt64.size]; omega)
  unfold headerGuard
  rw [unsignedLt_iff (by omega), hvalue]

theorem headerGuard_exact_iff (hn : h.Narrow) {distance : Int64} :
    (h.headerGuard distance = true ↔ distance.toInt < h.struct.layout.size) ↔
      0 ≤ distance.toInt := by
  rw [headerGuard_iff hn]
  omega

theorem blocksGuard_of_lt (hn : h.Narrow) {groupSize : Record h.struct.layout}
    (hproduct : h.announced groupSize < 2 ^ 31) (distance : Int64) :
    h.blocksGuard groupSize distance = some (decide (distance.toInt < h.announced groupSize)) := by
  have hblock := hn.blockLength_lt groupSize
  have hnum := hn.numInGroup_lt_int groupSize
  obtain ⟨product, hmul, hvalue⟩ := intMul_ofNat_of_lt (by omega) (by omega) hproduct
  unfold blocksGuard
  rw [hmul, Option.map_some]
  simp only [Int64.lt_iff_toInt_lt, Int32.toInt_toInt64, hvalue]
  rfl

theorem blocksGuard_of_le (hn : h.Narrow) {groupSize : Record h.struct.layout}
    (hproduct : 2 ^ 31 ≤ h.announced groupSize) (distance : Int64) :
    h.blocksGuard groupSize distance = none := by
  have hblock := hn.blockLength_lt groupSize
  have hnum := hn.numInGroup_lt_int groupSize
  unfold blocksGuard
  rw [intMul_ofNat_of_le (by omega) (by omega) hproduct, Option.map_none]

theorem blocksGuard_exact_iff (hn : h.Narrow) {groupSize : Record h.struct.layout}
    {distance : Int64} :
    h.blocksGuard groupSize distance = some (decide (distance.toInt < h.announced groupSize)) ↔
      h.announced groupSize < 2 ^ 31 := by
  rcases Nat.lt_or_ge (h.announced groupSize) (2 ^ 31) with hlt | hle
  · exact iff_of_true (blocksGuard_of_lt hn hlt distance) hlt
  · rw [blocksGuard_of_le hn hle]
    exact iff_of_false (Option.some_ne_none _).symm (Nat.not_lt.mpr hle)

end GroupSize

namespace Cme

/-- The group headers of both schema versions. -/
def groupHeaders : List GroupSize :=
  [V9.groupSize, V9.groupSize8Byte, V9.groupSizeEncoding, V13.groupSize, V13.groupSize8Byte,
    V13.groupSizeEncoding]

theorem groupSize_mem : V13.groupSize ∈ groupHeaders := by simp [groupHeaders]

theorem groupSize8Byte_mem : V13.groupSize8Byte ∈ groupHeaders := by simp [groupHeaders]

theorem narrow_of_mem : ∀ h ∈ groupHeaders, h.Narrow := by
  simp only [groupHeaders, List.forall_mem_cons]
  refine ⟨?_, ?_, ?_, ?_, ?_, ?_, fun _ hnil => absurd hnil List.not_mem_nil⟩ <;>
  exact ⟨fun _ => BitVec.isLt _, fun _ => BitVec.isLt _, by decide, by decide⟩

/-- The first guard compares numbers exactly when the distance is not negative, and the
second when the product is an `int`. -/
theorem guards_exact_iff : ∀ h ∈ groupHeaders, ∀ (groupSize : Record h.struct.layout)
    (distance : Int64),
    ((h.headerGuard distance = true ↔ distance.toInt < h.struct.layout.size) ↔
      0 ≤ distance.toInt) ∧
    (h.blocksGuard groupSize distance =
        some (decide (distance.toInt < (h.blockLength groupSize * h.numInGroup groupSize : ℕ))) ↔
      h.blockLength groupSize * h.numInGroup groupSize < 2 ^ 31) := by
  intro h hh groupSize distance
  have hn := narrow_of_mem h hh
  exact ⟨GroupSize.headerGuard_exact_iff hn, GroupSize.blocksGuard_exact_iff hn⟩

/-- The longest block and the largest count, and one byte too few. -/
theorem guards_exact_iff_largest :
    V13.groupSize.blocksGuard (.cons (65535 : BitVec 16) (.cons (255 : BitVec 8) .nil))
        16711424 = some true := by
  have hexact := (guards_exact_iff V13.groupSize groupSize_mem
    (.cons (65535 : BitVec 16) (.cons (255 : BitVec 8) .nil)) 16711424).2.mpr (by decide)
  exact hexact.trans rfl

/-- Nine bytes behind the end there is no room for a header, and the product of the two
largest numbers of 16 bits is not an `int`. -/
theorem guards_inexact :
    V13.groupSize.headerGuard (-9) = false ∧
    (∀ distance, V13.groupSizeEncoding.blocksGuard
      (.cons (65535 : BitVec 16) (.cons (65535 : BitVec 16) .nil)) distance = none) ∧
    ¬ ∀ h ∈ groupHeaders, ∀ (groupSize : Record h.struct.layout) (distance : Int64),
      (h.headerGuard distance = true ↔ distance.toInt < h.struct.layout.size) ∧
      h.blocksGuard groupSize distance =
        some (decide
          (distance.toInt < (h.blockLength groupSize * h.numInGroup groupSize : ℕ))) := by
  have hpasses : V13.groupSize.headerGuard (-9) = false := by decide
  refine ⟨hpasses, fun _ => rfl, fun hexact => ?_⟩
  have hguard := (hexact V13.groupSize groupSize_mem
    (.cons (0 : BitVec 16) (.cons (0 : BitVec 8) .nil)) (-9)).1.mpr (by decide)
  rw [hpasses] at hguard
  cases hguard

/-- The groups of the messages have one of the two headers that count in eight bits. -/
theorem header_of_mem : ∀ T ∈ V9.messages.alternatives ++ V13.messages.alternatives,
    ∀ g ∈ T.groups, g.header = V13.groupSize ∨ g.header = V13.groupSize8Byte := by
  simp only [V9.messages, V13.messages, List.forall_mem_append, List.forall_mem_cons]
  and_intros
  all_goals
    repeat' first
      | exact fun _ hnil => absurd hnil List.not_mem_nil
      | refine List.forall_mem_cons.mpr ⟨by first | exact .inl rfl | exact .inr rfl, ?_⟩

theorem narrow_header : ∀ T ∈ V9.messages.alternatives ++ V13.messages.alternatives,
    ∀ g ∈ T.groups, g.header.Narrow ∧ g.header.countBits = 8 := by
  intro T hT g hg
  rcases header_of_mem T hT g hg with hheader | hheader
  · rw [hheader]
    exact ⟨narrow_of_mem _ groupSize_mem, rfl⟩
  · rw [hheader]
    exact ⟨narrow_of_mem _ groupSize8Byte_mem, rfl⟩

end Cme

/-! ### The coders make the same decisions -/

namespace Group
variable {g : Group}

theorem headerGuard_ofNat (hn : g.header.Narrow) {n : ℕ} (hlen : n < 2 ^ 63) :
    g.header.headerGuard (Int64.ofNat n) = true ↔ n < g.headerSize := by
  rw [GroupSize.headerGuard_iff hn, Int64.toInt_ofNat_of_lt hlen]
  unfold headerSize
  omega

theorem blocksGuard_ofNat (hn : g.header.Narrow) {groupSize : Record g.header.struct.layout}
    (hproduct : g.header.announced groupSize < 2 ^ 31) {n : ℕ} (hlen : n < 2 ^ 63) :
    g.header.blocksGuard groupSize (Int64.ofNat n) = some true ↔
      n < g.header.announced groupSize := by
  rw [GroupSize.blocksGuard_of_lt hn hproduct, Int64.toInt_ofNat_of_lt hlen]
  simp

/-- The encoder compares as the first guard does, negative distances included. -/
theorem encode_eq_guarded (C : LeafCodec Kind) (hn : g.header.Narrow) (distance : Int64)
    (data : g.Data) :
    g.encode C distance.toInt data =
      if g.header.headerGuard distance then .error .lengthError else .ok (g.bytes C data) := by
  have hguard : g.header.headerGuard distance = true ↔
      0 ≤ distance.toInt ∧ distance.toInt < g.headerSize := GroupSize.headerGuard_iff hn
  unfold encode
  by_cases hthrows : g.header.headerGuard distance = true
  · rw [if_pos hthrows, if_pos (hguard.mp hthrows)]
    rfl
  · rw [if_neg hthrows, if_neg (mt hguard.mpr hthrows)]
    rfl

/-- Of a buffer that a 64-bit target can hold, the decoder of a group of either schema
rejects what the two guards reject. -/
theorem decode_eq_guarded (C : LeafCodec Kind) :
    ∀ T ∈ Cme.V9.messages.alternatives ++ Cme.V13.messages.alternatives, ∀ g ∈ T.groups,
    ∀ bs : List UInt8, bs.length < 2 ^ 63 →
      ((∃ cur, g.decode C bs = .error .lengthError cur) ↔
        g.header.headerGuard (Int64.ofNat bs.length) = true ∨
          g.header.blocksGuard (g.headerAt C bs) (Int64.ofNat (bs.length - g.headerSize)) =
            some true) := by
  intro T hT g hg bs hlen
  obtain ⟨hn, hbits⟩ := Cme.narrow_header T hT g hg
  have hproduct := hn.announced_lt hbits (g.headerAt C bs)
  have hannounced : g.header.announced (g.headerAt C bs) =
      g.blockLengthAt C bs * g.numInGroupAt C bs := rfl
  rw [headerGuard_ofNat hn hlen, blocksGuard_ofNat hn hproduct (by omega),
    decode_lengthError_iff, hannounced]
  unfold BlocksShort
  omega

end Group
end MdPrsr
