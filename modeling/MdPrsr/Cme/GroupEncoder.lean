import MdPrsr.Cme.GroupDecoder

/-!
# What the group encoder writes

The encoder writes all entries of a group behind a fresh header in which only
`numInGroup` is assigned, narrowed to the type of that member. It looks at the
space for the header and at no other. So the header counts the entries only up
to the capacity of `numInGroup`, it never has their length, and a destination
between the size of the header and the size of the group is written past its end.
-/
namespace MdPrsr
open Wire

namespace Group
variable {g : Group} {data : g.Data}

theorem encode_of_room_lt (C : LeafCodec Kind) {room : ℕ} (h : room < g.headerSize) :
    g.encode C room data = .error .lengthError := if_pos (by omega)

theorem encode_of_le_room (C : LeafCodec Kind) {room : ℕ} (h : g.headerSize ≤ room) :
    g.encode C room data = .ok (g.bytes C data) := if_neg (by omega)

theorem headerSize_le_encodedSizeof (g : Group) (data : g.Data) :
    g.headerSize ≤ g.encodedSizeof data := Nat.le_add_right _ _

/-! ### The destination -/

/-- The encoder throws before it writes or stays inside the destination, and throws if
the group does not fit, unless the destination ends between the header and the last entry. -/
theorem encode_inside_iff (C : LeafCodec Kind) (g : Group) (data : g.Data) (room : ℕ) :
    ((g.encode C room data = .error .lengthError ∨
        ∃ out, g.encode C room data = .ok out ∧ out.length ≤ room) ∧
      (room < g.encodedSizeof data → g.encode C room data = .error .lengthError)) ↔
      room < g.headerSize ∨ g.encodedSizeof data ≤ room := by
  have hsize := headerSize_le_encodedSizeof g data
  rcases Nat.lt_or_ge room g.headerSize with hshort | hheader
  · have hthrow : g.encode C room data = .error .lengthError := encode_of_room_lt C hshort
    exact iff_of_true ⟨.inl hthrow, fun _ => hthrow⟩ (.inl hshort)
  · have hrun : g.encode C room data = .ok (g.bytes C data) := encode_of_le_room C hheader
    rw [hrun]
    constructor
    · intro hinside
      by_contra hroom
      have herror := hinside.2 (by omega)
      cases herror
    · intro hroom
      have hle : g.encodedSizeof data ≤ room := by omega
      refine ⟨.inr ⟨_, rfl, ?_⟩, fun hlt => absurd hle (Nat.not_le.mpr hlt)⟩
      rw [length_bytes]
      exact hle

/-- One entry of two bytes into the three bytes of the header. -/
theorem encode_writes_outside :
    resetEntries.encode (leafCodec default .little) (3 : ℕ) [.cons (7 : BitVec 16) .nil] =
      .ok [0, 0, 1, 7, 0] ∧
    ¬ ∀ (C : LeafCodec Kind) (g : Group) (data : g.Data) (room : ℕ),
      (g.encode C room data = .error .lengthError ∨
        ∃ out, g.encode C room data = .ok out ∧ out.length ≤ room) ∧
      (room < g.encodedSizeof data → g.encode C room data = .error .lengthError) := by
  have hrun : resetEntries.encode (leafCodec default .little) (3 : ℕ)
      [.cons (7 : BitVec 16) .nil] = .ok [0, 0, 1, 7, 0] := rfl
  refine ⟨hrun, fun h => ?_⟩
  have hthrow := (h (leafCodec default .little) resetEntries [.cons (7 : BitVec 16) .nil] 3).2
    (by decide)
  rw [hrun] at hthrow
  cases hthrow

/-! ### The header -/

section Header
variable (p : Platform) (o : ByteOrder)

theorem headerAt_bytes (g : Group) (data : g.Data) (rest : List UInt8) :
    g.headerAt (leafCodec p o) (g.bytes (leafCodec p o) data ++ rest) =
      g.header.sized data.length := by
  unfold headerAt bytes
  rw [List.append_assoc]
  exact (leafCodec p o).readRecord_writeRecord (g.header.faithful_sized p o data.length) _

theorem numInGroupAt_bytes (g : Group) (data : g.Data) (rest : List UInt8) :
    g.numInGroupAt (leafCodec p o) (g.bytes (leafCodec p o) data ++ rest) =
      data.length % 2 ^ g.header.countBits := by
  rw [numInGroupAt, headerAt_bytes, g.header.numInGroup_sized]

theorem blockLengthAt_bytes (g : Group) (data : g.Data) (rest : List UInt8) :
    g.blockLengthAt (leafCodec p o) (g.bytes (leafCodec p o) data ++ rest) = 0 := by
  rw [blockLengthAt, headerAt_bytes, g.header.blockLength_sized]

theorem lt_of_le_capacity (h : data.length ≤ g.capacity) :
    data.length < 2 ^ g.header.countBits := by
  have hpos : 0 < 2 ^ g.header.countBits := Nat.two_pow_pos _
  unfold capacity at h
  omega

/-- The decoder returns as many entries as the header counts. -/
theorem length_of_decode_ok {C : LeafCodec Kind} {bs rest : List UInt8}
    (h : g.decode C bs = .ok data rest) : data.length = g.numInGroupAt C bs := by
  rcases decode_cases C g bs with ⟨-, hrun⟩ | ⟨-, hrun⟩ | ⟨-, cur, hrun⟩ | ⟨-, hrun⟩
  · cases h.symm.trans hrun
  · cases h.symm.trans hrun
  · cases h.symm.trans hrun
  · cases h.symm.trans hrun
    exact C.length_readRecords _ _ _

/-- Both readings of what should become of too many entries come down to their number:
an error instead of bytes, or bytes that are read back. -/
theorem encode_count_iff (g : Group) {data : g.Data} (hfits : ∀ r ∈ data, r.Forall Kind.Fits)
    {room : ℤ} (hroom : g.encodedSizeof data ≤ room) :
    ((g.capacity < data.length → ∃ e, g.encode (leafCodec p o) room data = .error e) ↔
      data.length ≤ g.capacity) ∧
    ((∀ out, g.encode (leafCodec p o) room data = .ok out →
        ∀ s, g.decode (leafCodec p o) (out ++ s) = .ok data s) ↔
      data.length ≤ g.capacity) := by
  have hrun := g.encode_of_le (leafCodec p o) hroom
  rw [hrun]
  constructor
  · constructor
    · intro h
      by_contra hlt
      obtain ⟨e, he⟩ := h (Nat.lt_of_not_le hlt)
      cases he
    · intro hle hlt
      exact absurd hle (Nat.not_le.mpr hlt)
  · constructor
    · intro h
      have hback := h _ rfl []
      have hcount := length_of_decode_ok hback
      rw [numInGroupAt_bytes] at hcount
      have hlt : data.length % 2 ^ g.header.countBits < 2 ^ g.header.countBits :=
        Nat.mod_lt _ (Nat.two_pow_pos _)
      unfold capacity
      omega
    · intro hle out hout s
      cases hout
      exact g.reads_decode p o ⟨hle, hfits⟩ s

/-- `n` entries of `ChannelReset4`. -/
def resets (n : ℕ) : resetEntries.Data := List.replicate n (.cons (7 : BitVec 16) .nil)

theorem length_resets (n : ℕ) : (resets n).length = n := List.length_replicate

theorem encodedSizeof_resets (n : ℕ) : resetEntries.encodedSizeof (resets n) = 3 + 2 * n :=
  congrArg (3 + 2 * ·) (length_resets n)

theorem fits_resets {n : ℕ} : ∀ r ∈ resets n, r.Forall Kind.Fits :=
  fun r _ => fits_of_no_timestamp (by decide) r

theorem encode_count_iff_resets :
    resetEntries.encode (leafCodec default .little) 7 (resets 2) = .ok [0, 0, 2, 7, 0, 7, 0] ∧
      resetEntries.decode (leafCodec default .little) ([0, 0, 2, 7, 0, 7, 0] ++ [9]) =
        .ok (resets 2) [9] := by
  have hroom : (resetEntries.encodedSizeof (resets 2) : ℤ) ≤ 7 := by decide
  have hback := (encode_count_iff default .little resetEntries fits_resets hroom).2.mpr (by decide)
  exact ⟨rfl, hback _ rfl [9]⟩

/-- 256 entries are counted as none. -/
theorem encode_count_wraps :
    (∃ out, resetEntries.encode (leafCodec default .little) 515 (resets 256) = .ok out ∧
      out.length = 515 ∧
      resetEntries.decode (leafCodec default .little) out = .ok [] (out.drop 3)) ∧
    ¬ ∀ (p : Platform) (o : ByteOrder) (g : Group) (data : g.Data) (room : ℤ),
      (∀ r ∈ data, r.Forall Kind.Fits) → g.encodedSizeof data ≤ room →
        g.capacity < data.length → ∃ e, g.encode (leafCodec p o) room data = .error e := by
  have hroom : (resetEntries.encodedSizeof (resets 256) : ℤ) ≤ 515 := by
    rw [encodedSizeof_resets]
    decide
  have hrun := resetEntries.encode_of_le (leafCodec default .little) hroom
  have hlen : (resetEntries.bytes (leafCodec default .little) (resets 256)).length = 515 := by
    rw [length_bytes, encodedSizeof_resets]
  have hnum : resetEntries.numInGroupAt (leafCodec default .little)
      (resetEntries.bytes (leafCodec default .little) (resets 256)) = 0 := by
    have hmod := numInGroupAt_bytes default .little resetEntries (resets 256) []
    rw [List.append_nil, length_resets] at hmod
    exact hmod
  refine ⟨⟨_, hrun, hlen, ?_⟩, fun h => ?_⟩
  · have hheader : resetEntries.headerSize = 3 := rfl
    have hcomplete : resetEntries.Complete (leafCodec default .little)
        (resetEntries.bytes (leafCodec default .little) (resets 256)) := by
      unfold Complete
      rw [hnum]
      omega
    rw [decode_of_complete _ hcomplete, extent, hnum]
    rfl
  · obtain ⟨e, he⟩ := h default .little resetEntries (resets 256) 515 fits_resets hroom
      (by rw [length_resets]; decide)
    rw [hrun] at he
    cases he

/-! ### The block length -/

section Stride
variable (C : LeafCodec Kind) (g : Group)

/-- What a reader finds that goes by the header: entry `i` at `i` times the block length. -/
def stridedEntries (bs : List UInt8) : g.Data :=
  (List.range (g.numInGroupAt C bs)).map fun i =>
    C.readRecord g.entry.layout (bs.drop (g.headerSize + i * g.blockLengthAt C bs))

/-- Where such a reader goes on. -/
def stridedEnd (bs : List UInt8) : ℕ :=
  g.headerSize + g.numInGroupAt C bs * g.blockLengthAt C bs

/-- The header describes the entries behind it, to every reader that goes by it, and is
the header of every image with this block length that the entries were decoded from. -/
structure Conformant (data : g.Data) (out : List UInt8) : Prop where
  numInGroup : g.numInGroupAt C out = data.length
  blockLength : g.blockLengthAt C out = g.entrySize
  entries : g.stridedEntries C out = data
  stop : g.stridedEnd C out = out.length
  recoded : ∀ image rest, g.decode C image = .ok data rest →
    g.blockLengthAt C image = g.entrySize →
      g.blockLengthAt C out = g.blockLengthAt C image ∧
        g.numInGroupAt C out = g.numInGroupAt C image

end Stride

/-- Records without bytes are all alike. -/
theorem eq_of_entrySize_eq_zero (hzero : g.entrySize = 0) {data data' : g.Data}
    (h : data.length = data'.length) : data = data' := by
  apply List.ext_getElem h
  intro i _ _
  exact eq_of_size_eq_zero hzero _ _

/-- The header is written with block length zero, which is the length of no entry but
one without bytes. -/
theorem encode_conformant_iff (g : Group) {data : g.Data} (hcount : data.length ≤ g.capacity)
    {room : ℤ} (hroom : g.encodedSizeof data ≤ room) :
    (∃ out, g.encode (leafCodec p o) room data = .ok out ∧
      g.Conformant (leafCodec p o) data out) ↔ g.entrySize = 0 := by
  have hrun := g.encode_of_le (leafCodec p o) hroom
  have hblock : g.blockLengthAt (leafCodec p o) (g.bytes (leafCodec p o) data) = 0 := by
    have h := blockLengthAt_bytes p o g data []
    rwa [List.append_nil] at h
  have hnum : g.numInGroupAt (leafCodec p o) (g.bytes (leafCodec p o) data) = data.length := by
    have h := numInGroupAt_bytes p o g data []
    rwa [List.append_nil, Nat.mod_eq_of_lt (lt_of_le_capacity hcount)] at h
  constructor
  · intro hwritten
    obtain ⟨out, hout, hconf⟩ := hwritten
    rw [hrun] at hout
    cases hout
    rw [← hconf.blockLength, hblock]
  · intro hzero
    refine ⟨_, hrun, hnum, by rw [hblock, hzero], ?_, ?_, ?_⟩
    · apply eq_of_entrySize_eq_zero hzero
      unfold stridedEntries
      rw [List.length_map, List.length_range, hnum]
    · rw [stridedEnd, hblock, length_bytes, encodedSizeof, hzero, Nat.mul_zero, Nat.zero_mul]
    · intro image rest hdecode himage
      rw [hblock, himage, hzero, hnum]
      exact ⟨rfl, length_of_decode_ok hdecode⟩

theorem encode_conformant_iff_resets :
    (∃ out, resetEntries.encode (leafCodec default .little) 5 (resets 1) = .ok out ∧
      resetEntries.Conformant (leafCodec default .little) (resets 1) out) ↔
      resetEntries.entrySize = 0 :=
  encode_conformant_iff default .little resetEntries (by decide) (by decide)

/-- The entries of both schema versions have bytes. -/
theorem entrySize_pos : ∀ T ∈ Cme.V9.messages.alternatives ++ Cme.V13.messages.alternatives,
    ∀ g ∈ T.groups, 0 < g.entrySize := by
  decide +kernel

/-- An entry read behind a header with its block length is written behind one without. -/
theorem encode_loses_blockLength :
    resetEntries.decode (leafCodec default .little) [2, 0, 1, 7, 0] = .ok (resets 1) [] ∧
    resetEntries.encode (leafCodec default .little) 5 (resets 1) = .ok [0, 0, 1, 7, 0] ∧
    ¬ ∀ (p : Platform) (o : ByteOrder) (g : Group) (data : g.Data) (room : ℤ),
      1 ≤ data.length → data.length ≤ g.capacity → g.encodedSizeof data ≤ room →
        ∃ out, g.encode (leafCodec p o) room data = .ok out ∧
          g.Conformant (leafCodec p o) data out := by
  have hrun : resetEntries.encode (leafCodec default .little) 5 (resets 1) =
      .ok [0, 0, 1, 7, 0] := rfl
  refine ⟨rfl, hrun, fun h => ?_⟩
  obtain ⟨out, hout, hconf⟩ := h default .little resetEntries (resets 1) 5 (by decide) (by decide)
    (by decide)
  rw [hrun] at hout
  cases hout
  exact absurd hconf.blockLength (by decide)

end Header
end Group
end MdPrsr
