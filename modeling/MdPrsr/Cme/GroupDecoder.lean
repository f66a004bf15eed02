import MdPrsr.Cme.Messages

/-!
# The group decoder on arbitrary buffers

The decoder of `sbe::group` has two ideas of how long an entry is: its guard
multiplies the number of entries by the `blockLength` of the header, while its
loop steps by the encoded size of the entry type. `decode_cases` says what it does
with every buffer; what follows says when the two ideas agree well enough for it
to stay inside the buffer and to find the blocks, and where a failed decode
leaves the cursor.
-/
namespace MdPrsr
open Wire

namespace Group
section
variable (C : LeafCodec Kind) (g : Group)

/-- The header that the buffer starts with. -/
def headerAt (bs : List UInt8) : Record g.header.struct.layout :=
  C.readRecord g.header.struct.layout bs

def blockLengthAt (bs : List UInt8) : ℕ := g.header.blockLength (g.headerAt C bs)

def numInGroupAt (bs : List UInt8) : ℕ := g.header.numInGroup (g.headerAt C bs)

/-- There is a header, and less behind it than it announces. -/
def BlocksShort (bs : List UInt8) : Prop :=
  g.headerSize ≤ bs.length ∧
    bs.length - g.headerSize < g.blockLengthAt C bs * g.numInGroupAt C bs

/-- There is a header and all it announces, but less than the entries take. -/
def EntriesShort (bs : List UInt8) : Prop :=
  g.headerSize ≤ bs.length ∧
    g.blockLengthAt C bs * g.numInGroupAt C bs ≤ bs.length - g.headerSize ∧
      bs.length - g.headerSize < g.entrySize * g.numInGroupAt C bs

/-- There is a header, all it announces and all that the entries take. -/
def Complete (bs : List UInt8) : Prop :=
  g.headerSize ≤ bs.length ∧
    g.blockLengthAt C bs * g.numInGroupAt C bs ≤ bs.length - g.headerSize ∧
      g.entrySize * g.numInGroupAt C bs ≤ bs.length - g.headerSize

instance (bs : List UInt8) : Decidable (g.BlocksShort C bs) := inferInstanceAs (Decidable (_ ∧ _))

instance (bs : List UInt8) : Decidable (g.EntriesShort C bs) := inferInstanceAs (Decidable (_ ∧ _))

/-- The bytes of the header and of the entries it counts. -/
def extent (bs : List UInt8) : ℕ := g.headerSize + g.entrySize * g.numInGroupAt C bs

variable {g} {bs : List UInt8}

theorem headerAt_append (h : g.headerSize ≤ bs.length) (rest : List UInt8) :
    g.headerAt C (bs ++ rest) = g.headerAt C bs := C.readRecord_append h rest

/-! ### What the decoder does with a buffer -/

theorem decode_of_short (h : bs.length < g.headerSize) :
    g.decode C bs = .error .lengthError bs := by
  rw [decode, Decoder.bind_error (Decoder.demand_of_lt _ h)]

theorem decode_of_blocks_short (h : g.BlocksShort C bs) :
    g.decode C bs = .error .lengthError (bs.drop g.headerSize) := by
  obtain ⟨hsize, hblocks⟩ := h
  have hlt : (bs.drop g.headerSize).length <
      g.header.blockLength (g.headerAt C bs) * g.header.numInGroup (g.headerAt C bs) := by
    rw [List.length_drop]
    exact hblocks
  rw [decode, Decoder.bind_ok (Decoder.demand_of_le _ hsize),
    Decoder.bind_ok (C.record_of_le _ hsize)]
  exact Decoder.bind_error (Decoder.demand_of_lt _ hlt)

/-- Behind the guards the decoder is its loop. -/
theorem decode_of_guards (hsize : g.headerSize ≤ bs.length)
    (hblocks : g.blockLengthAt C bs * g.numInGroupAt C bs ≤ bs.length - g.headerSize) :
    g.decode C bs =
      Decoder.times (C.record .overrun g.entry.layout) (g.numInGroupAt C bs)
        (bs.drop g.headerSize) := by
  apply g.decode_of_header C hsize (C.record_of_le _ hsize)
  rw [List.length_drop]
  exact hblocks

theorem decode_of_entries_short (h : g.EntriesShort C bs) :
    ∃ cur, g.decode C bs = .error .overrun cur := by
  obtain ⟨hsize, hblocks, hentries⟩ := h
  rw [decode_of_guards C hsize hblocks]
  apply C.times_record_of_lt
  rw [List.length_drop]
  exact hentries

theorem decode_of_complete (h : g.Complete C bs) :
    g.decode C bs =
      .ok (C.readRecords g.entry.layout (g.numInGroupAt C bs) (bs.drop g.headerSize))
        (bs.drop (g.extent C bs)) := by
  obtain ⟨hsize, hblocks, hentries⟩ := h
  have hle : g.entry.layout.size * g.numInGroupAt C bs ≤ (bs.drop g.headerSize).length := by
    rw [List.length_drop]
    exact hentries
  rw [decode_of_guards C hsize hblocks, C.times_record_of_le _ hle, List.drop_drop]
  rfl

/-- No buffer is treated in another way. -/
theorem decode_cases (g : Group) (bs : List UInt8) :
    bs.length < g.headerSize ∧ g.decode C bs = .error .lengthError bs ∨
      g.BlocksShort C bs ∧ g.decode C bs = .error .lengthError (bs.drop g.headerSize) ∨
      g.EntriesShort C bs ∧ (∃ cur, g.decode C bs = .error .overrun cur) ∨
      g.Complete C bs ∧ g.decode C bs =
        .ok (C.readRecords g.entry.layout (g.numInGroupAt C bs) (bs.drop g.headerSize))
          (bs.drop (g.extent C bs)) := by
  by_cases hshort : bs.length < g.headerSize
  · exact .inl ⟨hshort, decode_of_short C hshort⟩
  by_cases hblocks : g.BlocksShort C bs
  · exact .inr (.inl ⟨hblocks, decode_of_blocks_short C hblocks⟩)
  by_cases hentries : g.EntriesShort C bs
  · exact .inr (.inr (.inl ⟨hentries, decode_of_entries_short C hentries⟩))
  · have hcomplete : g.Complete C bs := by
      unfold BlocksShort at hblocks
      unfold EntriesShort at hentries
      unfold Complete
      omega
    exact .inr (.inr (.inr ⟨hcomplete, decode_of_complete C hcomplete⟩))

/-- The decoder throws `length_error` where one of its guards fails, and nowhere else. -/
theorem decode_lengthError_iff (g : Group) (bs : List UInt8) :
    (∃ cur, g.decode C bs = .error .lengthError cur) ↔
      bs.length < g.headerSize ∨ g.BlocksShort C bs := by
  constructor
  · intro hfails
    obtain ⟨cur, herror⟩ := hfails
    rcases decode_cases C g bs with ⟨h, -⟩ | ⟨h, -⟩ | ⟨-, cur', hrun⟩ | ⟨-, hrun⟩
    · exact .inl h
    · exact .inr h
    · cases hrun.symm.trans herror
    · cases hrun.symm.trans herror
  · intro hfails
    rcases hfails with h | h
    · exact ⟨_, decode_of_short C h⟩
    · exact ⟨_, decode_of_blocks_short C h⟩

theorem Complete.not_entriesShort (h : g.Complete C bs) : ¬ g.EntriesShort C bs :=
  fun hshort => absurd hshort.2.2 (Nat.not_lt.mpr h.2.2)

theorem forward_decode : Decoder.Forward (g.decode C) := by
  unfold decode
  apply (Decoder.forward_demand _ _).bind
  intro _
  apply (C.forward_record _ _).bind
  intro groupSize
  apply (Decoder.forward_demand _ _).bind
  intro _
  exact (C.forward_record _ _).times _

end
end Group

/-! ### Staying inside the buffer -/

/-- One of the groups is reached at a place where its header announces less than
its entries take, and the buffer ends in between. -/
def Groups.EntriesShort (C : LeafCodec Kind) : List Group → List UInt8 → Prop
  | [], _ => False
  | g :: gs, bs =>
      g.EntriesShort C bs ∨
        g.headerSize ≤ bs.length ∧
          g.blockLengthAt C bs * g.numInGroupAt C bs ≤ bs.length - g.headerSize ∧
            Groups.EntriesShort C gs (bs.drop (g.extent C bs))

theorem Groups.forward_decode (C : LeafCodec Kind) (gs : List Group) :
    Decoder.Forward (Groups.decode C gs) := by
  induction gs with
  | nil => exact Decoder.forward_pure Groups.nil
  | cons g gs ih =>
    apply (Group.forward_decode C).bind
    intro data
    apply ih.bind
    intro rest
    exact Decoder.forward_pure (Groups.cons data rest)

theorem Groups.decode_cons_of_error (C : LeafCodec Kind) {g : Group} (gs : List Group)
    {bs cur : List UInt8} {e : Fault} (h : g.decode C bs = .error e cur) :
    Groups.decode C (g :: gs) bs = .error e cur := by
  rw [Groups.decode, Decoder.bind_error h]

theorem Group.within_decode_iff (C : LeafCodec Kind) (g : Group) (bs : List UInt8) :
    Decoder.Within Fault.lengthError (g.decode C) bs ↔ ¬ g.EntriesShort C bs := by
  constructor
  · intro h hshort
    obtain ⟨cur, hrun⟩ := Group.decode_of_entries_short C hshort
    exact Decoder.not_within_of_error (by decide) hrun h
  · intro hshort
    rcases Group.decode_cases C g bs with
      ⟨-, hrun⟩ | ⟨-, hrun⟩ | ⟨hentries, -⟩ | ⟨-, hrun⟩
    · exact Decoder.within_of_error hrun
    · exact Decoder.within_of_error hrun
    · exact (hshort hentries).elim
    · exact Decoder.within_of_ok hrun (List.drop_suffix _ _)

theorem Groups.within_decode_iff (C : LeafCodec Kind) (gs : List Group) (bs : List UInt8) :
    Decoder.Within Fault.lengthError (Groups.decode C gs) bs ↔ ¬ Groups.EntriesShort C gs bs := by
  induction gs generalizing bs with
  | nil => exact iff_of_true (Decoder.within_of_ok (a := Groups.nil) rfl List.suffix_rfl) id
  | cons g gs ih =>
    rcases Group.decode_cases C g bs with
      ⟨h, hrun⟩ | ⟨h, hrun⟩ | ⟨h, cur, hrun⟩ | ⟨h, hrun⟩
    · apply iff_of_true (Decoder.within_of_error (Groups.decode_cons_of_error C gs hrun))
      unfold Groups.EntriesShort Group.EntriesShort
      omega
    · apply iff_of_true (Decoder.within_of_error (Groups.decode_cons_of_error C gs hrun))
      obtain ⟨hsize, hblocks⟩ := h
      unfold Groups.EntriesShort Group.EntriesShort
      omega
    · have hcons := Groups.decode_cons_of_error C gs hrun
      exact iff_of_false (Decoder.not_within_of_error (by decide) hcons) (not_not_intro (.inl h))
    · have hforward (data : g.Data) :
          Decoder.Forward (Groups.decode C gs >>= fun rest => pure (Groups.cons data rest)) :=
        (Groups.forward_decode C gs).bind fun rest => Decoder.forward_pure (Groups.cons data rest)
      have hfits := h.not_entriesShort C
      obtain ⟨hsize, hblocks, -⟩ := h
      rw [Groups.decode, Decoder.within_bind_iff _ hrun (List.drop_suffix _ _) (hforward _),
        Decoder.within_bind_pure_iff, ih, Groups.EntriesShort]
      simp [hfits, hsize, hblocks]

/-- A group, or a sequence of groups, is decoded inside the buffer or rejected, unless a
header passes both guards and its entries do not fit behind it. -/
theorem Groups.decode_within_iff (C : LeafCodec Kind) :
    (∀ (g : Group) (bs : List UInt8),
      Decoder.Within Fault.lengthError (g.decode C) bs ↔ ¬ g.EntriesShort C bs) ∧
    ∀ (gs : List Group) (bs : List UInt8),
      Decoder.Within Fault.lengthError (Groups.decode C gs) bs ↔ ¬ Groups.EntriesShort C gs bs :=
  ⟨Group.within_decode_iff C, Groups.within_decode_iff C⟩

/-- The group of `ChannelReset4`: entries of two bytes behind a header of three. -/
def resetEntries : Group :=
  ⟨"noMDEntries", Cme.V13.channelReset4.noMDEntries, Cme.V13.groupSize⟩

example : Cme.V13.channelReset4.groups = [resetEntries] := rfl

/-- A header of one entry with block length zero at the end of the buffer. -/
theorem Groups.decode_overruns :
    resetEntries.decode (leafCodec default .little) [0, 0, 1] = .error .overrun [] ∧
      ¬ ∀ (C : LeafCodec Kind) (g : Group) (bs : List UInt8),
        Decoder.Within Fault.lengthError (g.decode C) bs := by
  have hrun : resetEntries.decode (leafCodec default .little) [0, 0, 1] =
      .error .overrun [] := rfl
  refine ⟨hrun, fun h => ?_⟩
  exact Decoder.not_within_of_error (by decide) hrun
    (h (leafCodec default .little) resetEntries [0, 0, 1])

/-! ### Blocks longer than the entries -/

namespace Group

/-- What a header announces stands behind it in blocks. -/
structure Blocks (C : LeafCodec Kind) (g : Group) (head : List UInt8)
    (blocks : List (List UInt8)) : Prop where
  head_length : head.length = g.headerSize
  count : g.numInGroupAt C head = blocks.length
  block_length : ∀ b ∈ blocks, b.length = g.blockLengthAt C head
  fits : g.entrySize ≤ g.blockLengthAt C head

/-- The loop reads the entries without gaps, as if the blocks were not longer. -/
theorem decode_blocks {C : LeafCodec Kind} {g : Group} {head : List UInt8}
    {blocks : List (List UInt8)} (h : g.Blocks C head blocks) (rest : List UInt8) :
    g.decode C (head ++ (blocks.flatten ++ rest)) =
      .ok (C.readRecords g.entry.layout blocks.length (blocks.flatten ++ rest))
        ((blocks.flatten ++ rest).drop (g.entrySize * blocks.length)) := by
  have hlen := LeafCodec.length_flatten_of_forall h.block_length
  have hheader := headerAt_append C h.head_length.ge (blocks.flatten ++ rest)
  have hnum : g.numInGroupAt C (head ++ (blocks.flatten ++ rest)) = blocks.length :=
    (congrArg g.header.numInGroup hheader).trans h.count
  have hblock : g.blockLengthAt C (head ++ (blocks.flatten ++ rest)) = g.blockLengthAt C head :=
    congrArg g.header.blockLength hheader
  have hbehind : (head ++ (blocks.flatten ++ rest)).length - g.headerSize =
      g.blockLengthAt C head * blocks.length + rest.length := by
    rw [List.length_append, List.length_append, hlen, h.head_length, Nat.add_sub_cancel_left]
  have hmul : g.entrySize * blocks.length ≤ g.blockLengthAt C head * blocks.length :=
    Nat.mul_le_mul_right _ h.fits
  have hsize : g.headerSize ≤ (head ++ (blocks.flatten ++ rest)).length := by
    rw [List.length_append, h.head_length]
    exact Nat.le_add_right _ _
  have hcomplete : g.Complete C (head ++ (blocks.flatten ++ rest)) := by
    unfold Complete
    rw [hblock, hnum, hbehind]
    omega
  have hrun := decode_of_complete C hcomplete
  rw [extent, hnum, ← List.drop_drop, List.drop_left' h.head_length] at hrun
  exact hrun

/-- The entries are found at the stride of the header exactly when they fill their
blocks, or when there are none. -/
theorem decode_stride_iff {C : LeafCodec Kind} {g : Group} {head : List UInt8}
    {blocks : List (List UInt8)} (h : g.Blocks C head blocks) (rest : List UInt8) :
    g.decode C (head ++ (blocks.flatten ++ rest)) =
        .ok (blocks.map fun b => C.readRecord g.entry.layout (b.take g.entrySize)) rest ↔
      blocks = [] ∨ g.blockLengthAt C head = g.entrySize := by
  rw [decode_blocks h]
  constructor
  · intro heq
    injection heq with _ hrest
    have hlen := congrArg List.length hrest
    rw [List.length_drop, List.length_append,
      LeafCodec.length_flatten_of_forall h.block_length] at hlen
    have hmul : g.entrySize * blocks.length ≤ g.blockLengthAt C head * blocks.length :=
      Nat.mul_le_mul_right _ h.fits
    have hsame : g.blockLengthAt C head * blocks.length = g.entrySize * blocks.length := by omega
    rcases Nat.eq_zero_or_pos blocks.length with hzero | hpos
    · exact .inl (List.length_eq_zero_iff.mp hzero)
    · exact .inr (Nat.eq_of_mul_eq_mul_right hpos hsame)
  · intro hstride
    rcases hstride with rfl | hsame
    · rfl
    · have hfill : ∀ b ∈ blocks, b.length = g.entry.layout.size := fun b hb =>
        (h.block_length b hb).trans hsame
      have htake : blocks.map (fun b => C.readRecord g.entry.layout (b.take g.entrySize)) =
          blocks.map (C.readRecord g.entry.layout) :=
        List.map_congr_left fun b _ => C.readRecord_take g.entry.layout b
      have hlen : blocks.flatten.length = g.entrySize * blocks.length :=
        LeafCodec.length_flatten_of_forall hfill
      rw [C.readRecords_flatten hfill, htake, List.drop_left' hlen]

theorem decode_stride_iff_filled :
    resetEntries.decode (leafCodec default .little)
        ([2, 0, 2] ++ ([[1, 0], [2, 0]].flatten ++ [7])) =
      .ok [.cons (1 : BitVec 16) .nil, .cons (2 : BitVec 16) .nil] [7] := by
  have h : resetEntries.Blocks (leafCodec default .little) [2, 0, 2] [[1, 0], [2, 0]] :=
    ⟨rfl, rfl, by decide, by decide⟩
  exact (decode_stride_iff h [7]).mpr (.inr rfl)

/-- Two entries in blocks of four bytes: the second is read from inside the first block. -/
theorem decode_stride_lost :
    resetEntries.decode (leafCodec default .little)
        ([4, 0, 2] ++ ([[1, 0, 9, 9], [2, 0, 9, 9]].flatten ++ [])) =
      .ok [.cons (1 : BitVec 16) .nil, .cons (0x0909 : BitVec 16) .nil] [2, 0, 9, 9] ∧
    ¬ ∀ (C : LeafCodec Kind) (g : Group) (head : List UInt8) (blocks : List (List UInt8))
      (rest : List UInt8), g.Blocks C head blocks →
        g.decode C (head ++ (blocks.flatten ++ rest)) =
          .ok (blocks.map fun b => C.readRecord g.entry.layout (b.take g.entrySize)) rest := by
  have hrun : resetEntries.decode (leafCodec default .little)
        ([4, 0, 2] ++ ([[1, 0, 9, 9], [2, 0, 9, 9]].flatten ++ [])) =
      .ok [.cons (1 : BitVec 16) .nil, .cons (0x0909 : BitVec 16) .nil] [2, 0, 9, 9] := rfl
  refine ⟨hrun, fun h => ?_⟩
  have hstride := h (leafCodec default .little) resetEntries [4, 0, 2]
    [[1, 0, 9, 9], [2, 0, 9, 9]] [] ⟨rfl, rfl, by decide, by decide⟩
  rw [hrun] at hstride
  injection hstride with _ hrest
  cases hrest

/-! ### Where a failure leaves the cursor -/

/-- A header without bytes announces nothing. -/
theorem headerSize_pos_of_blocksShort {C : LeafCodec Kind} {g : Group} {bs : List UInt8}
    (h : g.BlocksShort C bs) : 0 < g.headerSize := by
  rw [Nat.pos_iff_ne_zero]
  intro hzero
  have hsized : g.headerAt C bs = g.header.sized 0 := eq_of_size_eq_zero hzero _ _
  have hblock : g.blockLengthAt C bs = 0 := by
    rw [blockLengthAt, hsized, g.header.blockLength_sized]
  have hlt := h.2
  rw [hblock, Nat.zero_mul] at hlt
  exact Nat.not_lt_zero _ hlt

/-- The cursor is where it was, and decoding can be tried again with more bytes, unless it
is the second guard that failed. -/
theorem decode_restores_iff (C : LeafCodec Kind) (g : Group) (bs : List UInt8) :
    (∀ cur, g.decode C bs = .error .lengthError cur →
      cur = bs ∧ ∀ more, g.decode C (cur ++ more) = g.decode C (bs ++ more)) ↔
      ¬ g.BlocksShort C bs := by
  constructor
  · intro h hshort
    have hpos := headerSize_pos_of_blocksShort hshort
    have hcur := congrArg List.length (h _ (decode_of_blocks_short C hshort)).1
    have hsize := hshort.1
    rw [List.length_drop] at hcur
    omega
  · intro hshort cur hcur
    have hsame : cur = bs := by
      rcases decode_cases C g bs with
        ⟨-, hrun⟩ | ⟨hblocks, -⟩ | ⟨-, cur', hrun⟩ | ⟨-, hrun⟩
      · cases hcur.symm.trans hrun
        rfl
      · exact (hshort hblocks).elim
      · cases hcur.symm.trans hrun
      · cases hcur.symm.trans hrun
    refine ⟨hsame, fun more => ?_⟩
    rw [hsame]

/-- The header of an entry that is still to come is lost: the second try takes the
entry for a header. -/
theorem decode_loses_header :
    resetEntries.decode (leafCodec default .little) [2, 0, 1] = .error .lengthError [] ∧
    resetEntries.decode (leafCodec default .little) ([] ++ [7, 0]) = .error .lengthError [7, 0] ∧
    resetEntries.decode (leafCodec default .little) ([2, 0, 1] ++ [7, 0]) =
      .ok [.cons (7 : BitVec 16) .nil] [] ∧
    ¬ ∀ (C : LeafCodec Kind) (g : Group) (bs cur : List UInt8),
      g.decode C bs = .error .lengthError cur →
        cur = bs ∧ ∀ more, g.decode C (cur ++ more) = g.decode C (bs ++ more) := by
  have hrun : resetEntries.decode (leafCodec default .little) [2, 0, 1] =
      .error .lengthError [] := rfl
  refine ⟨hrun, rfl, rfl, fun h => ?_⟩
  have hcur := (h _ _ _ _ hrun).1
  cases hcur

end Group
end MdPrsr
