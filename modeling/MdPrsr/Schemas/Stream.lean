import MdPrsr.Schemas
import MdPrsr.Cme.RoundTrip
import MdPrsr.Wire.Stream

/-!
# Messages on a stream

A caller may have the front of a stream only. Bytes that arrive later change neither a
message that was decoded nor an unknown type. Every other failure goes away once there
are enough of them: a message is never longer than its groups can announce.

Messages that are sent one after the other can be told apart: the bytes of a list of
messages are the bytes of no other list.
-/
namespace MdPrsr
open Wire

/-- The failure that more bytes do not cure. -/
def Fault.Final (fault : Fault) : Prop := fault = .unknownType

section Incremental
variable (C : LeafCodec Kind)

theorem Group.incremental_decode (g : Group) :
    Decoder.Incremental Fault.Final (g.decode C) := by
  have hlength : ¬ Fault.Final .lengthError := nofun
  have hoverrun : ¬ Fault.Final .overrun := nofun
  unfold decode
  apply (Decoder.incremental_demand hlength _).bind
  intro _
  apply (C.incremental_record hoverrun _).bind
  intro groupSize
  apply (Decoder.incremental_demand hlength _).bind
  intro _
  exact (C.incremental_record hoverrun _).times _

theorem Groups.incremental_decode (gs : List Group) :
    Decoder.Incremental Fault.Final (Groups.decode C gs) := by
  induction gs with
  | nil => exact Decoder.incremental_pure Groups.nil
  | cons g gs ih =>
    apply (g.incremental_decode C).bind
    intro data
    apply ih.bind
    intro rest
    exact Decoder.incremental_pure (Groups.cons data rest)

theorem Message.incremental_decode (m : Message) :
    Decoder.Incremental Fault.Final (m.decode C) := by
  have hshort : ¬ Fault.Final .tooShort := nofun
  have hoverrun : ¬ Fault.Final .overrun := nofun
  unfold decode
  apply (Decoder.incremental_demand hshort _).bind
  intro _
  apply (C.incremental_record hoverrun _).bind
  intro root
  apply (Groups.incremental_decode C m.groups).bind
  intro groups
  exact Decoder.incremental_pure (⟨root, groups⟩ : m.Val)

theorem Variant.incremental_decode (V : Variant) (p : Platform) :
    Decoder.Incremental Fault.Final (V.decode p) := by
  have hshort : ¬ Fault.Final .tooShort := nofun
  unfold decode
  apply ((Decoder.incremental_peek hshort _ _).map _).bind
  intro id
  cases V.select id with
  | none => exact Decoder.incremental_throw _
  | some m => exact (m.incremental_decode _).map _

end Incremental

/-! ### Enough bytes -/

/-- The most that the header of a group can announce, or that its entries can take. -/
def Group.longest (g : Group) : ℕ :=
  g.headerSize + max (2 ^ 16) g.entrySize * 2 ^ g.header.countBits

def Groups.longest (gs : List Group) : ℕ := (gs.map Group.longest).sum

/-- So many bytes are enough for a message, whatever stands in its group headers. -/
def Message.longest (m : Message) : ℕ := m.layout.size + Groups.longest m.groups

section Enough
variable (C : LeafCodec Kind)

theorem Group.complete_of_longest {g : Group} (hg : g.header.Narrow) {bs : List UInt8}
    (h : g.longest ≤ bs.length) : g.Complete C bs := by
  have hblock : g.blockLengthAt C bs ≤ max (2 ^ 16) g.entrySize :=
    (hg.blockLength_lt _).le.trans (Nat.le_max_left _ _)
  have hnum : g.numInGroupAt C bs ≤ 2 ^ g.header.countBits := (hg.numInGroup_lt _).le
  have hblocks := Nat.mul_le_mul hblock hnum
  have hentries := Nat.mul_le_mul (Nat.le_max_right (2 ^ 16) g.entrySize) hnum
  unfold longest at h
  unfold Complete
  omega

theorem Group.extent_le_longest {g : Group} (hg : g.header.Narrow) (bs : List UInt8) :
    g.extent C bs ≤ g.longest :=
  Nat.add_le_add_left (Nat.mul_le_mul (Nat.le_max_right _ _) (hg.numInGroup_lt _).le) _

theorem Groups.decode_of_longest {gs : List Group} (hgs : ∀ g ∈ gs, g.header.Narrow)
    {bs : List UInt8} (h : Groups.longest gs ≤ bs.length) :
    ∃ groups rest, Groups.decode C gs bs = .ok groups rest := by
  induction gs generalizing bs with
  | nil => exact ⟨Groups.nil, bs, rfl⟩
  | cons g gs ih =>
    have hg := hgs g List.mem_cons_self
    rw [longest, List.map_cons, List.sum_cons] at h
    have hcomplete : g.Complete C bs := Group.complete_of_longest C hg (by omega)
    have hextent := Group.extent_le_longest C hg bs
    have hbehind : longest gs ≤ (bs.drop (g.extent C bs)).length := by
      rw [List.length_drop, longest]
      omega
    obtain ⟨groups, rest, hrest⟩ := ih (fun g' hg' => hgs g' (List.mem_cons_of_mem g hg')) hbehind
    refine ⟨Groups.cons (C.readRecords g.entry.layout (g.numInGroupAt C bs)
      (bs.drop g.headerSize)) groups, rest, ?_⟩
    rw [Groups.decode, Decoder.bind_ok (Group.decode_of_complete C hcomplete),
      Decoder.bind_ok hrest]
    rfl

theorem Message.decode_of_longest {m : Message} (hm : ∀ g ∈ m.groups, g.header.Narrow)
    {bs : List UInt8} (h : m.longest ≤ bs.length) : ∃ v rest, m.decode C bs = .ok v rest := by
  unfold longest at h
  have hbehind : Groups.longest m.groups ≤ (bs.drop m.layout.size).length := by
    rw [List.length_drop]
    omega
  obtain ⟨groups, rest, hgroups⟩ := Groups.decode_of_longest C hm hbehind
  refine ⟨⟨C.readRecord m.layout bs, groups⟩, rest, ?_⟩
  rw [decode_of_root C (by omega), Decoder.bind_ok hgroups]
  rfl

end Enough

namespace Variant
variable {V : Variant} (p : Platform)

theorem idAt_append {bs : List UInt8} (h : V.idOffset + V.idType.width ≤ bs.length)
    (more : List UInt8) : V.idAt (bs ++ more) = V.idAt bs := by
  rw [idAt, idAt, List.drop_append_of_le_length (by omega),
    List.take_append_of_le_length (by rw [List.length_drop]; omega)]

/-- A failure behind a complete type id is that no alternative has it, or it goes away. -/
theorem decode_error_cured (hV : ∀ T ∈ V.alternatives, ∀ g ∈ T.groups, g.header.Narrow)
    {bs cur : List UInt8} {e : Fault} (hid : V.idOffset + V.idType.width ≤ bs.length)
    (h : V.decode p bs = .error e cur) (he : e ≠ .unknownType) :
    ∃ n, ∀ more : List UInt8, n ≤ more.length →
      ∃ a rest, V.decode p (bs ++ more) = .ok a rest := by
  by_cases hknown : ∃ T ∈ V.alternatives, T.typeId = V.idAt bs
  · obtain ⟨T, hT, htype⟩ := hknown
    refine ⟨T.longest, fun more hmore => ?_⟩
    have hlen : V.idOffset + V.idType.width ≤ (bs ++ more).length := by
      rw [List.length_append]
      omega
    have hlong : T.longest ≤ (bs ++ more).length := by
      rw [List.length_append]
      omega
    obtain ⟨v, rest, hv⟩ := Message.decode_of_longest (V.codec p) (hV T hT) hlong
    refine ⟨⟨T, v⟩, rest, ?_⟩
    rw [decode_of_idAt p hT hlen ((idAt_append hid more).trans htype.symm)]
    simp only [Functor.map, EStateM.map, hv]
  · rw [decode_of_unknown p hid (by simpa using hknown)] at h
    cases h
    exact (he rfl).elim

end Variant

/-- Later bytes change no decoded message and no unknown type, and of a buffer with its
type id enough of them cure every other failure. -/
theorem schemas_decode_growing (p : Platform) : ∀ V ∈ schemas, ∀ bs : List UInt8,
    (∀ more a rest, V.decode p bs = .ok a rest →
      V.decode p (bs ++ more) = .ok a (rest ++ more)) ∧
    (∀ more cur, V.decode p bs = .error .unknownType cur →
      V.decode p (bs ++ more) = .error .unknownType (cur ++ more)) ∧
    (V.idOffset + V.idType.width ≤ bs.length →
      ∀ e cur, V.decode p bs = .error e cur → e ≠ .unknownType →
        ∃ n, ∀ more : List UInt8, n ≤ more.length →
          ∃ a rest, V.decode p (bs ++ more) = .ok a rest) := by
  intro V hV bs
  have hincremental := V.incremental_decode p
  refine ⟨fun more _ _ h => hincremental.ok more h,
    fun more _ h => hincremental.error more rfl h, fun hid e cur h he => ?_⟩
  exact Variant.decode_error_cured p (narrow_of_schema V hV) hid h he

/-- A channel reset of two channels that ends inside the second. -/
theorem schemas_decode_growing_cut :
    ∃ n, ∀ more : List UInt8, n ≤ more.length → ∃ a rest,
      Cme.V13.messages.decode default
        ([0, 0, 9, 0, 4, 0] ++ List.replicate 13 0 ++ [2, 0, 2, 1, 0, 2] ++ more) = .ok a rest := by
  have h := schemas_decode_growing default Cme.V13.messages (by simp [schemas])
    ([0, 0, 9, 0, 4, 0] ++ List.replicate 13 0 ++ [2, 0, 2, 1, 0, 2])
  exact h.2.2 (by decide) .lengthError [1, 0, 2] (by rfl) (by decide)

/-! ### Lists of messages -/

namespace Variant

/-- A value that names its message and that the wire can carry. -/
structure Sendable (V : Variant) (a : Decoded) : Prop where
  mem : a.1 ∈ V.alternatives
  tagged : V.Tagged a.2
  carried : Message.Carried a.2

/-- The encodings of the messages, one after the other. -/
def stream (V : Variant) (p : Platform) (as : List Decoded) : List UInt8 :=
  as.flatMap fun a => Message.bytes (V.codec p) a.2

variable (V : Variant) (p : Platform)

theorem Sendable.reads {V : Variant} {a : Decoded} (h : V.Sendable a) :
    Decoder.Reads (V.decode p) (Message.bytes (V.codec p) a.2) a :=
  reads_bytes p h.mem h.tagged h.carried

/-- An empty buffer has no type id. -/
theorem decode_nil (a : Decoded) (rest : List UInt8) : V.decode p [] ≠ .ok a rest := by
  have hwidth : 0 < V.idType.width := by cases V.idType <;> decide
  rw [decode_of_lt p (by rw [List.length_nil]; omega)]
  exact nofun

/-- A stream is decoded into its messages, whatever follows it; it is the stream of no
other messages, and no other messages of the same number are at the front of it. -/
theorem stream_unique {as bs : List Decoded} (has : ∀ a ∈ as, V.Sendable a)
    (hbs : ∀ b ∈ bs, V.Sendable b) :
    (∀ s, Decoder.times (V.decode p) as.length (V.stream p as ++ s) = .ok as s) ∧
    (V.stream p as = V.stream p bs → as = bs) ∧
    ∀ s t, as.length = bs.length → V.stream p as ++ s = V.stream p bs ++ t → as = bs ∧ s = t := by
  have hreads : ∀ a ∈ as, Decoder.Reads (V.decode p) (Message.bytes (V.codec p) a.2) a :=
    fun a ha => (has a ha).reads p
  have hreads' : ∀ b ∈ bs, Decoder.Reads (V.decode p) (Message.bytes (V.codec p) b.2) b :=
    fun b hb => (hbs b hb).reads p
  refine ⟨fun s => Decoder.reads_times hreads s, fun h => ?_, fun s t hlen h => ?_⟩
  · exact Decoder.flatMap_injective hreads hreads' (V.decode_nil p) h
  · exact Decoder.flatMap_unique hreads hreads' hlen h

/-- Two channel resets, the one of two channels and the one of none. -/
theorem stream_unique_resets :
    Decoder.times (Cme.V13.messages.decode default) 2
      (Cme.V13.messages.stream default
        [⟨Cme.V13.channelReset4, Cme.V13.twoChannels⟩,
          ⟨Cme.V13.channelReset4, Cme.V13.manyChannels 0⟩] ++ [7]) =
      .ok [⟨Cme.V13.channelReset4, Cme.V13.twoChannels⟩,
        ⟨Cme.V13.channelReset4, Cme.V13.manyChannels 0⟩] [7] := by
  have hmem : Cme.V13.channelReset4 ∈ Cme.V13.messages.alternatives := mem_of_select 4 rfl
  have htwo : Cme.V13.messages.Sendable ⟨Cme.V13.channelReset4, Cme.V13.twoChannels⟩ :=
    ⟨hmem, rfl, Cme.V13.carried_of_count hmem ⟨by decide, trivial⟩⟩
  have hnone : Cme.V13.messages.Sendable ⟨Cme.V13.channelReset4, Cme.V13.manyChannels 0⟩ :=
    ⟨hmem, rfl, Cme.V13.carried_of_count hmem ⟨by decide, trivial⟩⟩
  have hall := List.forall_mem_cons.mpr ⟨htwo, List.forall_mem_singleton.mpr hnone⟩
  exact (stream_unique Cme.V13.messages default hall hall).1 [7]

end Variant
end MdPrsr
