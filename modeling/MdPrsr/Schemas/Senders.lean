import MdPrsr.Schemas.Stream

/-!
# Messages of other senders

The encoder leaves the block length of a group zero. Other senders announce the length of
their entries there, and the headers of some groups have padding besides. The decoder does
not need the block length: it compares what is announced with what is left of the buffer.
So the messages of another sender are decoded as long as no header announces more than
the message has behind it.
-/
namespace MdPrsr
open Wire

/-- The groups of a message, each with the header that its sender has given it. -/
inductive SentGroups : List Group → Type
  | nil : SentGroups []
  | cons {g : Group} {gs : List Group} (header : Record g.header.struct.layout) (data : g.Data)
      (rest : SentGroups gs) : SentGroups (g :: gs)

namespace SentGroups

def groups {gs : List Group} : SentGroups gs → Groups gs
  | .nil => .nil
  | .cons _ data rest => .cons data rest.groups

/-- Every header has the number of the entries. -/
def Counted {gs : List Group} : SentGroups gs → Prop
  | .nil => True
  | .cons (g := g) header data rest => g.header.numInGroup header = data.length ∧ rest.Counted

/-- No header announces more bytes than the message has behind it. -/
def Announced {gs : List Group} : SentGroups gs → Prop
  | .nil => True
  | .cons (g := g) header data rest =>
      g.header.announced header ≤ g.entrySize * data.length + rest.groups.encodedSizeof ∧
        rest.Announced

/-- Every block length is the size of the entries. -/
def Standard {gs : List Group} : SentGroups gs → Prop
  | .nil => True
  | .cons (g := g) header _ rest => g.header.blockLength header = g.entrySize ∧ rest.Standard

theorem announced_of_standard {gs : List Group} {sent : SentGroups gs} (hcounted : sent.Counted)
    (h : sent.Standard) : sent.Announced := by
  induction sent with
  | nil => trivial
  | cons header data rest ih =>
    obtain ⟨hcount, hcounted⟩ := hcounted
    obtain ⟨hblock, h⟩ := h
    refine ⟨?_, ih hcounted h⟩
    rw [GroupSize.announced, hblock, hcount]
    exact Nat.le_add_right _ _

def bytes (C : LeafCodec Kind) {gs : List Group} : SentGroups gs → List UInt8
  | .nil => []
  | .cons header data rest =>
      C.writeRecord header ++ (data.flatMap C.writeRecord ++ rest.bytes C)

section Decoding
variable (p : Platform) (o : ByteOrder)

/-- Entries are found one behind the other. -/
theorem readRecords_flatMap {L : Layout Kind} {rs : List (Record L)}
    (h : ∀ r ∈ rs, r.Forall Kind.Fits) (rest : List UInt8) :
    (leafCodec p o).readRecords L rs.length
      (rs.flatMap (leafCodec p o).writeRecord ++ rest) = rs := by
  induction rs generalizing rest with
  | nil => rfl
  | cons r rs ih =>
    obtain ⟨hr, hrs⟩ := List.forall_mem_cons.mp h
    rw [List.flatMap_cons, List.append_assoc, List.length_cons, LeafCodec.readRecords,
      (leafCodec p o).readRecord_writeRecord (faithful_of_fits p o hr),
      List.drop_left' ((leafCodec p o).length_writeRecord r), ih hrs]

theorem length_flatMap {C : LeafCodec Kind} {L : Layout Kind} (rs : List (Record L)) :
    (rs.flatMap C.writeRecord).length = L.size * rs.length := by
  induction rs with
  | nil => rfl
  | cons r rs ih =>
    rw [List.flatMap_cons, List.length_append, ih, C.length_writeRecord, List.length_cons,
      Nat.mul_succ, Nat.add_comm]

theorem length_bytes {C : LeafCodec Kind} {gs : List Group} (sent : SentGroups gs) :
    (sent.bytes C).length = sent.groups.encodedSizeof := by
  induction sent with
  | nil => rfl
  | cons header data rest ih =>
    rw [bytes, List.length_append, List.length_append, C.length_writeRecord, length_flatMap, ih,
      groups, Groups.encodedSizeof, Group.encodedSizeof, ← Nat.add_assoc]
    rfl

section Group
variable {g : Group} {header : Record g.header.struct.layout} {data : g.Data} (bs : List UInt8)

/-- A header, entries and what follows them. -/
def front (C : LeafCodec Kind) (header : Record g.header.struct.layout) (data : g.Data)
    (bs : List UInt8) : List UInt8 :=
  C.writeRecord header ++ (data.flatMap C.writeRecord ++ bs)

theorem headerAt_front :
    g.headerAt (leafCodec p o) (front (leafCodec p o) header data bs) = header :=
  (leafCodec p o).readRecord_writeRecord
    (faithful_of_fits p o (fits_of_no_timestamp g.header.untimed header)) _

theorem complete_front_iff (hcount : g.header.numInGroup header = data.length) :
    g.Complete (leafCodec p o) (front (leafCodec p o) header data bs) ↔
      g.header.announced header ≤ g.entrySize * data.length + bs.length := by
  have hhead : ((leafCodec p o).writeRecord header).length = g.headerSize :=
    (leafCodec p o).length_writeRecord header
  have hentries : (data.flatMap (leafCodec p o).writeRecord).length =
      g.entrySize * data.length := length_flatMap data
  rw [Group.Complete, Group.blockLengthAt, Group.numInGroupAt, headerAt_front, hcount,
    GroupSize.announced, hcount, front, List.length_append, List.length_append, hhead, hentries]
  omega

theorem decode_front (hdata : ∀ r ∈ data, r.Forall Kind.Fits)
    (hcount : g.header.numInGroup header = data.length)
    (hfits : g.header.announced header ≤ g.entrySize * data.length + bs.length) :
    g.decode (leafCodec p o) (front (leafCodec p o) header data bs) = .ok data bs := by
  have hhead : ((leafCodec p o).writeRecord header).length = g.headerSize :=
    (leafCodec p o).length_writeRecord header
  have hentries : (data.flatMap (leafCodec p o).writeRecord).length =
      g.entrySize * data.length := length_flatMap data
  have hrun := Group.decode_of_complete (leafCodec p o) ((complete_front_iff p o bs hcount).mpr hfits)
  rw [Group.extent, Group.numInGroupAt, headerAt_front, hcount, ← List.drop_drop] at hrun
  rw [hrun, front, List.drop_left' hhead, readRecords_flatMap p o hdata, List.drop_left' hentries]

/-- The entries are found exactly when the header counts them and announces no more than
there is. -/
theorem decode_front_iff (hdata : ∀ r ∈ data, r.Forall Kind.Fits) :
    (∃ rest, g.decode (leafCodec p o) (front (leafCodec p o) header data bs) = .ok data rest) ↔
      g.header.numInGroup header = data.length ∧
        g.header.announced header ≤ g.entrySize * data.length + bs.length := by
  constructor
  · rintro ⟨rest, hgroup⟩
    rcases Group.decode_cases (leafCodec p o) g (front (leafCodec p o) header data bs) with
      ⟨-, hrun⟩ | ⟨-, hrun⟩ | ⟨-, _, hrun⟩ | ⟨hcomplete, hrun⟩
    · cases hrun.symm.trans hgroup
    · cases hrun.symm.trans hgroup
    · cases hrun.symm.trans hgroup
    · injection hrun.symm.trans hgroup with hentries
      have hcount := congrArg List.length hentries
      rw [(leafCodec p o).length_readRecords, Group.numInGroupAt, headerAt_front] at hcount
      exact ⟨hcount, (complete_front_iff p o bs hcount).mp hcomplete⟩
  · rintro ⟨hcount, hfits⟩
    exact ⟨bs, decode_front p o bs hdata hcount hfits⟩

end Group

theorem decode_iff {gs : List Group} {sent : SentGroups gs}
    (h : sent.groups.Forall fun _ data => ∀ r ∈ data, r.Forall Kind.Fits) :
    (∀ s, Groups.decode (leafCodec p o) gs (sent.bytes (leafCodec p o) ++ s) =
      .ok sent.groups s) ↔ sent.Counted ∧ sent.Announced := by
  induction sent with
  | nil => exact iff_of_true (fun _ => rfl) ⟨trivial, trivial⟩
  | @cons g gs header data rest ih =>
    obtain ⟨hdata, h⟩ := h
    have hbytes (s : List UInt8) :
        (SentGroups.cons header data rest).bytes (leafCodec p o) ++ s =
          front (leafCodec p o) header data (rest.bytes (leafCodec p o) ++ s) := by
      rw [bytes, front, List.append_assoc, List.append_assoc]
    have hlength (s : List UInt8) : (rest.bytes (leafCodec p o) ++ s).length =
        rest.groups.encodedSizeof + s.length := by
      rw [List.length_append, length_bytes]
    constructor
    · intro hall
      have hfirst (s : List UInt8) : (g.header.numInGroup header = data.length ∧
          g.header.announced header ≤
            g.entrySize * data.length + (rest.groups.encodedSizeof + s.length)) ∧
          Groups.decode (leafCodec p o) gs (rest.bytes (leafCodec p o) ++ s) =
            .ok rest.groups s := by
        have hs := hall s
        rw [hbytes] at hs
        obtain ⟨data', mid, hgroup, hbehind⟩ := Decoder.exists_of_bind_ok hs
        obtain ⟨rest', mid', hrest, hpure⟩ := Decoder.exists_of_bind_ok hbehind
        cases hpure
        obtain ⟨hcount, hfits⟩ := (decode_front_iff p o _ hdata).mp ⟨mid, hgroup⟩
        cases hgroup.symm.trans (decode_front p o _ hdata hcount hfits)
        rw [hlength] at hfits
        exact ⟨⟨hcount, hfits⟩, hrest⟩
      obtain ⟨hcounted, hannounced⟩ := (ih h).mp fun s => (hfirst s).2
      obtain ⟨hcount, hfits⟩ := (hfirst []).1
      exact ⟨⟨hcount, hcounted⟩, hfits, hannounced⟩
    · rintro ⟨⟨hcount, hcounted⟩, hfits, hannounced⟩ s
      have hgroup := decode_front p o (rest.bytes (leafCodec p o) ++ s) hdata hcount
        (by rw [hlength]; omega)
      have hrest := (ih h).mpr ⟨hcounted, hannounced⟩ s
      rw [hbytes, Groups.decode, Decoder.bind_ok hgroup, Decoder.bind_ok hrest]
      rfl

end Decoding
end SentGroups

namespace Variant
variable (V : Variant) (p : Platform)

/-- A buffer that starts with the fixed members of a message is decoded as that message,
with the groups that are found behind them. -/
theorem decode_root {T : Message} {v : T.Val} (h : V.Sendable ⟨T, v⟩) (bs : List UInt8) :
    V.decode p ((V.codec p).writeRecord v.root ++ bs) =
      ((fun groups => (⟨T, v.root, groups⟩ : Decoded)) <$> Groups.decode (V.codec p) T.groups)
        bs := by
  have hsize := (V.codec p).length_writeRecord v.root
  have hid : V.idOffset + V.idType.width ≤ T.layout.size := id_le_size h.mem
  have hroot : (V.codec p).readRecord T.layout ((V.codec p).writeRecord v.root ++ bs) = v.root :=
    (V.codec p).readRecord_writeRecord (faithful_of_fits p V.order h.carried.1) bs
  have hidAt : V.idAt ((V.codec p).writeRecord v.root ++ bs) = T.typeId := by
    rw [idAt_append (by omega), ← idAt_append (by omega) (v.groups.bytes (V.codec p) ++ []),
      ← List.append_assoc]
    exact idAt_bytes p h.mem h.tagged []
  have hlen : T.layout.size ≤ ((V.codec p).writeRecord v.root ++ bs).length := by
    rw [List.length_append, hsize]
    exact Nat.le_add_right _ _
  rw [decode_of_idAt p h.mem (hid.trans hlen) hidAt]
  simp only [Functor.map, EStateM.map, Message.decode_of_root _ hlen, hroot,
    List.drop_left' hsize, bind, EStateM.bind]
  cases Groups.decode (V.codec p) T.groups bs <;> rfl

/-- A message to which another sender has given its group headers is decoded as itself,
whatever follows it, exactly when these have the numbers of the entries and announce no
more than the message has behind them; so it is when they announce the size of an entry. -/
theorem decode_sent_iff {T : Message} {root : Record T.layout} {sent : SentGroups T.groups}
    (h : V.Sendable ⟨T, root, sent.groups⟩) :
    ((∀ s, V.decode p ((V.codec p).writeRecord root ++ (sent.bytes (V.codec p) ++ s)) =
        .ok ⟨T, root, sent.groups⟩ s) ↔ sent.Counted ∧ sent.Announced) ∧
    (sent.Counted → sent.Standard →
      ∀ s, V.decode p ((V.codec p).writeRecord root ++ (sent.bytes (V.codec p) ++ s)) =
        .ok ⟨T, root, sent.groups⟩ s) := by
  have hentries : sent.groups.Forall fun _ data => ∀ r ∈ data, r.Forall Kind.Fits :=
    h.carried.2.imp fun _ _ _ hdata => hdata.2
  have hiff : (∀ s, V.decode p ((V.codec p).writeRecord root ++ (sent.bytes (V.codec p) ++ s)) =
      .ok ⟨T, root, sent.groups⟩ s) ↔ sent.Counted ∧ sent.Announced := by
    rw [← SentGroups.decode_iff p V.order hentries]
    refine forall_congr' fun s => ?_
    rw [V.decode_root p h]
    simp only [Functor.map, EStateM.map]
    generalize Groups.decode (V.codec p) T.groups (sent.bytes (V.codec p) ++ s) = result
    cases result <;> simp
  refine ⟨hiff, fun hcounted hstandard => hiff.mpr ⟨hcounted, ?_⟩⟩
  exact SentGroups.announced_of_standard hcounted hstandard

/-- The two channels behind a header with some block length. -/
def sentChannels (blockLength : BitVec 16) : SentGroups Cme.V13.channelReset4.groups :=
  .cons (.cons blockLength (.cons (2 : BitVec 8) .nil))
    [.cons (310 : BitVec 16) .nil, .cons (312 : BitVec 16) .nil] .nil

/-- A header that announces the two bytes of an entry, and one that announces five. -/
theorem decode_sent_iff_resets :
    (∀ s, Cme.V13.messages.decode default
      ((Cme.V13.messages.codec default).writeRecord Cme.V13.twoChannels.root ++
        ([2, 0, 2, 54, 1, 56, 1] ++ s)) = .ok ⟨Cme.V13.channelReset4, Cme.V13.twoChannels⟩ s) ∧
    ¬ ∀ s, Cme.V13.messages.decode default
      ((Cme.V13.messages.codec default).writeRecord Cme.V13.twoChannels.root ++
        ([5, 0, 2, 54, 1, 56, 1] ++ s)) = .ok ⟨Cme.V13.channelReset4, Cme.V13.twoChannels⟩ s := by
  have hmem : Cme.V13.channelReset4 ∈ Cme.V13.messages.alternatives := mem_of_select 4 rfl
  have hsend (blockLength : BitVec 16) : Cme.V13.messages.Sendable
      ⟨Cme.V13.channelReset4, Cme.V13.twoChannels.root, (sentChannels blockLength).groups⟩ :=
    ⟨hmem, rfl, Cme.V13.carried_of_count hmem ⟨by decide, trivial⟩⟩
  have h (blockLength : BitVec 16) :=
    decode_sent_iff Cme.V13.messages default (hsend blockLength)
  refine ⟨(h 2).2 ⟨rfl, trivial⟩ ⟨rfl, trivial⟩, fun hfive => ?_⟩
  obtain ⟨-, hannounced, -⟩ := (h 5).1.mp hfive
  exact absurd hannounced (by decide)

end Variant
end MdPrsr
