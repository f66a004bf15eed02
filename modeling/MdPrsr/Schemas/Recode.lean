import MdPrsr.Schemas.Stream
import MdPrsr.Wire.Mask

/-!
# Writing back what was decoded

A message that was decoded from arbitrary bytes can be sent again, and is decoded as the
same message. Its encoding is as long as the bytes it came from and agrees with them
except in padding and in the block lengths of the groups, which the encoder leaves zero.
So the values that a decoder returns are those that its encoder can send.
-/
namespace MdPrsr
open Wire

/-- What the encoder restores of a group header. -/
def headerKept (f : Leaf Kind) : Bool := f.kind.data && f.path != ["blockLength"]

/-- A fresh header with the count of another has all of its values but the block length. -/
def GroupSize.Restores (h : GroupSize) : Prop :=
  ∀ r : Record h.struct.layout, r.SameOn headerKept (h.sized (h.numInGroup r))

theorem Cme.restores_groupSize : V13.groupSize.Restores := by
  intro r
  obtain _ | ⟨_, _ | ⟨(count : BitVec 8), _ | _⟩⟩ := r
  refine ⟨fun hkept => absurd hkept (by decide), fun _ => ?_, trivial⟩
  exact (BitVec.ofNat_toNat 8 count).trans (BitVec.setWidth_eq count) |>.symm

theorem Cme.restores_groupSize8Byte : V13.groupSize8Byte.Restores := by
  intro r
  obtain _ | ⟨_, _ | ⟨_, _ | ⟨(count : BitVec 8), _ | _⟩⟩⟩ := r
  refine ⟨fun hkept => absurd hkept (by decide), fun _ => rfl, fun _ => ?_, trivial⟩
  exact (BitVec.ofNat_toNat 8 count).trans (BitVec.setWidth_eq count) |>.symm

theorem restores_of_schema : ∀ V ∈ schemas, ∀ T ∈ V.alternatives, ∀ g ∈ T.groups,
    g.header.Restores := by
  intro V hV T hT g hg
  rcases header_of_schema V hV T hT g hg with hheader | hheader
  · rw [hheader]
    exact Cme.restores_groupSize
  · rw [hheader]
    exact Cme.restores_groupSize8Byte

/-! ### The bytes that are kept -/

/-- One flag for each byte of a group with so many entries. -/
def Group.kept (g : Group) (entries : ℕ) : List Bool :=
  g.header.struct.layout.flags headerKept ++
    (List.replicate entries (g.entry.layout.mask Kind.data)).flatten

def Groups.kept : {gs : List Group} → Groups gs → List Bool
  | _, .nil => []
  | _, .cons (g := g) data rest => g.kept data.length ++ kept rest

/-- The bytes of a message that are neither padding nor the block length of a group. -/
def Message.kept {m : Message} (v : m.Val) : List Bool := m.layout.mask Kind.data ++ v.groups.kept

section Recode
variable (p : Platform) (o : ByteOrder)

theorem Group.recode {g : Group} (hnarrow : g.header.Narrow) (hrestores : g.header.Restores)
    {bs rest : List UInt8} {data : g.Data} (h : g.decode (leafCodec p o) bs = .ok data rest) :
    ∃ read, bs = read ++ rest ∧ g.Carried data ∧
      AgreeOn (g.kept data.length) (g.bytes (leafCodec p o) data) read := by
  rcases Group.decode_cases (leafCodec p o) g bs with
    ⟨-, hrun⟩ | ⟨-, hrun⟩ | ⟨-, cur, hrun⟩ | ⟨hcomplete, hrun⟩
  · cases hrun.symm.trans h
  · cases hrun.symm.trans h
  · cases hrun.symm.trans h
  · cases hrun.symm.trans h
    obtain ⟨hsize, -, hentries⟩ := hcomplete
    have hhead : (bs.take g.headerSize).length = g.header.struct.layout.size :=
      List.length_take_of_le hsize
    have hbehind : g.entry.layout.size * g.numInGroupAt (leafCodec p o) bs ≤
        (bs.drop g.headerSize).length := by
      rw [List.length_drop]
      exact hentries
    have hread : (leafCodec p o).readRecord g.header.struct.layout (bs.take g.headerSize) =
        g.headerAt (leafCodec p o) bs := (leafCodec p o).readRecord_take _ bs
    refine ⟨_, (List.take_append_drop _ bs).symm, ⟨?_, ?_⟩, ?_⟩
    · rw [LeafCodec.length_readRecords, capacity]
      exact Nat.le_sub_one_of_lt (hnarrow.numInGroup_lt _)
    · exact (leafCodec p o).forall_readRecords (fits_read p o) hbehind
    · rw [LeafCodec.length_readRecords, kept, bytes, LeafCodec.length_readRecords, extent,
        List.take_add]
      refine AgreeOn.append ?_ ?_
      · refine (leafCodec p o).agreeOn_writeRecord (write_read p o) ?_ hhead ?_
        · exact fun f hf => (Bool.and_eq_true_iff.mp hf).1
        · rw [hread]
          exact hrestores _
      · exact (leafCodec p o).agreeOn_readRecords (write_read p o) _ hbehind

theorem Groups.recode {gs : List Group} (hnarrow : ∀ g ∈ gs, g.header.Narrow)
    (hrestores : ∀ g ∈ gs, g.header.Restores) {bs rest : List UInt8} {groups : Groups gs}
    (h : Groups.decode (leafCodec p o) gs bs = .ok groups rest) :
    ∃ read, bs = read ++ rest ∧ groups.Forall Group.Carried ∧
      AgreeOn groups.kept (groups.bytes (leafCodec p o)) read := by
  induction gs generalizing bs with
  | nil =>
    cases h
    exact ⟨[], rfl, trivial, .nil⟩
  | cons g gs ih =>
    obtain ⟨data, mid, hfirst, hrest⟩ := Decoder.exists_of_bind_ok h
    obtain ⟨tail, rest', htail, hpure⟩ := Decoder.exists_of_bind_ok hrest
    cases hpure
    obtain ⟨read, hbs, hcarried, hagree⟩ := Group.recode p o (hnarrow g List.mem_cons_self)
      (hrestores g List.mem_cons_self) hfirst
    obtain ⟨read', hmid, hcarried', hagree'⟩ :=
      ih (fun g' hg' => hnarrow g' (List.mem_cons_of_mem g hg'))
        (fun g' hg' => hrestores g' (List.mem_cons_of_mem g hg')) htail
    refine ⟨read ++ read', ?_, ⟨hcarried, hcarried'⟩, hagree.append hagree'⟩
    rw [hbs, hmid, List.append_assoc]

theorem Message.recode {m : Message} (hnarrow : ∀ g ∈ m.groups, g.header.Narrow)
    (hrestores : ∀ g ∈ m.groups, g.header.Restores) {bs rest : List UInt8} {v : m.Val}
    (h : m.decode (leafCodec p o) bs = .ok v rest) :
    ∃ read, bs = read ++ rest ∧ Carried v ∧
      AgreeOn (kept v) (bytes (leafCodec p o) v) read := by
  obtain ⟨hle, hroot, hgroups⟩ := exists_of_decode (leafCodec p o) h
  obtain ⟨read, hbs, hcarried, hagree⟩ := Groups.recode p o hnarrow hrestores hgroups
  have hfirst : (bs.take m.layout.size).length = m.layout.size := List.length_take_of_le hle
  refine ⟨bs.take m.layout.size ++ read, ?_, ⟨?_, hcarried⟩, ?_⟩
  · rw [List.append_assoc, ← hbs, List.take_append_drop]
  · rw [hroot]
    exact (leafCodec p o).forall_readRecord (fits_read p o) hle
  · refine AgreeOn.append ?_ hagree
    rw [hroot, ← (leafCodec p o).readRecord_take]
    exact (leafCodec p o).agreeOn_readRecord (write_read p o) hfirst

end Recode

/-! ### Messages of a schema -/

namespace Variant
variable {V : Variant} (p : Platform)

/-- What was decoded is a message that can be sent, and its encoding agrees with the bytes
that were read. -/
theorem recode (hnarrow : ∀ T ∈ V.alternatives, ∀ g ∈ T.groups, g.header.Narrow)
    (hrestores : ∀ T ∈ V.alternatives, ∀ g ∈ T.groups, g.header.Restores)
    {bs rest : List UInt8} {a : Decoded} (h : V.decode p bs = .ok a rest) :
    V.Sendable a ∧ ∃ read, bs = read ++ rest ∧
      AgreeOn (Message.kept a.2) (Message.bytes (V.codec p) a.2) read := by
  obtain ⟨hmem, hid, hdecode⟩ := exists_of_decode p h
  obtain ⟨hlen, hroot, -⟩ := Message.exists_of_decode _ hdecode
  obtain ⟨read, hbs, hcarried, hagree⟩ :=
    Message.recode p V.order (hnarrow a.1 hmem) (hrestores a.1 hmem) hdecode
  exact ⟨⟨hmem, tagged_of_read p hmem hid hlen hroot, hcarried⟩, read, hbs, hagree⟩

end Variant

/-- What a schema decodes from any buffer it can encode: into as many bytes as were read,
with the values that stood there outside padding and the block lengths of the groups, and
these are decoded as the same message. Only what can be decoded can be sent. -/
theorem schemas_recode (p : Platform) : ∀ V ∈ schemas,
    (∀ (bs : List UInt8) (a : Decoded) rest, V.decode p bs = .ok a rest →
      ∃ read out : List UInt8, bs = read ++ rest ∧ Message.encode (V.codec p) a.2 = .ok out ∧
        out.length = read.length ∧
        (∀ i : ℕ, (Message.kept a.2)[i]? = some true → out[i]? = read[i]?) ∧
        ∀ s, V.decode p (out ++ s) = .ok a s) ∧
    ∀ a, V.Sendable a ↔ ∃ bs rest, V.decode p bs = .ok a rest := by
  intro V hV
  have hnarrow := narrow_of_schema V hV
  have hrestores := restores_of_schema V hV
  refine ⟨fun bs a rest h => ?_, fun a => ⟨fun hsend => ?_, fun ⟨bs, rest, h⟩ => ?_⟩⟩
  · obtain ⟨hsend, read, hbs, hagree⟩ := Variant.recode p hnarrow hrestores h
    obtain ⟨hout, hread⟩ := hagree.length_eq
    refine ⟨read, _, hbs, Message.encode_eq _ a.2, hout.trans hread.symm, ?_, hsend.reads p⟩
    exact fun i hi => hagree.getElem?_eq hi
  · exact ⟨_, [], hsend.reads p []⟩
  · exact (Variant.recode p hnarrow hrestores h).1

/-- A channel reset whose sender announces the length of its two entries. -/
theorem schemas_recode_resets : ∃ (a : Decoded) (rest read out : List UInt8),
    [0, 0, 9, 0, 4, 0] ++ List.replicate 13 0 ++ [2, 0, 2, 1, 0, 2, 0, 7] = read ++ rest ∧
      Message.encode (Cme.V13.messages.codec default) a.2 = .ok out ∧
      out.length = read.length := by
  have hdecode : ∃ (a : Decoded) (rest : List UInt8), Cme.V13.messages.decode default
      ([0, 0, 9, 0, 4, 0] ++ List.replicate 13 0 ++ [2, 0, 2, 1, 0, 2, 0, 7]) = .ok a rest :=
    ⟨_, _, rfl⟩
  obtain ⟨a, rest, hdecode⟩ := hdecode
  obtain ⟨read, out, hbs, hout, hlen, -⟩ :=
    (schemas_recode default Cme.V13.messages (by simp [schemas])).1 _ a rest hdecode
  exact ⟨a, rest, read, out, hbs, hout, hlen⟩

end MdPrsr
