import MdPrsr.Cme.RoundTrip

/-!
# Reading one schema version with the decoder of the other

In templates 54, 55 and 56 version 13 has more fixed members than version 9,
between those of version 9 and the groups. `message_header.blockLength` would
tell how many bytes they take, but the decoder reads it as one member among the
others: it expects the first group behind its own fixed members.
-/
namespace MdPrsr.Cme
open Wire

/-- The size of `msg_size` and the message header, which no block length counts. -/
def headerSize : ℕ := 10

/-- The size of the fixed members behind the message header. -/
def rootBlockSize (T : Message) : ℕ := T.layout.size - headerSize

/-- The value announces the root block size of its own version. -/
def AnnouncesOwnBlock {T : Message} (v : T.Val) : Prop :=
  raw? v.root ["message_header", "blockLength"] = some (.bits 2 (rootBlockSize T))

/-- What the decoder of another version makes of a buffer that starts with `v`:
the shared members have the values of `v`, and the groups are read from behind
its own root block, which is not where `v` has them. -/
def ReadBy (p : Platform) (W : Variant) (U : Message) {T : Message} (v : T.Val)
    (bs : List UInt8) : Prop :=
  rootBlockSize U ≠ rootBlockSize T ∧
    (bs.length < headerSize + rootBlockSize U → W.decode p bs = .error .overrun bs) ∧
    (headerSize + rootBlockSize U ≤ bs.length → ∃ root : Record U.layout, SameRaws v.root root ∧
      W.decode p bs = (do
        let groups ← Groups.decode (W.codec p) U.groups
        pure (⟨U, ⟨root, groups⟩⟩ : Decoded)) (bs.drop (headerSize + rootBlockSize U)))

/-- One of two messages has the fixed members of the other and more behind them. -/
structure Grown (T U : Message) : Prop where
  typeId_eq : T.typeId = U.typeId
  layout : ∃ extra, T.layout ++ extra = U.layout
  block_lt : headerSize < T.layout.size ∧ T.layout.size < U.layout.size
  groups : T.groups ≠ [] ∧ U.groups ≠ []

theorem V9.untimed : ∀ T ∈ V9.messages.alternatives, ∀ f ∈ T.layout, f.kind ≠ .timestamp := by
  decide +kernel

theorem grown : ∀ id ∈ [54, 55, 56], ∃ T U, V9.messages.select id = some T ∧
    V13.messages.select id = some U ∧ Grown T U := by
  simp only [List.forall_mem_cons]
  and_intros
  all_goals first
    | exact ⟨_, _, rfl, rfl, rfl, ⟨_, rfl⟩, by decide +kernel, by decide⟩
    | exact fun _ h => absurd h List.not_mem_nil

theorem headerSize_add_rootBlockSize {T : Message} (h : headerSize < T.layout.size) :
    headerSize + rootBlockSize T = T.layout.size := by
  unfold rootBlockSize
  omega

/-- A buffer that starts with one layout shows the same raw values under a
longer or a shorter one. -/
theorem sameRaws_of_prefix (C : LeafCodec Kind) {L M : Layout Kind}
    (h : (∃ extra, L ++ extra = M) ∨ ∃ extra, M ++ extra = L) {r : Record L} {bs : List UInt8}
    (hr : C.readRecord L bs = r) : SameRaws r (C.readRecord M bs) := by
  subst hr
  rcases h with ⟨extra, rfl⟩ | ⟨extra, rfl⟩
  · have hcommon : SameRaws (C.readRecord (L ++ []) bs) (C.readRecord (L ++ extra) bs) :=
      fun _ hL hM => Record.raw?_eq_of_common_prefix rawObservation C bs
        (by simp [Record.declared]) hL hM
    rw [List.append_nil] at hcommon
    exact hcommon
  · have hcommon : SameRaws (C.readRecord (M ++ extra) bs) (C.readRecord (M ++ []) bs) :=
      fun _ hL hM => Record.raw?_eq_of_common_prefix rawObservation C bs
        (by simp [Record.declared]) hL hM
    rw [List.append_nil] at hcommon
    exact hcommon

/-- Both decoders run over a value that one of the two versions has encoded. -/
theorem readBy (p : Platform) {V W : Variant} (horder : V.order = W.order)
    (hoffset : V.idOffset = W.idOffset) (htype : V.idType = W.idType) {T U : Message}
    (hT : T ∈ V.alternatives) (hU : U ∈ W.alternatives) (hgrown : Grown T U ∨ Grown U T)
    (huntimed : ∀ f ∈ T.layout, f.kind ≠ .timestamp) {v : T.Val} (htag : V.Tagged v)
    (s : List UInt8) : ReadBy p W U v (Message.bytes (V.codec p) v ++ s) := by
  have hid : T.typeId = U.typeId := hgrown.elim (·.typeId_eq) fun h => h.typeId_eq.symm
  have hUgroups : U.groups ≠ [] := hgrown.elim (·.groups.2) (·.groups.1)
  have hTsize := headerSize_add_rootBlockSize (T := T)
    (hgrown.elim (·.block_lt.1) fun h => h.block_lt.1.trans h.block_lt.2)
  have hUsize := headerSize_add_rootBlockSize (T := U)
    (hgrown.elim (fun h => h.block_lt.1.trans h.block_lt.2) (·.block_lt.1))
  have hne : U.layout.size ≠ T.layout.size :=
    hgrown.elim (fun h => h.block_lt.2.ne') fun h => h.block_lt.2.ne
  have hlayout : (∃ extra, T.layout ++ extra = U.layout) ∨ ∃ extra, U.layout ++ extra = T.layout :=
    hgrown.imp (·.layout) (·.layout)
  have hbs : W.idAt (Message.bytes (V.codec p) v ++ s) = U.typeId := by
    have hV := Variant.idAt_bytes p hT htag s
    rwa [Variant.idAt, horder, hoffset, htype, hid] at hV
  have hroot : (W.codec p).readRecord T.layout (Message.bytes (V.codec p) v ++ s) = v.root := by
    rw [Message.bytes, List.append_assoc, Variant.codec, Variant.codec, horder]
    exact (leafCodec p W.order).readRecord_writeRecord
      (faithful_of_fits p W.order (fits_of_no_timestamp huntimed _)) _
  have hlen : W.idOffset + W.idType.width ≤ (Message.bytes (V.codec p) v ++ s).length := by
    have hle := Variant.id_le_size hT
    rw [hoffset, htype] at hle
    simp only [List.length_append, Message.length_bytes, Message.encodedSizeof]
    omega
  refine ⟨by omega, fun hlt => ?_, fun hle => ?_⟩
  · rw [Variant.decode_of_idAt p hU hlen hbs]
    simp only [Functor.map, EStateM.map, Message.decode_of_root_short _ hUgroups (hUsize ▸ hlt)]
  · refine ⟨_, sameRaws_of_prefix (W.codec p) hlayout hroot, ?_⟩
    rw [Variant.decode_of_idAt p hU hlen hbs, hUsize]
    rw [hUsize] at hle
    simp only [Functor.map, EStateM.map, Message.decode_of_root _ hle]
    simp only [bind, EStateM.bind]
    cases Groups.decode (W.codec p) U.groups
      ((Message.bytes (V.codec p) v ++ s).drop U.layout.size) <;> rfl

/-- The decoder of either version reads the encoding of the other by its own root
block, whatever block length the message announces. -/
theorem other_version_decode (p : Platform) : ∀ id ∈ [54, 55, 56],
    ∃ T U, V9.messages.select id = some T ∧ V13.messages.select id = some U ∧
      (∀ v : T.Val, V9.messages.Tagged v → ∃ out,
        Message.encode (V9.messages.codec p) v = .ok out ∧
          ∀ s, ReadBy p V13.messages U v (out ++ s)) ∧
      ∀ w : U.Val, V13.messages.Tagged w → ∃ out,
        Message.encode (V13.messages.codec p) w = .ok out ∧
          ∀ s, ReadBy p V9.messages T w (out ++ s) := by
  intro id hid
  obtain ⟨T, U, hselT, hselU, hgrown⟩ := grown id hid
  have hT := (Variant.select_eq_some_iff.mp hselT).1
  have hU := (Variant.select_eq_some_iff.mp hselU).1
  refine ⟨T, U, hselT, hselU, fun v hv => ?_, fun w hw => ?_⟩
  · exact ⟨_, Message.encode_eq _ v,
      readBy (V := V9.messages) (W := V13.messages) p rfl rfl rfl hT hU (.inl hgrown)
        (V9.untimed T hT) hv⟩
  · exact ⟨_, Message.encode_eq _ w,
      readBy (V := V13.messages) (W := V9.messages) p rfl rfl rfl hU hT (.inr hgrown)
        (V13.untimed U hU).1 hw⟩

/-! ### A future without groups -/

/-- The other version's decoder finds the values and the groups of `v` again. -/
def ReadAlike (p : Platform) (W : Variant) (U : Message) {T : Message} (v : T.Val)
    (out : List UInt8) : Prop :=
  ∃ (w : U.Val) (rest : List UInt8), W.decode p out = .ok ⟨U, w⟩ rest ∧
    SameRaws v.root w.root ∧ Groups.Agree v.groups w.groups

/-- A version 9 future of zeros that announces its own root block of 216 bytes. -/
def zeroFuture : V9.mdInstrumentDefinitionFuture54.Val where
  root := (V9.messages.codec default).readRecord _
    ([0, 0, 216, 0, 54, 0, 1, 0, 9, 0] ++ List.replicate 216 0)
  groups := .cons [] (.cons [] (.cons [] (.cons [] .nil)))

theorem tagged_zeroFuture : V9.messages.Tagged zeroFuture := by
  unfold Variant.Tagged
  decide +kernel

theorem announcesOwnBlock_zeroFuture : AnnouncesOwnBlock zeroFuture := by
  unfold AnnouncesOwnBlock
  decide +kernel

theorem other_version_decode_zeroFuture : ∃ out,
    Message.encode (V9.messages.codec default) zeroFuture = .ok out ∧ ∀ s,
      ReadBy default V13.messages V13.mdInstrumentDefinitionFuture54 zeroFuture (out ++ s) := by
  obtain ⟨T, U, hselT, hselU, h, -⟩ := other_version_decode default 54 (by decide)
  obtain rfl : V9.mdInstrumentDefinitionFuture54 = T := Option.some.inj hselT
  obtain rfl : V13.mdInstrumentDefinitionFuture54 = U := Option.some.inj hselU
  exact h zeroFuture tagged_zeroFuture

theorem zeroFuture_bytes_drop :
    (Message.bytes (V9.messages.codec default) zeroFuture).drop
      (headerSize + rootBlockSize V13.mdInstrumentDefinitionFuture54) = [0, 0, 0, 0] := by
  decide +kernel

/-- Eight bytes of the group headers become the instrument GUID, and the second
group header is missing. -/
theorem zeroFuture_decode :
    V13.messages.decode default (Message.bytes (V9.messages.codec default) zeroFuture) =
      .error .lengthError [0] := by
  have hT : V9.mdInstrumentDefinitionFuture54 ∈ V9.messages.alternatives :=
    Variant.mem_of_select 54 rfl
  have hU : V13.mdInstrumentDefinitionFuture54 ∈ V13.messages.alternatives :=
    Variant.mem_of_select 54 rfl
  obtain ⟨T, U, hselT, hselU, hgrown⟩ := grown 54 (by decide)
  obtain rfl : V9.mdInstrumentDefinitionFuture54 = T := Option.some.inj hselT
  obtain rfl : V13.mdInstrumentDefinitionFuture54 = U := Option.some.inj hselU
  have hread := readBy (V := V9.messages) (W := V13.messages) default rfl rfl rfl hT hU
    (.inl hgrown) (V9.untimed _ hT) tagged_zeroFuture []
  rw [List.append_nil] at hread
  obtain ⟨root, -, hdecode⟩ := hread.2.2 (by decide +kernel)
  rw [hdecode, zeroFuture_bytes_drop]
  rfl

theorem other_version_loses_groups :
    V9.messages.Tagged zeroFuture ∧ AnnouncesOwnBlock zeroFuture ∧
      ∃ out, Message.encode (V9.messages.codec default) zeroFuture = .ok out ∧
        ¬ ReadAlike default V13.messages V13.mdInstrumentDefinitionFuture54 zeroFuture out := by
  refine ⟨tagged_zeroFuture, announcesOwnBlock_zeroFuture, _, Message.encode_eq _ _, ?_⟩
  rintro ⟨w, rest, hdecode, -⟩
  rw [zeroFuture_decode] at hdecode
  cases hdecode

end MdPrsr.Cme
