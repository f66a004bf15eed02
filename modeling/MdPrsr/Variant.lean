import MdPrsr.Sbe
import Mathlib.Data.List.Nodup

/-!
# Messages and message variants

A message is a struct whose last members are its groups. `encode` allocates
`encoded_sizeof` bytes and writes the members into them.

A `std::variant` of messages is decoded by the type id, which stands at one
offset in all of them: the offset at which a header struct has it. What a
message writes is read back as that message, whatever follows it, and two
variants whose messages are laid out alike decode every buffer alike.
-/
namespace MdPrsr
open Wire

/-- A message struct with its groups, its describe table and its `tc::type_id`. -/
structure Message where
  name : String
  typeId : ℕ
  members : List (String × MemberType)
  groups : List Group := []
  table : List String
  covers : table = members.map Prod.fst ++ groups.map Group.name := by rfl

namespace Message

/-- The fixed members. -/
def layout (m : Message) : Layout Kind := described m.members

structure Val (m : Message) where
  root : Record m.layout
  groups : Groups m.groups

def encodedSizeof {m : Message} (v : m.Val) : ℕ := m.layout.size + v.groups.encodedSizeof

/-- The size that is known without a value, which only messages without groups have. -/
def staticSize (m : Message) : ℕ :=
  match m.groups with
  | [] => m.layout.size
  | _ :: _ => 0

/-- The wire can carry the message, and its group headers can count the entries. -/
def Carried {m : Message} (v : m.Val) : Prop :=
  v.root.Forall Kind.Fits ∧ v.groups.Forall Group.Carried

/-- The message with every optional of its fixed members converted to
`std::optional` and back. -/
def throughStdOptional {m : Message} (v : m.Val) : m.Val :=
  ⟨v.root.map Kind.throughStdOptional, v.groups⟩

theorem throughStdOptional_eq {m : Message} (v : m.Val) : throughStdOptional v = v := by
  rw [throughStdOptional, Record.map_eq_self Kind.throughStdOptional_eq]

section Coders
variable (C : LeafCodec Kind)

def decode (m : Message) : Decoder Fault m.Val := do
  Decoder.demand .tooShort m.staticSize
  let root ← C.record .overrun m.layout
  let groups ← Groups.decode C m.groups
  pure ⟨root, groups⟩

def encodeTo {m : Message} (room : ℤ) (v : m.Val) : Except Fault (List UInt8) := do
  let root := C.writeRecord v.root
  let groups ← v.groups.encode C (room - root.length)
  pure (root ++ groups)

def encode {m : Message} (v : m.Val) : Except Fault (List UInt8) :=
  encodeTo C (encodedSizeof v) v

def bytes {m : Message} (v : m.Val) : List UInt8 := C.writeRecord v.root ++ v.groups.bytes C

@[simp] theorem length_bytes {m : Message} (v : m.Val) :
    (bytes C v).length = encodedSizeof v := by
  simp [bytes, encodedSizeof]

theorem encodeTo_of_le {m : Message} {v : m.Val} {room : ℤ} (h : encodedSizeof v ≤ room) :
    encodeTo C room v = .ok (bytes C v) := by
  have hroom : v.groups.encodedSizeof ≤ room - (C.writeRecord v.root).length := by
    rw [C.length_writeRecord]
    rw [encodedSizeof] at h
    omega
  have hgroups := Groups.encode_of_le C hroom
  simp only [encodeTo, bind, Except.bind, hgroups]
  rfl

theorem encode_eq {m : Message} (v : m.Val) : encode C v = .ok (bytes C v) :=
  encodeTo_of_le C le_rfl

theorem staticSize_le (m : Message) : m.staticSize ≤ m.layout.size := by
  unfold staticSize
  split
  · exact le_rfl
  · exact Nat.zero_le _

theorem decode_of_root {m : Message} {bs : List UInt8} (h : m.layout.size ≤ bs.length) :
    m.decode C bs =
      (do let groups ← Groups.decode C m.groups
          pure (⟨C.readRecord m.layout bs, groups⟩ : m.Val)) (bs.drop m.layout.size) := by
  rw [decode, Decoder.bind_ok (Decoder.demand_of_le _ (m.staticSize_le.trans h)),
    Decoder.bind_ok (C.record_of_le _ h)]

/-- A message that was decoded has its fixed members from the front of the buffer and its
groups from behind them. -/
theorem exists_of_decode {m : Message} {bs rest : List UInt8} {v : m.Val}
    (h : m.decode C bs = .ok v rest) :
    m.layout.size ≤ bs.length ∧ v.root = C.readRecord m.layout bs ∧
      Groups.decode C m.groups (bs.drop m.layout.size) = .ok v.groups rest := by
  rcases Nat.lt_or_ge bs.length m.layout.size with hlt | hle
  · rw [decode] at h
    rcases Nat.lt_or_ge bs.length m.staticSize with hshort | hstatic
    · rw [Decoder.bind_error (Decoder.demand_of_lt _ hshort)] at h
      cases h
    · rw [Decoder.bind_ok (Decoder.demand_of_le _ hstatic),
        Decoder.bind_error (C.record_of_lt _ hlt)] at h
      cases h
  · rw [decode_of_root C hle] at h
    obtain ⟨groups, rest', hgroups, hpure⟩ := Decoder.exists_of_bind_ok h
    cases hpure
    exact ⟨hle, rfl, hgroups⟩

/-- A message without groups is its fixed members. -/
theorem decode_of_fixed {m : Message} (hm : m.groups = []) {bs : List UInt8}
    (h : m.layout.size ≤ bs.length) :
    ∃ v : m.Val, m.decode C bs = .ok v (bs.drop m.layout.size) ∧
      v.root = C.readRecord m.layout bs := by
  obtain ⟨name, typeId, members, groups, table, covers⟩ := m
  obtain rfl := hm
  rw [decode_of_root C h]
  exact ⟨_, rfl, rfl⟩

theorem decode_of_fixed_short {m : Message} (hm : m.groups = []) {bs : List UInt8}
    (h : bs.length < m.layout.size) : m.decode C bs = .error .tooShort bs := by
  have hstatic : m.staticSize = m.layout.size := by rw [staticSize, hm]
  rw [decode, Decoder.bind_error (Decoder.demand_of_lt _ (hstatic ▸ h))]

/-- The fixed members of a message with groups are read without a check before. -/
theorem decode_of_root_short {m : Message} (hm : m.groups ≠ []) {bs : List UInt8}
    (h : bs.length < m.layout.size) : m.decode C bs = .error .overrun bs := by
  have hstatic : m.staticSize = 0 := by
    unfold staticSize
    split
    · contradiction
    · rfl
  rw [decode, hstatic, Decoder.bind_ok (Decoder.demand_of_le _ (Nat.zero_le _)),
    Decoder.bind_error (C.record_of_lt _ h)]

theorem bytes_of_fixed {m : Message} (hm : m.groups = []) (v : m.Val) :
    bytes C v = C.writeRecord v.root := by
  obtain ⟨name, typeId, members, groups, table, covers⟩ := m
  obtain rfl := hm
  obtain ⟨root, groups⟩ := v
  cases groups
  simp [bytes, Groups.bytes]

end Coders

/-- A message is read back as it was written. -/
theorem reads_decode (p : Platform) (o : ByteOrder) {m : Message} {v : m.Val} (h : Carried v) :
    Decoder.Reads (m.decode (leafCodec p o)) (bytes (leafCodec p o) v) v := by
  intro rest
  have hroot : (leafCodec p o).readRecord m.layout (bytes (leafCodec p o) v ++ rest) = v.root := by
    rw [bytes, List.append_assoc]
    exact (leafCodec p o).readRecord_writeRecord (faithful_of_fits p o h.1) _
  have hdrop : (bytes (leafCodec p o) v ++ rest).drop m.layout.size =
      v.groups.bytes (leafCodec p o) ++ rest := by
    rw [bytes, List.append_assoc, List.drop_left' ((leafCodec p o).length_writeRecord _)]
  rw [decode_of_root _ (by simp [encodedSizeof]; omega), hroot, hdrop,
    Decoder.bind_ok (Groups.reads_decode p o h.2 rest)]
  rfl

end Message

/-- A `std::variant` of messages in one byte order. The type id stands where
`header` has it, at the same offset in every alternative. -/
structure Variant where
  order : ByteOrder
  header : MemberType
  idInHeader : List String
  idOffset : ℕ
  idType : Scalar
  located : header.locate idInHeader = some (idOffset, .scalar idType)
  alternatives : List Message
  distinct : (alternatives.map Message.typeId).Nodup
  idMember : List String
  carried : ∀ m ∈ alternatives, m.layout.locate idMember = some (idOffset, .scalar idType)

/-- The selected alternative and its value. -/
abbrev Decoded : Type := Σ m : Message, m.Val

namespace Variant
variable (V : Variant) (p : Platform)

abbrev codec : LeafCodec Kind := leafCodec p V.order

/-- The type id that a buffer carries. -/
def idAt (bs : List UInt8) : ℕ := V.order.value ((bs.drop V.idOffset).take V.idType.width)

def select (id : ℕ) : Option Message := V.alternatives.find? fun m => m.typeId == id

def decode : Decoder Fault Decoded := do
  let id ← V.order.value <$> Decoder.peek .tooShort V.idOffset V.idType.width
  match V.select id with
  | none => throw .unknownType
  | some m => Sigma.mk m <$> m.decode (V.codec p)

/-- The value has the type id of its message in the member for it. -/
def Tagged {m : Message} (v : m.Val) : Prop :=
  raw? v.root V.idMember = some (.bits V.idType.width m.typeId)

variable {V}

theorem select_eq_some_iff {id : ℕ} {m : Message} :
    V.select id = some m ↔ m ∈ V.alternatives ∧ m.typeId = id := by
  constructor
  · intro h
    exact ⟨List.mem_of_find?_eq_some h, by simpa using List.find?_some h⟩
  · rintro ⟨hm, rfl⟩
    have hfound : (V.select m.typeId).isSome := by
      rw [select, List.find?_isSome]
      exact ⟨m, hm, by simp⟩
    obtain ⟨m', hm'⟩ := Option.isSome_iff_exists.mp hfound
    have hid : m'.typeId = m.typeId := by simpa using List.find?_some hm'
    have hinj := List.inj_on_of_nodup_map V.distinct (List.mem_of_find?_eq_some hm') hm hid
    rw [hm', hinj]

theorem mem_of_select (id : ℕ) {m : Message} (h : V.select id = some m) : m ∈ V.alternatives :=
  (select_eq_some_iff.mp h).1

theorem id_le_size {m : Message} (hm : m ∈ V.alternatives) :
    V.idOffset + V.idType.width ≤ m.layout.size := Layout.locate_le (V.carried m hm)

/-- An alternative of the variant. -/
abbrev Alternative (V : Variant) := { m : Message // m ∈ V.alternatives }

/-- Type ids tell the alternatives apart. -/
instance : DecidableEq V.Alternative := fun T T' =>
  decidable_of_iff (T.1.typeId = T'.1.typeId)
    ⟨fun h => Subtype.ext (List.inj_on_of_nodup_map V.distinct T.2 T'.2 h), fun h => h ▸ rfl⟩

/-- A buffer that carries the type id of an alternative is decoded as that alternative. -/
theorem decode_of_idAt {m : Message} (hm : m ∈ V.alternatives) {bs : List UInt8}
    (hlen : V.idOffset + V.idType.width ≤ bs.length) (hid : V.idAt bs = m.typeId) :
    V.decode p bs = (Sigma.mk m <$> m.decode (V.codec p)) bs := by
  have hpeek : (V.order.value <$> Decoder.peek Fault.tooShort V.idOffset V.idType.width) bs =
      .ok m.typeId bs := by
    simp only [Functor.map, EStateM.map, Decoder.peek_of_le _ hlen]
    rw [← hid, idAt]
  rw [decode, Decoder.bind_ok hpeek, select_eq_some_iff.mpr ⟨hm, rfl⟩]

theorem decode_of_lt {bs : List UInt8} (h : bs.length < V.idOffset + V.idType.width) :
    V.decode p bs = .error .tooShort bs := by
  rw [decode, Decoder.bind_error]
  simp only [Functor.map, EStateM.map, Decoder.peek_of_lt _ h]

theorem decode_of_unknown {bs : List UInt8} (hlen : V.idOffset + V.idType.width ≤ bs.length)
    (h : ∀ m ∈ V.alternatives, m.typeId ≠ V.idAt bs) :
    V.decode p bs = .error .unknownType bs := by
  have hpeek : (V.order.value <$> Decoder.peek Fault.tooShort V.idOffset V.idType.width) bs =
      .ok (V.idAt bs) bs := by
    simp only [Functor.map, EStateM.map, Decoder.peek_of_le _ hlen]
    rfl
  have hnone : V.select (V.idAt bs) = none := by
    rw [select, List.find?_eq_none]
    simpa using h
  rw [decode, Decoder.bind_ok hpeek, hnone]
  rfl

theorem mem_of_decode {bs rest : List UInt8} {a : Decoded} (h : V.decode p bs = .ok a rest) :
    a.1 ∈ V.alternatives := by
  by_cases hlen : V.idOffset + V.idType.width ≤ bs.length
  · by_cases hknown : ∃ m ∈ V.alternatives, m.typeId = V.idAt bs
    · obtain ⟨m, hm, hid⟩ := hknown
      rw [decode_of_idAt p hm hlen hid.symm] at h
      simp only [Functor.map, EStateM.map] at h
      split at h
      · cases h
        exact hm
      · cases h
    · rw [decode_of_unknown p hlen (by simpa using hknown)] at h
      cases h
  · rw [decode_of_lt p (Nat.lt_of_not_le hlen)] at h
    cases h

/-- A message that was decoded is the alternative whose type id the buffer carries. -/
theorem exists_of_decode {bs rest : List UInt8} {a : Decoded} (h : V.decode p bs = .ok a rest) :
    a.1 ∈ V.alternatives ∧ V.idAt bs = a.1.typeId ∧ a.1.decode (V.codec p) bs = .ok a.2 rest := by
  by_cases hlen : V.idOffset + V.idType.width ≤ bs.length
  · by_cases hknown : ∃ m ∈ V.alternatives, m.typeId = V.idAt bs
    · obtain ⟨m, hm, hid⟩ := hknown
      rw [decode_of_idAt p hm hlen hid.symm] at h
      simp only [Functor.map, EStateM.map] at h
      split at h
      · rename_i v cur hv
        cases h
        exact ⟨hm, hid.symm, hv⟩
      · cases h
    · rw [decode_of_unknown p hlen (by simpa using hknown)] at h
      cases h
  · rw [decode_of_lt p (Nat.lt_of_not_le hlen)] at h
    cases h

/-- The bytes of a tagged message carry its type id. -/
theorem idAt_bytes {m : Message} (hm : m ∈ V.alternatives) {v : m.Val} (h : V.Tagged v)
    (rest : List UInt8) : V.idAt (Message.bytes (V.codec p) v ++ rest) = m.typeId := by
  obtain ⟨w, hraw, hbytes⟩ :=
    v.root.raw?_of_locate rawObservation (V.codec p) (V.carried m hm) rfl
  have hle := id_le_size hm
  have hw : (BitVec.toNat w) = m.typeId := by
    have heq := h.symm.trans hraw
    simpa [rawObservation, eq_comm] using heq
  have hslice : ((Message.bytes (V.codec p) v ++ rest).drop V.idOffset).take V.idType.width =
      (V.codec p).write (.scalar V.idType) w := by
    rw [← hbytes, Message.bytes, List.append_assoc, List.drop_append_of_le_length (by simp; omega),
      List.take_append_of_le_length (by simp; omega)]
    rfl
  have hback := congrArg BitVec.toNat
    (read_write p V.order (k := .scalar V.idType) (v := w) trivial)
  rw [idAt, hslice, ← hw, ← hback]
  exact (toNat_readBits V.order ((V.codec p).length_write _ w)).symm

/-- A tagged message is read back as it was written, whatever follows it. -/
theorem reads_bytes {m : Message} (hm : m ∈ V.alternatives) {v : m.Val} (htag : V.Tagged v)
    (h : Message.Carried v) :
    Decoder.Reads (V.decode p) (Message.bytes (V.codec p) v) ⟨m, v⟩ := by
  intro rest
  have hle := id_le_size hm
  rw [decode_of_idAt p hm (by simp [Message.encodedSizeof]; omega) (idAt_bytes p hm htag rest)]
  exact (Message.reads_decode p V.order h).map (Sigma.mk m) rest

/-! ### Messages of fixed size -/

theorem groups_eq_nil_of_isEmpty (h : ∀ m ∈ V.alternatives, m.groups.isEmpty) :
    ∀ m ∈ V.alternatives, m.groups = [] := by
  simpa using h

/-- A buffer that is long enough for the alternative it names is decoded as that
alternative, up to its size. -/
theorem decode_of_fixed {m : Message} (hm : m ∈ V.alternatives) (hfixed : m.groups = [])
    {bs : List UInt8} (hid : V.idAt bs = m.typeId) (hlen : m.layout.size ≤ bs.length) :
    ∃ v : m.Val, V.decode p bs = .ok ⟨m, v⟩ (bs.drop m.layout.size) ∧
      v.root = (V.codec p).readRecord m.layout bs := by
  obtain ⟨v, hv, hroot⟩ := Message.decode_of_fixed (V.codec p) hfixed hlen
  refine ⟨v, ?_, hroot⟩
  rw [decode_of_idAt p hm ((id_le_size hm).trans hlen) hid]
  simp only [Functor.map, EStateM.map, hv]

theorem decode_of_fixed_short {m : Message} (hm : m ∈ V.alternatives) (hfixed : m.groups = [])
    {bs : List UInt8} (hid : V.idAt bs = m.typeId) (hlen : bs.length < m.layout.size) :
    V.decode p bs = .error .tooShort bs := by
  by_cases hbs : V.idOffset + V.idType.width ≤ bs.length
  · rw [decode_of_idAt p hm hbs hid]
    simp only [Functor.map, EStateM.map, Message.decode_of_fixed_short (V.codec p) hfixed hlen]
  · exact decode_of_lt p (Nat.lt_of_not_le hbs)

/-- What a decoder has read is tagged. -/
theorem tagged_of_read {m : Message} (hm : m ∈ V.alternatives) {bs : List UInt8}
    (hid : V.idAt bs = m.typeId) (hlen : m.layout.size ≤ bs.length) {v : m.Val}
    (hroot : v.root = (V.codec p).readRecord m.layout bs) : V.Tagged v := by
  have hle := id_le_size hm
  have hslice : ((bs.drop V.idOffset).take V.idType.width).length = V.idType.width := by
    simp; omega
  rw [Tagged, hroot, raw?,
    Record.raw?_readRecord_of_locate rawObservation (V.codec p) (V.carried m hm) rfl, ← hid, idAt,
    ← toNat_readBits V.order hslice]
  rfl

/-- What a decoder has read can be written and read again. -/
theorem carried_of_read {m : Message} (hfixed : m.groups = []) {bs : List UInt8}
    (hlen : m.layout.size ≤ bs.length) {v : m.Val}
    (hroot : v.root = (V.codec p).readRecord m.layout bs) : Message.Carried v := by
  refine ⟨?_, Groups.forall_of_eq_nil hfixed _⟩
  rw [hroot]
  exact (V.codec p).forall_readRecord (fits_read p V.order) hlen

/-- Outside padding a message that was read is written with the bytes it was read from. -/
theorem getElem?_bytes_of_read {m : Message} (hfixed : m.groups = []) {bs : List UInt8}
    (hlen : m.layout.size ≤ bs.length) {v : m.Val}
    (hroot : v.root = (V.codec p).readRecord m.layout bs) {i : ℕ}
    (hi : (m.layout.mask Kind.data)[i]? = some true) :
    (Message.bytes (V.codec p) v)[i]? = bs[i]? := by
  rw [Message.bytes_of_fixed _ hfixed, hroot]
  exact (V.codec p).writeRecord_readRecord_mask (write_read p V.order) hlen hi

/-- Without padding in the layout these are all its bytes. -/
theorem bytes_of_read {m : Message} (hfixed : m.groups = [])
    (hdata : ∀ f ∈ m.layout, f.kind.data = true) {bs : List UInt8}
    (hlen : m.layout.size ≤ bs.length) {v : m.Val}
    (hroot : v.root = (V.codec p).readRecord m.layout bs) :
    Message.bytes (V.codec p) v = bs.take m.layout.size := by
  rw [Message.bytes_of_fixed _ hfixed, hroot]
  exact (V.codec p).writeRecord_readRecord (write_read p V.order) hdata hlen

end Variant

/-! ### Comparing two variants -/

/-- Two descriptions of one message: where the layouts differ they share no name. -/
structure Message.Alike (m m' : Message) : Prop where
  name_eq : m.name = m'.name
  root : Interchangeable m.layout m'.layout
  groups : List.Forall₂ Groups.Alike m.groups m'.groups

/-- The same raw values in all shared members, and the same number of entries in every group. -/
def Message.Agree {m m' : Message} (v : m.Val) (v' : m'.Val) : Prop :=
  SameRaws v.root v'.root ∧ Groups.Agree v.groups v'.groups

def Decoded.Agree (a b : Decoded) : Prop := a.1.name = b.1.name ∧ Message.Agree a.2 b.2

theorem Message.Alike.staticSize_eq {m m' : Message} (h : m.Alike m') :
    m.staticSize = m'.staticSize := by
  have hgroups := h.groups
  rw [Message.staticSize, Message.staticSize]
  split
  · rename_i hnil
    rw [hnil, List.forall₂_nil_left_iff] at hgroups
    rw [hgroups, h.root.size_eq]
  · rename_i g gs hcons
    rw [hcons] at hgroups
    obtain ⟨g', gs', -, -, hcons'⟩ := List.forall₂_cons_left_iff.mp hgroups
    rw [hcons']

theorem Message.agree_decode (C : LeafCodec Kind) {m m' : Message} (h : m.Alike m') :
    Decoder.Agree Message.Agree (m.decode C) (m'.decode C) := by
  rw [Message.decode, Message.decode, h.staticSize_eq]
  refine (Decoder.agree_refl (R := fun _ _ => True) (fun _ => trivial) _).bind fun _ _ _ => ?_
  refine (h.root.agree C Fault.overrun).bind fun root root' hroot => ?_
  refine (Groups.agree_decode C h.groups).bind fun groups groups' hgroups => ?_
  exact Decoder.agree_pure ⟨hroot, hgroups⟩

/-- A buffer with the id of a message that two variants describe alike is decoded
alike by both. -/
theorem Variant.agree_decode (p : Platform) {V W : Variant} (horder : V.order = W.order)
    (hoffset : V.idOffset = W.idOffset) (htype : V.idType = W.idType) {m m' : Message}
    (hm : m ∈ V.alternatives) (hm' : m' ∈ W.alternatives) (hid : m.typeId = m'.typeId)
    (h : m.Alike m') {bs : List UInt8} (hbs : V.idAt bs = m.typeId) :
    Decoder.Matched Decoded.Agree (V.decode p bs) (W.decode p bs) := by
  have hbs' : W.idAt bs = m'.typeId := by
    rw [← hid, ← hbs, idAt, idAt, horder, hoffset, htype]
  by_cases hlen : V.idOffset + V.idType.width ≤ bs.length
  · have hlen' : W.idOffset + W.idType.width ≤ bs.length := by rwa [← hoffset, ← htype]
    rw [decode_of_idAt p hm hlen hbs, decode_of_idAt p hm' hlen' hbs', codec, codec, horder]
    have hagree := Message.agree_decode (leafCodec p W.order) h bs
    simp only [Functor.map, EStateM.map]
    generalize m.decode (leafCodec p W.order) bs = r,
      m'.decode (leafCodec p W.order) bs = r' at hagree
    cases hagree with
    | ok rest hv => exact .ok rest ⟨h.name_eq, hv⟩
    | error e rest => exact .error e rest
  · have hlt := Nat.lt_of_not_le hlen
    have hlt' : bs.length < W.idOffset + W.idType.width := by rwa [← hoffset, ← htype]
    rw [decode_of_lt p hlt, decode_of_lt p hlt']
    exact .error _ _

end MdPrsr
