import MdPrsr.Transcoder

/-!
# Repeating groups

`sbe::group<T, GroupSize>` is a list of entries behind a header that holds their
block length and their number. The decoder checks what is left of the buffer
against the header before it reads any entry; the encoder checks the space for
the header only, narrows the number of entries to the type of `numInGroup` and
leaves `blockLength` zero.

A message has its groups one after the other behind its fixed members.
-/
namespace MdPrsr
open Wire

/-- How decoding or encoding ends early. `overrun` is a read behind the end of the buffer. -/
inductive Fault where
  | tooShort
  | unknownType
  | lengthError
  | overrun
  deriving DecidableEq, Repr

/-- A group header struct with the two members the coder uses. `sized n` is the
header of `n` entries: a fresh `GroupSize{}` whose `numInGroup` is assigned. -/
structure GroupSize where
  struct : Struct
  blockLength : Record struct.layout → ℕ
  numInGroup : Record struct.layout → ℕ
  countBits : ℕ
  sized : ℕ → Record struct.layout
  blockLength_sized : ∀ n, blockLength (sized n) = 0
  numInGroup_sized : ∀ n, numInGroup (sized n) = n % 2 ^ countBits
  untimed : ∀ f ∈ struct.layout, f.kind ≠ .timestamp

theorem GroupSize.faithful_sized (p : Platform) (o : ByteOrder) (h : GroupSize) (n : ℕ) :
    (leafCodec p o).Faithful (h.sized n) :=
  faithful_of_fits p o (fits_of_no_timestamp h.untimed _)

/-- A member of type `sbe::group<entry, header>`. -/
structure Group where
  name : String
  entry : Struct
  header : GroupSize

namespace Group

def headerSize (g : Group) : ℕ := g.header.struct.layout.size

def entrySize (g : Group) : ℕ := g.entry.layout.size

/-- `std::vector<T> data`. -/
abbrev Data (g : Group) : Type := List (Record g.entry.layout)

/-- The number of entries that `numInGroup` can hold. -/
def capacity (g : Group) : ℕ := 2 ^ g.header.countBits - 1

/-- The header can count the entries and the wire can carry them. -/
def Carried (g : Group) (data : g.Data) : Prop :=
  data.length ≤ g.capacity ∧ ∀ r ∈ data, r.Forall Kind.Fits

def encodedSizeof (g : Group) (data : g.Data) : ℕ := g.headerSize + g.entrySize * data.length

section Coders
variable (C : LeafCodec Kind)

def decode (g : Group) : Decoder Fault g.Data := do
  Decoder.demand .lengthError g.headerSize
  let groupSize ← C.record .overrun g.header.struct.layout
  Decoder.demand .lengthError (g.header.blockLength groupSize * g.header.numInGroup groupSize)
  Decoder.times (C.record .overrun g.entry.layout) (g.header.numInGroup groupSize)

/-- What the encoder writes once it has passed its check. -/
def bytes (g : Group) (data : g.Data) : List UInt8 :=
  C.writeRecord (g.header.sized data.length) ++ data.flatMap C.writeRecord

/-- `room` is the distance from `begin` to `end`; a negative one is converted to
an unsigned number before it is compared, which makes it large. -/
def encode (g : Group) (room : ℤ) (data : g.Data) : Except Fault (List UInt8) :=
  if 0 ≤ room ∧ room < g.headerSize then throw .lengthError else pure (g.bytes C data)

@[simp] theorem length_bytes (g : Group) (data : g.Data) :
    (g.bytes C data).length = g.encodedSizeof data := by
  have hentries : (data.flatMap C.writeRecord).length = g.entrySize * data.length := by
    have hblocks : ∀ b ∈ data.map C.writeRecord, b.length = g.entrySize := by
      simp [entrySize]
    rw [List.flatMap, LeafCodec.length_flatten_of_forall hblocks, List.length_map]
  rw [bytes, List.length_append, hentries, C.length_writeRecord, encodedSizeof, headerSize]

theorem encode_of_le (g : Group) {room : ℤ} {data : g.Data} (h : g.encodedSizeof data ≤ room) :
    g.encode C room data = .ok (g.bytes C data) := by
  have hroom : ¬ (0 ≤ room ∧ room < g.headerSize) := by
    rw [encodedSizeof] at h
    omega
  exact if_neg hroom

/-- Behind a header that passes both checks stand the entries. -/
theorem decode_of_header (g : Group) {bs rest : List UInt8}
    {groupSize : Record g.header.struct.layout} (hsize : g.headerSize ≤ bs.length)
    (hread : C.record Fault.overrun g.header.struct.layout bs = .ok groupSize rest)
    (hblock : g.header.blockLength groupSize * g.header.numInGroup groupSize ≤ rest.length) :
    g.decode C bs =
      Decoder.times (C.record .overrun g.entry.layout) (g.header.numInGroup groupSize) rest := by
  rw [decode, Decoder.bind_ok (Decoder.demand_of_le _ hsize), Decoder.bind_ok hread,
    Decoder.bind_ok (Decoder.demand_of_le _ hblock)]

end Coders

/-- A group whose entries can be counted is read back as it was written. -/
theorem reads_decode (p : Platform) (o : ByteOrder) (g : Group) {data : g.Data}
    (h : g.Carried data) :
    Decoder.Reads (g.decode (leafCodec p o)) (g.bytes (leafCodec p o) data) data := by
  have hcount : g.header.numInGroup (g.header.sized data.length) = data.length := by
    have hpos : 0 < 2 ^ g.header.countBits := by positivity
    have hcap := h.1
    rw [capacity] at hcap
    rw [g.header.numInGroup_sized, Nat.mod_eq_of_lt (by omega)]
  intro rest
  have hhead := (leafCodec p o).reads_record Fault.overrun
    (g.header.faithful_sized p o data.length) (data.flatMap (leafCodec p o).writeRecord ++ rest)
  rw [← List.append_assoc] at hhead
  have hrun := g.decode_of_header (leafCodec p o) (by simp [headerSize]) hhead
    (by simp [g.header.blockLength_sized])
  rw [hcount] at hrun
  have hentries (r) (hr : r ∈ data) :=
    (leafCodec p o).reads_record Fault.overrun (faithful_of_fits p o (h.2 r hr))
  exact hrun.trans (Decoder.reads_times hentries rest)

end Group

/-- The entries of every group of a message. -/
inductive Groups : List Group → Type
  | nil : Groups []
  | cons {g : Group} {gs : List Group} (data : g.Data) (rest : Groups gs) : Groups (g :: gs)

namespace Groups

/-- Every group of the message has the property. -/
def Forall (P : (g : Group) → g.Data → Prop) {gs : List Group} : Groups gs → Prop
  | .nil => True
  | .cons (g := g) data rest => P g data ∧ Forall P rest

theorem Forall.imp {P Q : (g : Group) → g.Data → Prop} {gs : List Group} {v : Groups gs}
    (h : v.Forall P) (hPQ : ∀ g ∈ gs, ∀ data, P g data → Q g data) : v.Forall Q := by
  induction v with
  | nil => trivial
  | @cons g gs data rest ih =>
    exact ⟨hPQ g List.mem_cons_self data h.1,
      ih h.2 fun g' hg' => hPQ g' (List.mem_cons_of_mem g hg')⟩

theorem forall_of_eq_nil {P : (g : Group) → g.Data → Prop} {gs : List Group} (h : gs = [])
    (v : Groups gs) : v.Forall P := by
  subst h
  cases v
  trivial

def encodedSizeof {gs : List Group} : Groups gs → ℕ
  | .nil => 0
  | .cons (g := g) data rest => g.encodedSizeof data + encodedSizeof rest

section Coders
variable (C : LeafCodec Kind)

def decode : (gs : List Group) → Decoder Fault (Groups gs)
  | [] => pure Groups.nil
  | g :: gs => do
      let data ← g.decode C
      let rest ← decode gs
      pure (Groups.cons data rest)

def bytes {gs : List Group} : Groups gs → List UInt8
  | .nil => []
  | .cons (g := g) data rest => g.bytes C data ++ bytes rest

def encode {gs : List Group} (room : ℤ) : Groups gs → Except Fault (List UInt8)
  | .nil => pure []
  | .cons (g := g) data rest => do
      let head ← g.encode C room data
      let tail ← encode (room - head.length) rest
      pure (head ++ tail)

@[simp] theorem length_bytes {gs : List Group} (v : Groups gs) :
    (v.bytes C).length = v.encodedSizeof := by
  induction v with
  | nil => rfl
  | cons data rest ih => rw [bytes, List.length_append, Group.length_bytes, ih, encodedSizeof]

theorem encode_of_le {gs : List Group} {v : Groups gs} {room : ℤ} (h : v.encodedSizeof ≤ room) :
    v.encode C room = .ok (v.bytes C) := by
  induction v generalizing room with
  | nil => rfl
  | @cons g gs data rest ih =>
    rw [encodedSizeof] at h
    rw [encode, g.encode_of_le C (by omega)]
    have hroom : rest.encodedSizeof ≤ room - (g.bytes C data).length := by
      rw [Group.length_bytes]
      omega
    have hrest := ih hroom
    simp only [bind, Except.bind, hrest]
    rfl

end Coders

/-- The groups of a message are read back as they were written. -/
theorem reads_decode (p : Platform) (o : ByteOrder) {gs : List Group} {v : Groups gs}
    (h : v.Forall Group.Carried) :
    Decoder.Reads (decode (leafCodec p o) gs) (v.bytes (leafCodec p o)) v := by
  induction v with
  | nil => exact Decoder.reads_pure Groups.nil
  | @cons g gs data rest ih =>
    have hcons := (ih h.2).bind (f := fun rest => pure (Groups.cons data rest))
      (Decoder.reads_pure _)
    rw [List.append_nil] at hcons
    exact (g.reads_decode p o h.1).bind hcons

/-! ### Comparing two decoders -/

/-- The same groups with the same number of entries, which hold the same raw values. -/
inductive Agree : {gs gs' : List Group} → Groups gs → Groups gs' → Prop
  | nil : Agree Groups.nil Groups.nil
  | cons {g g' : Group} {gs gs' : List Group} {data : g.Data} {data' : g'.Data}
      {rest : Groups gs} {rest' : Groups gs'} :
      g.name = g'.name → List.Forall₂ SameRaws data data' → Agree rest rest' →
      Agree (Groups.cons data rest) (Groups.cons data' rest')

/-- Two descriptions of one group: the entry layouts may differ where they share no name. -/
def Alike (g g' : Group) : Prop :=
  g.name = g'.name ∧ g.header = g'.header ∧ Interchangeable g.entry.layout g'.entry.layout

section Agreement
variable (C : LeafCodec Kind)

theorem agree_decode_group {g g' : Group} (h : Alike g g') :
    Decoder.Agree (List.Forall₂ SameRaws) (g.decode C) (g'.decode C) := by
  obtain ⟨name, entry, header⟩ := g
  obtain ⟨name', entry', header'⟩ := g'
  obtain ⟨-, hheader, hentry⟩ := h
  cases hheader
  -- the two decoders run the same steps up to the entries
  refine (Decoder.agree_refl (R := fun _ _ => True) (fun _ => trivial) _).bind fun _ _ _ => ?_
  refine (Decoder.agree_refl (R := Eq) (fun _ => rfl) _).bind ?_
  rintro groupSize _ rfl
  refine (Decoder.agree_refl (R := fun _ _ => True) (fun _ => trivial) _).bind fun _ _ _ => ?_
  exact (hentry.agree C Fault.overrun).times _

theorem agree_decode {gs gs' : List Group} (h : List.Forall₂ Alike gs gs') :
    Decoder.Agree Agree (decode C gs) (decode C gs') := by
  induction h with
  | nil => exact Decoder.agree_pure Agree.nil
  | cons hg _ ih =>
    exact (agree_decode_group C hg).bind fun data data' hdata =>
      ih.bind fun rest rest' hrest => Decoder.agree_pure (Agree.cons hg.1 hdata hrest)

end Agreement
end Groups
end MdPrsr
