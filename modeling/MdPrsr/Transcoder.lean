import MdPrsr.Wire.Record
import MdPrsr.Itch.Timestamp
import Mathlib.Data.List.OfFn

/-!
# Member types and their wire format

The message structs are built from a few member types: integers and enumerations
in the byte order of their protocol, character arrays, `tc::padding`, the
six-byte timestamp and `md_prsr::optional`, which keeps the raw value and takes
one value of the type for null. `leafCodec` gives each its bytes; `described`
strings the members of a struct together in the order of its describe table.

Padding carries no data. What the coder writes there is left to the platform,
as is the byte order of the host.
-/
namespace MdPrsr
open Wire

/-- `md_prsr::optional<T, Null>` over the raw bits of `T`. -/
structure Optional (w : ℕ) (null : BitVec w) where
  rawValue : BitVec w
  deriving DecidableEq

namespace Optional
variable {w : ℕ} {null : BitVec w}

instance : Inhabited (Optional w null) := ⟨⟨null⟩⟩

def hasValue (o : Optional w null) : Bool := o.rawValue != null

/-- The conversion to `std::optional`. -/
def toOption (o : Optional w null) : Option (BitVec w) :=
  if o.hasValue then some o.rawValue else none

/-- The constructor from `std::optional`. -/
def ofOption (x : Option (BitVec w)) : Optional w null := ⟨x.getD null⟩

theorem toOption_eq_none_iff (o : Optional w null) : o.toOption = none ↔ o.rawValue = null := by
  simp [toOption, hasValue]

@[simp] theorem ofOption_toOption (o : Optional w null) : ofOption o.toOption = o := by
  obtain ⟨v⟩ := o
  by_cases hv : v = null <;> simp [toOption, ofOption, hasValue, hv]

end Optional

/-- The integer types; an enumeration is its underlying type. -/
inductive Scalar where
  | char | int8 | uint8 | int16 | uint16 | int32 | uint32 | int64 | uint64
  deriving DecidableEq, Repr

def Scalar.width : Scalar → ℕ
  | .char | .int8 | .uint8 => 1
  | .int16 | .uint16 => 2
  | .int32 | .uint32 => 4
  | .int64 | .uint64 => 8

inductive Kind where
  | scalar (s : Scalar)
  | optional (s : Scalar) (null : ℤ)
  | chars (n : ℕ)
  | padding (n : ℕ)
  | timestamp
  deriving DecidableEq, Repr

namespace Kind

def Val : Kind → Type
  | scalar s => BitVec (8 * s.width)
  | optional s null => Optional (8 * s.width) (BitVec.ofInt _ null)
  | chars n => Vector UInt8 n
  | padding _ => Unit
  | timestamp => BitVec 64

def size : Kind → ℕ
  | scalar s | optional s _ => s.width
  | chars n | padding n => n
  | timestamp => 6

instance : Leaves Kind := ⟨Val, size⟩

instance (k : Kind) : DecidableEq (Leaves.Val k) :=
  match k with
  | scalar s => inferInstanceAs (DecidableEq (BitVec (8 * s.width)))
  | optional s null =>
      inferInstanceAs (DecidableEq (Optional (8 * s.width) (BitVec.ofInt _ null)))
  | chars n => inferInstanceAs (DecidableEq (Vector UInt8 n))
  | padding _ => inferInstanceAs (DecidableEq Unit)
  | timestamp => inferInstanceAs (DecidableEq (BitVec 64))

/-- Everything but padding. -/
def data : Kind → Bool
  | padding _ => false
  | _ => true

/-- The values that the wire can carry: six bytes of a timestamp. -/
def Fits : (k : Kind) → Leaves.Val k → Prop
  | timestamp, v => BitVec.toNat v < 2 ^ 48
  | _, _ => True

theorem fits_of_ne {k : Kind} (h : k ≠ timestamp) (v : Leaves.Val k) : k.Fits v := by
  cases k with
  | timestamp => exact absurd rfl h
  | _ => trivial

/-- An optional converted to `std::optional` and back. -/
def throughStdOptional : (k : Kind) → Leaves.Val k → Leaves.Val k
  | optional _ _, v => Optional.ofOption (Optional.toOption v)
  | _, v => v

theorem throughStdOptional_eq (k : Kind) (v : Leaves.Val k) : k.throughStdOptional v = v := by
  cases k with
  | optional s null => exact Optional.ofOption_toOption v
  | _ => rfl

/-- An optional is absent exactly when its raw bits are the null value. -/
def NullIsAbsent : (k : Kind) → Leaves.Val k → Prop
  | optional _ null, v => Optional.toOption v = none ↔ Optional.rawValue v = BitVec.ofInt _ null
  | _, _ => True

theorem nullIsAbsent (k : Kind) (v : Leaves.Val k) : k.NullIsAbsent v := by
  cases k with
  | optional s null => exact Optional.toOption_eq_none_iff v
  | _ => trivial

end Kind

/-- What the format leaves to the machine: its byte order and the content of padding. -/
structure Platform where
  host : ByteOrder
  fill : (n : ℕ) → Vector UInt8 n

instance : Inhabited Platform := ⟨.little, fun n => Vector.replicate n 0⟩

/-- An array of `n` bytes as it stands in the buffer. -/
def readChars (n : ℕ) (bs : List UInt8) : Vector UInt8 n := Vector.ofFn fun i => bs.getD i 0

theorem toList_readChars {n : ℕ} {bs : List UInt8} (h : bs.length = n) :
    (readChars n bs).toList = bs := by
  subst h
  simp [readChars, Vector.toList_ofFn]

theorem readChars_toList {n : ℕ} (v : Vector UInt8 n) : readChars n v.toList = v := by
  apply Vector.toList_inj.mp
  exact toList_readChars Vector.length_toList

/-- An integer of the given width; on the wire it has its low bytes in the order `o`. -/
def readBits (o : ByteOrder) (width : ℕ) (bs : List UInt8) : BitVec (8 * width) :=
  BitVec.ofNat _ (o.value bs)

def writeBits (o : ByteOrder) (width : ℕ) (v : BitVec (8 * width)) : List UInt8 :=
  o.bytes width v.toNat

theorem toNat_readBits (o : ByteOrder) {width : ℕ} {bs : List UInt8} (h : bs.length = width) :
    (readBits o width bs).toNat = o.value bs := by
  have hlt := o.value_lt bs
  rw [h] at hlt
  rw [readBits, BitVec.toNat_ofNat, pow_mul]
  exact Nat.mod_eq_of_lt hlt

theorem writeBits_readBits (o : ByteOrder) {width : ℕ} {bs : List UInt8} (h : bs.length = width) :
    writeBits o width (readBits o width bs) = bs := by
  rw [writeBits, toNat_readBits o h, o.bytes_value_of_length h]

theorem readBits_writeBits (o : ByteOrder) {width : ℕ} (v : BitVec (8 * width)) :
    readBits o width (writeBits o width v) = v := by
  apply BitVec.eq_of_toNat_eq
  have hlt := v.isLt
  rw [pow_mul] at hlt
  rw [writeBits, toNat_readBits o (o.length_bytes _ _), o.value_bytes_of_lt hlt]

/-- The coders of the member types. -/
def leafCodec (p : Platform) (o : ByteOrder) : LeafCodec Kind where
  write
    | .scalar s, v => writeBits o s.width v
    | .optional s _, v => writeBits o s.width (Optional.rawValue v)
    | .chars _, v => Vector.toList v
    | .padding n, _ => (p.fill n).toList
    | .timestamp, v => Itch.encodeTimestamp p.host v
  read
    | .scalar s, bs => readBits o s.width bs
    | .optional s _, bs => (⟨readBits o s.width bs⟩ : Optional _ _)
    | .chars n, bs => readChars n bs
    | .padding _, _ => ()
    | .timestamp, bs => Itch.decodeTimestamp p.host bs
  length_write
    | .scalar _, _ => o.length_bytes _ _
    | .optional _ _, _ => o.length_bytes _ _
    | .chars _, _ => Vector.length_toList
    | .padding _, _ => Vector.length_toList
    | .timestamp, v => Itch.length_encodeTimestamp p.host v

section Leaf
variable (p : Platform) (o : ByteOrder)

theorem read_write {k : Kind} {v : Leaves.Val k} (h : k.Fits v) :
    (leafCodec p o).read k ((leafCodec p o).write k v) = v := by
  cases k with
  | scalar s => exact readBits_writeBits o v
  | optional s null => exact congrArg Optional.mk (readBits_writeBits o (Optional.rawValue v))
  | chars n => exact readChars_toList v
  | padding n => rfl
  | timestamp => exact Itch.decodeTimestamp_encodeTimestamp p.host h

theorem write_read (k : Kind) (bs : List UInt8) (hk : k.data = true)
    (h : bs.length = Leaves.size k) :
    (leafCodec p o).write k ((leafCodec p o).read k bs) = bs := by
  cases k with
  | scalar s => exact writeBits_readBits o h
  | optional s null => exact writeBits_readBits o h
  | chars n => exact toList_readChars h
  | padding n => cases hk
  | timestamp => exact Itch.encodeTimestamp_decodeTimestamp p.host h

/-- A value that was read fits the wire. -/
theorem fits_read (k : Kind) (bs : List UInt8) (h : bs.length = Leaves.size k) :
    k.Fits ((leafCodec p o).read k bs) := by
  cases k with
  | timestamp => exact Itch.toNat_decodeTimestamp_lt p.host h
  | _ => trivial

theorem faithful_of_fits {L : Layout Kind} {r : Record L} (h : r.Forall Kind.Fits) :
    (leafCodec p o).Faithful r := h.imp fun _ _ _ hv => read_write p o hv

theorem fits_of_no_timestamp {L : Layout Kind} (hL : ∀ f ∈ L, f.kind ≠ .timestamp)
    (r : Record L) : r.Forall Kind.Fits :=
  r.forall_of_all fun f hf v => Kind.fits_of_ne (hL f hf) v

end Leaf

/-! ### Members without bytes -/

/-- A member without bytes has one value. -/
theorem Kind.eq_of_size_eq_zero {k : Kind} (h : Leaves.size k = 0) (v w : Leaves.Val k) :
    v = w := by
  cases k with
  | scalar s => cases s <;> cases h
  | optional s null => cases s <;> cases h
  | chars n =>
    obtain rfl : n = 0 := h
    have hnil (u : Vector UInt8 0) : u.toList = [] :=
      List.length_eq_zero_iff.mp Vector.length_toList
    exact Vector.toList_inj.mp ((hnil v).trans (hnil w).symm)
  | padding n => rfl
  | timestamp => cases h

theorem eq_of_size_eq_zero {L : Layout Kind} (h : L.size = 0) (r s : Record L) : r = s := by
  induction r with
  | nil => cases s; rfl
  | cons v r ih =>
    cases s with
    | cons w s =>
      rw [Layout.size_cons, Nat.add_eq_zero_iff] at h
      rw [Kind.eq_of_size_eq_zero h.1 v w, ih h.2 s]

/-! ### Raw values -/

/-- The bits of an integer of so many bytes, or the bytes of an array. -/
inductive Raw where
  | bits (width value : ℕ)
  | chars (bytes : List UInt8)
  deriving DecidableEq, Repr

def rawObservation : Observation Kind Raw where
  visible := Kind.data
  observe
    | .scalar s, v => some (.bits s.width (BitVec.toNat v))
    | .optional s _, v => some (.bits s.width (Optional.rawValue v).toNat)
    | .chars _, v => some (.chars (Vector.toList v))
    | .padding _, _ => none
    | .timestamp, v => some (.bits 8 (BitVec.toNat v))
  isSome_observe k v := by cases k <;> rfl

/-- The raw value of the member with this path; padding shows none. -/
abbrev raw? {L : Layout Kind} (r : Record L) (path : List String) : Option Raw :=
  r.raw? rawObservation path

/-- The members of a layout that hold a value. -/
abbrev declares (L : Layout Kind) (path : List String) : Prop :=
  path ∈ Record.declared rawObservation L

/-- A record with one timestamp fits the wire if the value of that member does. -/
theorem fits_of_one_timestamp {L : Layout Kind} {path : List String} {off : ℕ}
    (hloc : L.locate path = some (off, .timestamp))
    (hone : (L.filter fun f => f.kind = .timestamp).length = 1) {r : Record L}
    (h : ∀ t, raw? r path = some (.bits 8 t) → t < 2 ^ 48) : r.Forall Kind.Fits := by
  induction r generalizing off with
  | nil => trivial
  | @cons f L v r ih =>
    obtain ⟨name, kind⟩ := f
    rw [Layout.locate] at hloc
    rw [List.filter_cons] at hone
    split at hloc
    · rename_i hname
      obtain rfl : name = path := hname
      cases hloc
      have hnone : ∀ f ∈ L, f.kind ≠ .timestamp := by simpa using hone
      refine ⟨h _ ?_, fits_of_no_timestamp hnone r⟩
      simp [raw?, Record.raw?, Record.raws, rawObservation]
    · rename_i hname
      obtain ⟨⟨off', k⟩, hrest, heq⟩ := Option.map_eq_some_iff.mp hloc
      cases heq
      have hmem : ⟨path, .timestamp⟩ ∈ L.filter fun f => f.kind = .timestamp := by
        simpa using Layout.mem_of_locate hrest
      have hpos := List.length_pos_of_mem hmem
      have hkind : kind ≠ .timestamp := by
        rintro rfl
        rw [if_pos (by simp), List.length_cons] at hone
        omega
      rw [if_neg (by simpa using hkind)] at hone
      have hne : (path == name) = false := by
        simpa using fun heq : path = name => hname heq.symm
      refine ⟨Kind.fits_of_ne hkind v, ih hrest hone fun t ht => h t ?_⟩
      rw [← ht, raw?, raw?, Record.raw?, Record.raw?, Record.raws]
      cases rawObservation.observe kind v <;> simp [List.lookup_cons, hne]

/-- Two records hold the same raw value in every member that both layouts declare. -/
def SameRaws {L M : Layout Kind} (r : Record L) (s : Record M) : Prop :=
  ∀ path, declares L path → declares M path → raw? r path = raw? s path

theorem sameRaws_refl {L : Layout Kind} (r : Record L) : SameRaws r r := fun _ _ _ => rfl

/-- Layouts of one size whose records, read from one buffer, hold the same raw values. -/
structure Interchangeable (L M : Layout Kind) : Prop where
  size_eq : L.size = M.size
  sameRaws : ∀ (C : LeafCodec Kind) (bs : List UInt8),
    SameRaws (C.readRecord L bs) (C.readRecord M bs)

theorem interchangeable_of_eq {L M : Layout Kind} (h : L = M) : Interchangeable L M := by
  subst h
  exact ⟨rfl, fun _ _ => sameRaws_refl _⟩

/-- Layouts may differ behind a common prefix if they share no names there. -/
theorem interchangeable_of_common_prefix {L M N : Layout Kind} (hsize : M.size = N.size)
    (hdis : ∀ path, declares M path → ¬ declares N path) : Interchangeable (L ++ M) (L ++ N) where
  size_eq := by simp [hsize]
  sameRaws C bs _ hM hN := Record.raw?_eq_of_common_prefix _ C bs hdis hM hN

theorem Interchangeable.agree {ε : Type} {L M : Layout Kind} (h : Interchangeable L M)
    (C : LeafCodec Kind) (fault : ε) :
    Decoder.Agree SameRaws (C.record fault L) (C.record fault M) := by
  intro bs
  by_cases hle : L.size ≤ bs.length
  · rw [C.record_of_le fault hle, C.record_of_le fault (h.size_eq ▸ hle), h.size_eq]
    exact .ok _ (h.sameRaws C bs)
  · have hlt : bs.length < M.size := h.size_eq ▸ Nat.lt_of_not_le hle
    rw [C.record_of_lt fault (Nat.lt_of_not_le hle), C.record_of_lt fault hlt]
    exact .error _ _

/-! ### Struct descriptions -/

/-- A member type is the list of its leaves; that of a scalar has no name of its own. -/
abbrev MemberType := Layout Kind

def scalar (s : Scalar) : MemberType := [⟨[], .scalar s⟩]

def char : MemberType := scalar .char
def int8 : MemberType := scalar .int8
def uint8 : MemberType := scalar .uint8
def int16 : MemberType := scalar .int16
def uint16 : MemberType := scalar .uint16
def int32 : MemberType := scalar .int32
def uint32 : MemberType := scalar .uint32
def int64 : MemberType := scalar .int64
def uint64 : MemberType := scalar .uint64

/-- `md_prsr::optional<T, Null>`, alias `sbe::optional`. -/
def optional (s : Scalar) (null : ℤ) : MemberType := [⟨[], .optional s null⟩]

/-- `std::array<char, n>`. -/
def chars (n : ℕ) : MemberType := [⟨[], .chars n⟩]

/-- `tc::padding<n>`. -/
def padding (n : ℕ) : MemberType := [⟨[], .padding n⟩]

def timestamp : MemberType := [⟨[], .timestamp⟩]

/-- An enumeration with the enumerator that stands for null. -/
structure Enumeration where
  underlying : Scalar
  null : ℤ

/-- `md_prsr::optional<E, E::NoValue>`. -/
def Enumeration.optional (e : Enumeration) : MemberType := MdPrsr.optional e.underlying e.null

/-- `eobi::float_decimal` is its first parameter. -/
def floatDecimal (s : Scalar) (_decimals : ℕ) : Scalar := s

def under (name : String) (f : Leaf Kind) : Leaf Kind := ⟨name :: f.path, f.kind⟩

/-- The leaves of members laid out one after the other. -/
def described (members : List (String × MemberType)) : Layout Kind :=
  members.flatMap fun m => m.2.map (under m.1)

theorem described_append (members members' : List (String × MemberType)) :
    described (members ++ members') = described members ++ described members' :=
  List.flatMap_append

@[simp] theorem size_map_under (name : String) (L : Layout Kind) :
    Layout.size (L.map (under name)) = L.size := by
  induction L with
  | nil => rfl
  | cons f L ih => rw [List.map_cons, Layout.size_cons, Layout.size_cons, ih, under]

/-- A member that is a struct shows the values of that struct under its own name. -/
theorem raws_readRecord_under (C : LeafCodec Kind) (name : String) (L : Layout Kind)
    (bs : List UInt8) :
    (C.readRecord (L.map (under name)) bs).raws rawObservation =
      ((C.readRecord L bs).raws rawObservation).map fun x => (name :: x.1, x.2) := by
  induction L generalizing bs with
  | nil => rfl
  | cons f L ih =>
    rw [List.map_cons, LeafCodec.readRecord, LeafCodec.readRecord, Record.raws, Record.raws,
      List.map_append]
    refine congrArg₂ (· ++ ·) ?_ (ih _)
    simp only [under]
    cases rawObservation.observe f.kind _ <;> rfl

theorem lookup_map_under (name : String) (path : List String) (l : List (List String × Raw)) :
    (l.map fun x => (name :: x.1, x.2)).lookup (name :: path) = l.lookup path := by
  induction l with
  | nil => rfl
  | cons x l ih =>
    have hkey : (name :: path == name :: x.1) = (path == x.1) := by simp
    rw [List.map_cons, List.lookup_cons, List.lookup_cons, ih, hkey]

/-- The leaves of a member have its name in front. -/
theorem not_declares_described {members : List (String × MemberType)} {name : String}
    (hname : name ∉ members.map Prod.fst) (path : List String) :
    ¬ declares (described members) (name :: path) := by
  intro h
  obtain ⟨f, hf, hpath⟩ := List.mem_map.mp h
  obtain ⟨m, hm, hleaf⟩ := List.mem_flatMap.mp (List.mem_of_mem_filter hf)
  obtain ⟨g, -, rfl⟩ := List.mem_map.mp hleaf
  injection hpath with hfirst _
  exact hname (hfirst ▸ List.mem_map_of_mem hm)

/-- The last member of a record is read behind the others. -/
theorem raw?_readRecord_last (C : LeafCodec Kind) {members : List (String × MemberType)}
    {name : String} (hname : name ∉ members.map Prod.fst) (type : MemberType) (bs : List UInt8)
    (path : List String) :
    raw? (C.readRecord (described (members ++ [(name, type)])) bs) (name :: path) =
      raw? (C.readRecord type (bs.drop (described members).size)) path := by
  have hnone : ((C.readRecord (described members) bs).raws rawObservation).lookup
      (name :: path) = none := by
    rw [← Option.not_isSome_iff_eq_none]
    intro h
    exact not_declares_described hname path ((Record.raw?_isSome rawObservation _ _).mp h)
  have hlast : described [(name, type)] = type.map (under name) := List.append_nil _
  rw [raw?, raw?, Record.raw?, Record.raw?, described_append, Record.raws_readRecord_append,
    List.lookup_append, hnone, Option.none_or, hlast, raws_readRecord_under, lookup_map_under]

/-- A struct with its describe table, which must name the members in their order. -/
structure Struct where
  members : List (String × MemberType)
  table : List String
  covers : table = members.map Prod.fst := by rfl

def Struct.layout (s : Struct) : Layout Kind := described s.members

end MdPrsr
