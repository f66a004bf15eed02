import MdPrsr.Wire.Cursor

/-!
# Records laid out field by field

A layout is a list of named leaves; a record of that layout holds one value for
each leaf, and its encoding is the encodings of the values one after the other,
without gaps. The leaf formats are a parameter: a type `K` of kinds, the Lean
type and the width of each kind, and a codec that writes a value in exactly
that many bytes.

What is true of every leaf is lifted here to whole records: reading back what
was written, writing back what was read outside the leaves that carry no data,
and finding a named field at its byte offset. Two layouts with a common prefix
give records that agree on every name they share.
-/
namespace MdPrsr.Wire

/-- The Lean type of the values of each kind of leaf, and its width in bytes. -/
class Leaves (K : Type) where
  Val : K → Type
  size : K → ℕ

/-- A leaf under the names of the members that lead to it. -/
structure Leaf (K : Type) where
  path : List String
  kind : K
  deriving DecidableEq

abbrev Layout (K : Type) := List (Leaf K)

section Layouts
variable {K : Type} [Leaves K]

def Layout.size : Layout K → ℕ
  | [] => 0
  | f :: L => Leaves.size f.kind + Layout.size L

@[simp] theorem Layout.size_nil : Layout.size ([] : Layout K) = 0 := rfl

@[simp] theorem Layout.size_cons (f : Leaf K) (L : Layout K) :
    Layout.size (f :: L) = Leaves.size f.kind + Layout.size L := rfl

@[simp] theorem Layout.size_append (L M : Layout K) :
    Layout.size (L ++ M) = Layout.size L + Layout.size M := by
  induction L with
  | nil => simp
  | cons f L ih => simp [ih, Nat.add_assoc]

/-- Byte offset and kind of the field with this name. -/
def Layout.locate (path : List String) : Layout K → Option (ℕ × K)
  | [] => none
  | f :: L =>
      if f.path = path then some (0, f.kind)
      else (Layout.locate path L).map fun p => (Leaves.size f.kind + p.1, p.2)

/-- The fields up to and including the first one with this name. -/
def Layout.upTo (path : List String) : Layout K → Layout K
  | [] => []
  | f :: L => if f.path = path then [f] else f :: Layout.upTo path L

theorem Layout.locate_le {path : List String} {L : Layout K} {off : ℕ} {k : K}
    (h : L.locate path = some (off, k)) : off + Leaves.size k ≤ L.size := by
  induction L generalizing off with
  | nil => cases h
  | cons f L ih =>
    rw [Layout.locate] at h
    rw [Layout.size_cons]
    split at h
    · cases h
      omega
    · obtain ⟨⟨off', k'⟩, hloc, heq⟩ := Option.map_eq_some_iff.mp h
      cases heq
      have := ih hloc
      omega

theorem Layout.mem_of_locate {path : List String} {L : Layout K} {off : ℕ} {k : K}
    (h : L.locate path = some (off, k)) : ⟨path, k⟩ ∈ L := by
  induction L generalizing off with
  | nil => cases h
  | cons f L ih =>
    rw [Layout.locate] at h
    split at h
    · rename_i hpath
      cases h
      subst hpath
      exact List.mem_cons_self
    · obtain ⟨⟨off', k'⟩, hloc, heq⟩ := Option.map_eq_some_iff.mp h
      cases heq
      exact List.mem_cons_of_mem f (ih hloc)

/-- One flag for each byte: whether it belongs to a leaf that carries data. -/
def Layout.mask (data : K → Bool) (L : Layout K) : List Bool :=
  L.flatMap fun f => List.replicate (Leaves.size f.kind) (data f.kind)

/-- One value for each field, in the order of the layout. -/
inductive Record : Layout K → Type
  | nil : Record []
  | cons {f : Leaf K} {L : Layout K} (v : Leaves.Val f.kind) (r : Record L) : Record (f :: L)

def Record.head {f : Leaf K} {L : Layout K} : Record (f :: L) → Leaves.Val f.kind
  | .cons v _ => v

def Record.tail {f : Leaf K} {L : Layout K} : Record (f :: L) → Record L
  | .cons _ r => r

/-- Every value of the record has the property, given its kind. -/
def Record.Forall (P : (k : K) → Leaves.Val k → Prop) {L : Layout K} : Record L → Prop
  | .nil => True
  | .cons (f := f) v r => P f.kind v ∧ Record.Forall P r

theorem Record.Forall.imp {P Q : (k : K) → Leaves.Val k → Prop} {L : Layout K} {r : Record L}
    (h : r.Forall P) (hPQ : ∀ f ∈ L, ∀ v, P f.kind v → Q f.kind v) : r.Forall Q := by
  induction r with
  | nil => trivial
  | @cons f L v r ih =>
    exact ⟨hPQ f List.mem_cons_self v h.1,
      ih h.2 fun g hg => hPQ g (List.mem_cons_of_mem f hg)⟩

theorem Record.forall_of_all {P : (k : K) → Leaves.Val k → Prop} {L : Layout K} (r : Record L)
    (h : ∀ f ∈ L, ∀ v, P f.kind v) : r.Forall P := by
  induction r with
  | nil => trivial
  | @cons f L v r ih =>
    exact ⟨h f List.mem_cons_self v, ih fun g hg => h g (List.mem_cons_of_mem f hg)⟩

/-- The record with every value replaced by a function of its kind and itself. -/
def Record.map (g : (k : K) → Leaves.Val k → Leaves.Val k) {L : Layout K} : Record L → Record L
  | .nil => .nil
  | .cons (f := f) v r => .cons (g f.kind v) (Record.map g r)

theorem Record.map_eq_self {g : (k : K) → Leaves.Val k → Leaves.Val k} (hg : ∀ k v, g k v = v)
    {L : Layout K} (r : Record L) : r.map g = r := by
  induction r with
  | nil => rfl
  | cons v r ih => rw [Record.map, hg, ih]

instance Record.decidableEq [∀ k : K, DecidableEq (Leaves.Val k)] :
    {L : Layout K} → DecidableEq (Record L)
  | _, .nil, .nil => .isTrue rfl
  | _, .cons v r, .cons w s =>
      have := Record.decidableEq r s
      decidable_of_iff (v = w ∧ r = s) (by rw [Record.cons.injEq])

end Layouts

/-- A writer and a reader for every kind of leaf. -/
structure LeafCodec (K : Type) [Leaves K] where
  write : (k : K) → Leaves.Val k → List UInt8
  read : (k : K) → List UInt8 → Leaves.Val k
  length_write : ∀ (k : K) (v : Leaves.Val k), (write k v).length = Leaves.size k

namespace LeafCodec
variable {K : Type} [Leaves K] (C : LeafCodec K)

def writeRecord {L : Layout K} : Record L → List UInt8
  | .nil => []
  | .cons (f := f) v r => C.write f.kind v ++ writeRecord r

def readRecord : (L : Layout K) → List UInt8 → Record L
  | [], _ => .nil
  | f :: L, bs =>
      .cons (C.read f.kind (bs.take (Leaves.size f.kind)))
        (readRecord L (bs.drop (Leaves.size f.kind)))

/-- A fixed-size record takes its bytes in one piece, or is out of bounds. -/
def record {ε : Type} (fault : ε) (L : Layout K) : Decoder ε (Record L) :=
  C.readRecord L <$> Decoder.take fault L.size

/-- Every leaf of the record survives being written and read. -/
def Faithful {L : Layout K} (r : Record L) : Prop :=
  r.Forall fun k v => C.read k (C.write k v) = v

@[simp] theorem length_writeRecord {L : Layout K} (r : Record L) :
    (C.writeRecord r).length = L.size := by
  induction r with
  | nil => rfl
  | cons v r ih => rw [writeRecord, List.length_append, C.length_write, ih, Layout.size_cons]

theorem readRecord_writeRecord {L : Layout K} {r : Record L} (h : C.Faithful r)
    (rest : List UInt8) : C.readRecord L (C.writeRecord r ++ rest) = r := by
  induction r with
  | nil => rfl
  | @cons f L v r ih =>
    have hlen := C.length_write f.kind v
    rw [writeRecord, readRecord, List.append_assoc, List.take_left' hlen,
      List.drop_left' hlen, h.1, ih h.2]

theorem reads_record {ε : Type} (fault : ε) {L : Layout K} {r : Record L}
    (h : C.Faithful r) : Decoder.Reads (C.record fault L) (C.writeRecord r) r := by
  have hmap := (Decoder.reads_take fault (C.writeRecord r)).map (C.readRecord L)
  rw [C.length_writeRecord] at hmap
  have hback : C.readRecord L (C.writeRecord r) = r := by
    simpa using C.readRecord_writeRecord h []
  rw [hback] at hmap
  exact hmap

/-- Only the first bytes count. -/
theorem readRecord_take (L : Layout K) (bs : List UInt8) :
    C.readRecord L (bs.take L.size) = C.readRecord L bs := by
  induction L generalizing bs with
  | nil => rfl
  | cons f L ih =>
    simp only [readRecord, Layout.size_cons, List.take_take, List.drop_take,
      Nat.add_sub_cancel_left, ih]
    rw [Nat.min_eq_left (Nat.le_add_right _ _)]

theorem readRecord_append {L : Layout K} {bs : List UInt8} (h : L.size ≤ bs.length)
    (rest : List UInt8) : C.readRecord L (bs ++ rest) = C.readRecord L bs := by
  rw [← C.readRecord_take L (bs ++ rest), List.take_append_of_le_length h, C.readRecord_take]

theorem record_of_le {ε : Type} (fault : ε) {L : Layout K} {bs : List UInt8}
    (h : L.size ≤ bs.length) :
    C.record fault L bs = .ok (C.readRecord L bs) (bs.drop L.size) := by
  simp only [record, Functor.map, EStateM.map, Decoder.take_of_le fault h, C.readRecord_take]

theorem record_of_lt {ε : Type} (fault : ε) {L : Layout K} {bs : List UInt8}
    (h : bs.length < L.size) : C.record fault L bs = .error fault bs := by
  simp only [record, Functor.map, EStateM.map, Decoder.take_of_lt fault h]

theorem forward_record {ε : Type} (fault : ε) (L : Layout K) :
    Decoder.Forward (C.record fault L) := (Decoder.forward_take fault L.size).map _

/-! ### Records one after the other -/

/-- Blocks of one length. -/
theorem length_flatten_of_forall {blocks : List (List UInt8)} {n : ℕ}
    (h : ∀ b ∈ blocks, b.length = n) : blocks.flatten.length = n * blocks.length := by
  induction blocks with
  | nil => rfl
  | cons b blocks ih =>
    have hb := h b List.mem_cons_self
    have htail := ih fun b' hb' => h b' (List.mem_cons_of_mem b hb')
    rw [List.flatten_cons, List.length_append, hb, htail, List.length_cons, Nat.mul_succ,
      Nat.add_comm]

/-- `n` records of one layout, without gaps. -/
def readRecords (L : Layout K) : ℕ → List UInt8 → List (Record L)
  | 0, _ => []
  | n + 1, bs => C.readRecord L bs :: readRecords L n (bs.drop L.size)

@[simp] theorem length_readRecords (L : Layout K) (n : ℕ) (bs : List UInt8) :
    (C.readRecords L n bs).length = n := by
  induction n generalizing bs with
  | zero => rfl
  | succ n ih => rw [readRecords, List.length_cons, ih]

theorem times_record_of_le {ε : Type} (fault : ε) {L : Layout K} {n : ℕ} {bs : List UInt8}
    (h : L.size * n ≤ bs.length) :
    Decoder.times (C.record fault L) n bs = .ok (C.readRecords L n bs) (bs.drop (L.size * n)) := by
  induction n generalizing bs with
  | zero => rfl
  | succ n ih =>
    rw [Nat.mul_succ] at h
    have hrest : L.size * n ≤ (bs.drop L.size).length := by
      rw [List.length_drop]
      omega
    rw [Decoder.times, Decoder.bind_ok (C.record_of_le fault (by omega)),
      Decoder.bind_ok (ih hrest), List.drop_drop, Nat.mul_succ, Nat.add_comm]
    rfl

/-- Records that fill their blocks. -/
theorem readRecords_flatten {L : Layout K} {blocks : List (List UInt8)}
    (h : ∀ b ∈ blocks, b.length = L.size) (rest : List UInt8) :
    C.readRecords L blocks.length (blocks.flatten ++ rest) = blocks.map (C.readRecord L) := by
  induction blocks with
  | nil => rfl
  | cons b blocks ih =>
    have hb := h b List.mem_cons_self
    have htail := ih fun b' hb' => h b' (List.mem_cons_of_mem b hb')
    rw [List.flatten_cons, List.append_assoc, List.length_cons, readRecords,
      C.readRecord_append (Nat.le_of_eq hb.symm), List.drop_left' hb, htail, List.map_cons]

theorem times_record_of_lt {ε : Type} (fault : ε) {L : Layout K} {n : ℕ} {bs : List UInt8}
    (h : bs.length < L.size * n) :
    ∃ cur, Decoder.times (C.record fault L) n bs = .error fault cur := by
  induction n generalizing bs with
  | zero => simp at h
  | succ n ih =>
    rw [Nat.mul_succ] at h
    by_cases hfirst : L.size ≤ bs.length
    · have hrest : (bs.drop L.size).length < L.size * n := by
        rw [List.length_drop]
        omega
      obtain ⟨cur, hcur⟩ := ih hrest
      refine ⟨cur, ?_⟩
      rw [Decoder.times, Decoder.bind_ok (C.record_of_le fault hfirst), Decoder.bind_error hcur]
    · refine ⟨bs, ?_⟩
      rw [Decoder.times, Decoder.bind_error (C.record_of_lt fault (Nat.lt_of_not_le hfirst))]

/-! ### Writing back what was read -/

/-- What holds of every leaf that is read holds of all leaves of a record that is read. -/
theorem forall_readRecord {P : (k : K) → Leaves.Val k → Prop}
    (hread : ∀ (k : K) (bs : List UInt8), bs.length = Leaves.size k → P k (C.read k bs))
    {L : Layout K} {bs : List UInt8} (h : L.size ≤ bs.length) :
    (C.readRecord L bs).Forall P := by
  induction L generalizing bs with
  | nil => trivial
  | cons f L ih =>
    rw [Layout.size_cons] at h
    exact ⟨hread _ _ (by simp; omega), ih (by simp; omega)⟩

theorem forall_readRecords {P : (k : K) → Leaves.Val k → Prop}
    (hread : ∀ (k : K) (bs : List UInt8), bs.length = Leaves.size k → P k (C.read k bs))
    {L : Layout K} {n : ℕ} {bs : List UInt8} (h : L.size * n ≤ bs.length) :
    ∀ r ∈ C.readRecords L n bs, r.Forall P := by
  induction n generalizing bs with
  | zero => exact fun r hr => absurd hr List.not_mem_nil
  | succ n ih =>
    rw [Nat.mul_succ] at h
    have hrest : L.size * n ≤ (bs.drop L.size).length := by
      rw [List.length_drop]
      omega
    exact List.forall_mem_cons.mpr ⟨C.forall_readRecord hread (by omega), ih hrest⟩

/-- Outside the leaves without data, the bytes written are the bytes read. -/
theorem writeRecord_readRecord_mask {data : K → Bool}
    (hdata : ∀ (k : K) (bs : List UInt8), data k = true → bs.length = Leaves.size k →
      C.write k (C.read k bs) = bs)
    {L : Layout K} {bs : List UInt8} (h : L.size ≤ bs.length) {i : ℕ}
    (hi : (L.mask data)[i]? = some true) :
    (C.writeRecord (C.readRecord L bs))[i]? = bs[i]? := by
  induction L generalizing bs i with
  | nil => simp [Layout.mask] at hi
  | cons f L ih =>
    rw [Layout.size_cons] at h
    have hlen : (bs.take (Leaves.size f.kind)).length = Leaves.size f.kind := by
      simp; omega
    rw [Layout.mask, List.flatMap_cons] at hi
    rw [readRecord, writeRecord]
    by_cases hlt : i < Leaves.size f.kind
    · rw [List.getElem?_append_left (by simpa using hlt),
        List.getElem?_replicate_of_lt hlt, Option.some.injEq] at hi
      rw [hdata f.kind _ hi hlen, List.getElem?_append_left (by omega),
        List.getElem?_take_of_lt hlt]
    · rw [List.getElem?_append_right (by simpa using hlt), List.length_replicate] at hi
      rw [List.getElem?_append_right (by rw [C.length_write]; omega), C.length_write]
      have hrest : Layout.size L ≤ (bs.drop (Leaves.size f.kind)).length := by simp; omega
      have hdrop := ih hrest hi
      rw [hdrop, List.getElem?_drop]
      congr 1
      omega

/-- A record all of whose leaves carry data writes exactly the bytes it read. -/
theorem writeRecord_readRecord {data : K → Bool}
    (hdata : ∀ (k : K) (bs : List UInt8), data k = true → bs.length = Leaves.size k →
      C.write k (C.read k bs) = bs)
    {L : Layout K} (hL : ∀ f ∈ L, data f.kind = true) {bs : List UInt8}
    (h : L.size ≤ bs.length) :
    C.writeRecord (C.readRecord L bs) = bs.take L.size := by
  have hmask : ∀ i < L.size, (L.mask data)[i]? = some true := by
    clear h
    induction L with
    | nil => simp
    | cons f L ih =>
      intro i hi
      have hf := hL f List.mem_cons_self
      rw [Layout.mask, List.flatMap_cons]
      by_cases hlt : i < Leaves.size f.kind
      · rw [List.getElem?_append_left (by simpa using hlt), List.getElem?_replicate_of_lt hlt, hf]
      · rw [List.getElem?_append_right (by simpa using hlt), List.length_replicate]
        exact ih (fun g hg => hL g (List.mem_cons_of_mem f hg)) _
          (by rw [Layout.size_cons] at hi; omega)
  apply List.ext_getElem?
  intro i
  by_cases hi : i < L.size
  · rw [C.writeRecord_readRecord_mask hdata h (hmask i hi), List.getElem?_take_of_lt hi]
  · rw [List.getElem?_eq_none (by simpa using hi), List.getElem?_eq_none (by simp; omega)]

end LeafCodec

/-! ### Named observations -/

/-- What can be seen of a leaf: nothing of a leaf without data, a raw value of any other. -/
structure Observation (K R : Type) [Leaves K] where
  visible : K → Bool
  observe : (k : K) → Leaves.Val k → Option R
  isSome_observe : ∀ (k : K) (v : Leaves.Val k), (observe k v).isSome = visible k

namespace Record
variable {K R : Type} [Leaves K] (O : Observation K R)

def raws {L : Layout K} : Record L → List (List String × R)
  | .nil => []
  | .cons (f := f) v r => ((O.observe f.kind v).map (Prod.mk f.path)).toList ++ raws r

/-- The raw value of the field with this name. -/
def raw? {L : Layout K} (r : Record L) (path : List String) : Option R :=
  (r.raws O).lookup path

/-- The names under which a record of the layout shows a value. -/
def declared (L : Layout K) : List (List String) :=
  (L.filter fun f => O.visible f.kind).map Leaf.path

theorem map_fst_raws {L : Layout K} (r : Record L) :
    (r.raws O).map Prod.fst = declared O L := by
  induction r with
  | nil => rfl
  | @cons f L v r ih =>
    have hv := O.isSome_observe f.kind v
    rw [raws, List.map_append, ih, declared, declared, List.filter_cons, ← hv]
    cases O.observe f.kind v <;> rfl

theorem raw?_isSome {L : Layout K} (r : Record L) (path : List String) :
    (r.raw? O path).isSome ↔ path ∈ declared O L := by
  rw [← map_fst_raws O r, raw?, List.lookup_isSome_iff]
  simp

theorem raws_readRecord_append (C : LeafCodec K) (L M : Layout K) (bs : List UInt8) :
    (C.readRecord (L ++ M) bs).raws O =
      (C.readRecord L bs).raws O ++ (C.readRecord M (bs.drop L.size)).raws O := by
  induction L generalizing bs with
  | nil => rfl
  | cons f L ih =>
    simp only [List.cons_append, LeafCodec.readRecord, raws, ih, List.append_assoc,
      Layout.size_cons, List.drop_drop]

/-- Records read from one buffer under two layouts with a common prefix agree
on every name both declare, when what follows the prefix shares no name. -/
theorem raw?_eq_of_common_prefix (C : LeafCodec K) {L M N : Layout K} (bs : List UInt8)
    (hdis : ∀ path ∈ declared O M, path ∉ declared O N) {path : List String}
    (hM : path ∈ declared O (L ++ M)) (hN : path ∈ declared O (L ++ N)) :
    (C.readRecord (L ++ M) bs).raw? O path = (C.readRecord (L ++ N) bs).raw? O path := by
  have hL : path ∈ declared O L := by
    simp only [declared, List.filter_append, List.map_append, List.mem_append] at hM hN
    rcases hM with hM | hM
    · exact hM
    · rcases hN with hN | hN
      · exact hN
      · exact (hdis path hM hN).elim
  obtain ⟨x, hx⟩ := Option.isSome_iff_exists.mp ((raw?_isSome O (C.readRecord L bs) path).mpr hL)
  rw [raw?] at hx
  simp only [raw?, raws_readRecord_append, List.lookup_append, hx, Option.some_or]

/-- A located field is read from its offset. -/
theorem raw?_readRecord_of_locate (C : LeafCodec K) {L : Layout K} {path : List String} {off : ℕ}
    {k : K} (h : L.locate path = some (off, k)) (hk : O.visible k = true) (bs : List UInt8) :
    (C.readRecord L bs).raw? O path =
      O.observe k (C.read k ((bs.drop off).take (Leaves.size k))) := by
  induction L generalizing off bs with
  | nil => simp [Layout.locate] at h
  | cons f L ih =>
    rw [Layout.locate] at h
    split at h
    · rename_i hpath
      cases h
      obtain ⟨x, hx⟩ := Option.isSome_iff_exists.mp
        ((O.isSome_observe f.kind (C.read f.kind (bs.take (Leaves.size f.kind)))).trans hk)
      simp [LeafCodec.readRecord, raw?, raws, hx, hpath]
    · rename_i hpath
      obtain ⟨⟨off', k'⟩, hloc, heq⟩ := Option.map_eq_some_iff.mp h
      cases heq
      have hne : (path == f.path) = false := by
        simpa using fun heq : path = f.path => hpath heq.symm
      rw [← List.drop_drop, ← ih hloc, raw?, raw?, LeafCodec.readRecord, raws]
      cases O.observe f.kind (C.read f.kind (bs.take (Leaves.size f.kind))) <;>
        simp [List.lookup_cons, hne]

/-- A located field shows the value that stands at its offset. -/
theorem raw?_of_locate (C : LeafCodec K) {L : Layout K} {path : List String} {off : ℕ} {k : K}
    (h : L.locate path = some (off, k)) (hk : O.visible k = true) (r : Record L) :
    ∃ v : Leaves.Val k, r.raw? O path = O.observe k v ∧
      ((C.writeRecord r).drop off).take (Leaves.size k) = C.write k v := by
  induction r generalizing off with
  | nil => simp [Layout.locate] at h
  | @cons f L v r ih =>
    rw [Layout.locate] at h
    split at h
    · rename_i hpath
      cases h
      obtain ⟨x, hx⟩ := Option.isSome_iff_exists.mp ((O.isSome_observe f.kind v).trans hk)
      refine ⟨v, ?_, ?_⟩
      · simp [raw?, raws, hx, hpath]
      · rw [LeafCodec.writeRecord, List.drop_zero, List.take_left' (C.length_write _ _)]
    · rename_i hpath
      obtain ⟨⟨off', k'⟩, hloc, heq⟩ := Option.map_eq_some_iff.mp h
      cases heq
      obtain ⟨w, hraw, hbytes⟩ := ih hloc
      have hne : (path == f.path) = false := by
        simpa using fun heq : path = f.path => hpath heq.symm
      refine ⟨w, ?_, ?_⟩
      · rw [← hraw, raw?, raw?, raws]
        cases O.observe f.kind v <;> simp [List.lookup_cons, hne]
      · rw [LeafCodec.writeRecord, List.drop_append, C.length_write, Nat.add_sub_cancel_left,
          List.drop_eq_nil_of_le (by rw [C.length_write]; omega), List.nil_append, hbytes]

end Record
end MdPrsr.Wire
