import MdPrsr.Tools.ParquetWriter
import MdPrsr.Tools.Reader

/-!
# From a file of messages to the tables

A file of framed messages goes through `read_directly` into `parquet_writer`. Each
message ends up in the table of its type with its position as the sequence number,
modulo `2 ^ 64`. Below that number of messages the positions are exact, and sorting
the rows of all tables by them gives the messages back.
-/
namespace MdPrsr.Tools
open Wire

/-- `buffer_size` in `run`, for the value of the option. -/
def bufferSize (option : BitVec 64) : ℕ := if option < 1500 then 1500 else option.toNat

theorem le_bufferSize (option : BitVec 64) : 1500 ≤ bufferSize option := by
  unfold bufferSize
  split
  · exact le_rfl
  · rename_i h
    exact Nat.not_lt.mp h

/-- A `packet_block` and its message. -/
def packet (p : Platform) (o : ByteOrder) (message : List UInt8) : List UInt8 :=
  (leafCodec p o).writeRecord (L := packetBlock.layout)
    (.cons (BitVec.ofNat 16 message.length) .nil) ++ message

theorem packet_eq (p : Platform) (o : ByteOrder) {message : List UInt8}
    (h : message.length < 256 ^ 2) : packet p o message = lengthFrame o 2 message := by
  have hmod : message.length % 2 ^ 16 = message.length := Nat.mod_eq_of_lt h
  change o.bytes 2 (BitVec.ofNat 16 message.length).toNat ++ [] ++ message = _
  rw [BitVec.toNat_ofNat, hmod, List.append_nil, lengthFrame]

/-- The file with these messages. -/
def stream (p : Platform) (o : ByteOrder) (ms : List Itch.AnyMessage) : List UInt8 :=
  ms.flatMap fun m => packet p o (m.encoded p)

theorem stream_eq (p : Platform) (o : ByteOrder) (ms : List Itch.AnyMessage) :
    stream p o ms = (ms.map (Itch.AnyMessage.encoded p)).flatMap (lengthFrame o 2) := by
  rw [stream, List.flatMap_map]
  refine List.flatMap_congr fun m _ => packet_eq p o ?_
  have := m.length_encoded_le p
  omega

/-- Every message is read from the file, in every buffer that `run` may choose. -/
theorem bounded_stream (p : Platform) (o : ByteOrder) {B : ℕ} (hB : 1500 ≤ B)
    (ms : List Itch.AnyMessage) :
    (frames o).bounded B (stream p o ms) = (ms.map (Itch.AnyMessage.encoded p), false) := by
  rw [stream_eq]
  refine bounded_flatMap o (by decide) (by omega) ?_ ?_ <;>
  · intro message hmem
    obtain ⟨m, -, rfl⟩ := List.mem_map.mp hmem
    have := m.length_encoded_le p
    omega

theorem readDirectly_parquetWriter (p : Platform) (o : ByteOrder) (asserts : Bool)
    (reads : ReadSizes) {B : ℕ} (hB : 1500 ≤ B) (hmax : B ≤ maxSize)
    (ms : List Itch.AnyMessage) :
    ∃ w, readDirectly p o (parquetWriter p asserts) reads (Nat.zero_lt_of_lt hB) (stream p o ms)
        ParquetWriter.empty = .ok () w ∧
      (∀ T, w.rows T = (rowsOf 1 ms T).map sequenced) ∧
      w.count = BitVec.ofNat 64 ms.length := by
  obtain ⟨w, hrun, hrows, hcount⟩ :=
    deliver_parquetWriter p asserts ms 1 ParquetWriter.empty
  refine ⟨w, ?_, fun T => (hrows T).trans (List.nil_append _), hcount.trans (BitVec.zero_add _)⟩
  rw [readDirectly_of_le _ _ _ _ _ hmax, bounded_stream p o hB, deliverBounded]
  simp only [bind, EStateM.bind]
  rw [show (1 : BitVec 64) = BitVec.ofNat 64 1 from rfl, hrun]
  rfl

/-! ### Merging the tables -/

/-- A message of some type. -/
abbrev AnyValue : Type := Σ T : Itch.messages.Alternative, T.1.Val

def anyValue (m : Itch.AnyMessage) : AnyValue := ⟨m.type, m.value⟩

/-- The rows of all tables, one table after the other. -/
def ParquetWriter.allRows (w : ParquetWriter) : List (BitVec 64 × AnyValue) :=
  Itch.messages.alternatives.attach.flatMap fun T => (w.rows T).map fun row => (row.1, ⟨T, row.2⟩)

/-- Sorting a list into bins loses nothing. -/
theorem flatMap_filter_perm {α κ : Type} [DecidableEq κ] (key : α → κ) {keys : List κ}
    (hnodup : keys.Nodup) {l : List α} (h : ∀ a ∈ l, key a ∈ keys) :
    (keys.flatMap fun k => l.filter fun a => key a = k).Perm l := by
  induction keys generalizing l with
  | nil =>
    have hnil : l = [] := List.eq_nil_iff_forall_not_mem.mpr fun a ha => by simpa using h a ha
    simp [hnil]
  | cons k keys ih =>
    have hk := List.nodup_cons.mp hnodup
    have hrest : (keys.flatMap fun k' => l.filter fun a => key a = k') =
        keys.flatMap fun k' =>
          (l.filter fun a => !decide (key a = k)).filter fun a => key a = k' := by
      refine List.flatMap_congr fun k' hk' => ?_
      rw [List.filter_filter]
      refine List.filter_congr fun a _ => ?_
      have hne : k' ≠ k := fun heq => hk.1 (heq ▸ hk')
      by_cases ha : key a = k' <;> simp [ha, hne]
    rw [List.flatMap_cons, hrest]
    refine ((ih hk.2 fun a ha => ?_).append_left _).trans (List.filter_append_perm _ _)
    have ha' := List.mem_filter.mp ha
    have hmem := h a ha'.1
    simp_all

/-- A message with its position as the sequence number. -/
def sequencedValue (m : Itch.AnyMessage × ℕ) : BitVec 64 × AnyValue :=
  (BitVec.ofNat 64 m.2, anyValue m.1)

/-- The table of a type holds the messages of this type. -/
theorem map_rowsOf (k : ℕ) (ms : List Itch.AnyMessage) (T : Itch.messages.Alternative) :
    ((rowsOf k ms T).map sequenced).map (fun row => (row.1, (⟨T, row.2⟩ : AnyValue))) =
      ((ms.zipIdx k).filter fun m => m.1.type = T).map sequencedValue := by
  unfold rowsOf
  induction ms.zipIdx k with
  | nil => rfl
  | cons m ms ih =>
    rw [List.filterMap_cons, List.filter_cons]
    by_cases h : m.1.type = T
    · subst h
      have hrow : rowAt m.1.type m = some (m.2, m.1.value) := dif_pos rfl
      rw [hrow, if_pos (by simp), List.map_cons, List.map_cons, ih]
      rfl
    · have hrow : rowAt T m = none := dif_neg h
      rw [hrow, if_neg (by simpa using h)]
      exact ih

theorem allRows_perm {w : ParquetWriter} {ms : List Itch.AnyMessage}
    (hrows : ∀ T, w.rows T = (rowsOf 1 ms T).map sequenced) :
    w.allRows.Perm ((ms.zipIdx 1).map sequencedValue) := by
  have hnodup : Itch.messages.alternatives.attach.Nodup :=
    List.nodup_attach.mpr Itch.messages.distinct.of_map
  have hbins := (flatMap_filter_perm (fun m : Itch.AnyMessage × ℕ => m.1.type) hnodup
    (l := ms.zipIdx 1) fun _ _ => List.mem_attach _ _).map sequencedValue
  rw [List.map_flatMap] at hbins
  unfold ParquetWriter.allRows
  simp only [hrows, map_rowsOf]
  exact hbins

theorem toNat_position {ms : List Itch.AnyMessage} (hlen : ms.length < 2 ^ 64)
    {m : Itch.AnyMessage × ℕ} (hm : m ∈ ms.zipIdx 1) : (BitVec.ofNat 64 m.2).toNat = m.2 := by
  have hsnd : m.2 ∈ (ms.zipIdx 1).map Prod.snd := List.mem_map_of_mem hm
  rw [List.zipIdx_map_snd, List.mem_range'_1] at hsnd
  rw [BitVec.toNat_ofNat, Nat.mod_eq_of_lt (by omega)]

theorem toNat_sequenced {ms : List Itch.AnyMessage} (hlen : ms.length < 2 ^ 64)
    (T : Itch.messages.Alternative) :
    ((rowsOf 1 ms T).map sequenced).map (fun row => (row.1.toNat, row.2)) = rowsOf 1 ms T := by
  rw [List.map_map]
  refine (List.map_congr_left fun row hrow => ?_).trans (List.map_id _)
  obtain ⟨m, hm, hrow⟩ := List.mem_filterMap.mp hrow
  unfold rowAt at hrow
  split at hrow
  · cases hrow
    exact Prod.ext (toNat_position hlen hm) rfl
  · cases hrow

/-- Whoever sorts the rows of all tables by sequence number gets the messages back. -/
theorem merged_eq {w : ParquetWriter} {ms : List Itch.AnyMessage} (hlen : ms.length < 2 ^ 64)
    (hrows : ∀ T, w.rows T = (rowsOf 1 ms T).map sequenced) {merged : List (BitVec 64 × AnyValue)}
    (hperm : merged.Perm w.allRows)
    (hsorted : merged.Pairwise fun a b => a.1.toNat ≤ b.1.toNat) :
    merged = (ms.zipIdx 1).map sequencedValue := by
  have hall := hperm.trans (allRows_perm hrows)
  have hbound := fun m => toNat_position hlen (m := m)
  have hincreasing : (ms.zipIdx 1).Pairwise fun m m' => m.2 < m'.2 := by
    rw [← List.pairwise_map (f := Prod.snd) (R := (· < ·)), List.zipIdx_map_snd]
    exact List.pairwise_lt_range'
  refine hall.eq_of_pairwise ?_ hsorted ?_
  · intro a b ha hb hab hba
    obtain ⟨m, hm, rfl⟩ := List.mem_map.mp (hall.mem_iff.mp ha)
    obtain ⟨m', hm', rfl⟩ := List.mem_map.mp hb
    have hpos : m.2 = m'.2 := by
      rw [← hbound m hm, ← hbound m' hm']
      exact Nat.le_antisymm hab hba
    have hget := (List.mk_mem_zipIdx_iff_le_and_getElem?_sub.mp hm).2
    have hget' := (List.mk_mem_zipIdx_iff_le_and_getElem?_sub.mp hm').2
    rw [← hpos, hget, Option.some.injEq] at hget'
    exact congrArg sequencedValue (Prod.ext hget' hpos)
  · rw [List.pairwise_map]
    refine hincreasing.imp_of_mem fun hm hm' hlt => ?_
    rw [sequencedValue, sequencedValue, hbound _ hm, hbound _ hm']
    exact hlt.le

/-- Every message of the file is pushed to the table of its type, in order and with its
position as the sequence number, modulo `2 ^ 64`; `count_` is their number, modulo
`2 ^ 64`. With fewer messages the tables can be merged by the sequence numbers. Without a
buffer nothing is pushed. -/
theorem readDirectly_tables (p : Platform) (o : ByteOrder) (asserts : Bool) (reads : ReadSizes)
    (option : BitVec 64) (ms : List Itch.AnyMessage) :
    (bufferSize option ≤ maxSize → ∃ w,
      readDirectly p o (parquetWriter p asserts) reads
        (Nat.zero_lt_of_lt (le_bufferSize option)) (stream p o ms) ParquetWriter.empty = .ok () w ∧
      (∀ T, w.rows T = (rowsOf 1 ms T).map sequenced) ∧
      w.count = BitVec.ofNat 64 ms.length ∧
      (ms.length < 2 ^ 64 →
        (∀ T, (w.rows T).map (fun row => (row.1.toNat, row.2)) = rowsOf 1 ms T) ∧
        w.count.toNat = ms.length ∧
        ∀ merged : List (BitVec 64 × AnyValue), merged.Perm w.allRows →
          merged.Pairwise (fun a b => a.1.toNat ≤ b.1.toNat) →
            merged.map Prod.snd = ms.map anyValue)) ∧
    (maxSize < bufferSize option →
      readDirectly p o (parquetWriter p asserts) reads
        (Nat.zero_lt_of_lt (le_bufferSize option)) (stream p o ms) ParquetWriter.empty =
          .error .lengthError ParquetWriter.empty) := by
  refine ⟨fun hmax => ?_, fun hlarge => congrFun (readDirectly_of_lt p o _ _ _ hlarge _) _⟩
  obtain ⟨w, hrun, hrows, hcount⟩ :=
    readDirectly_parquetWriter p o asserts reads (le_bufferSize option) hmax ms
  refine ⟨w, hrun, hrows, hcount, fun hlen => ⟨fun T => ?_, ?_, fun merged hperm hsorted => ?_⟩⟩
  · rw [hrows, toNat_sequenced hlen]
  · rw [hcount, BitVec.toNat_ofNat, Nat.mod_eq_of_lt hlen]
  · rw [merged_eq hlen hrows hperm hsorted, List.map_map]
    conv_rhs => rw [← List.zipIdx_map_fst 1 ms, List.map_map]
    rfl

/-- The start of the market as a message of any type. -/
def startOfMarket : Itch.AnyMessage where
  type := ⟨Itch.systemEvent, List.mem_cons_self⟩
  value := Itch.startOfMarket
  tagged := rfl
  timely := fun t ht => by cases ht; decide

/-- Two messages read in one buffer of 1500 bytes, seven bytes at a time. -/
theorem readDirectly_tables_startOfMarket :
    ∃ w, readDirectly default .big (parquetWriter default true) (.atMost 7 (by decide))
        (Nat.zero_lt_of_lt (le_bufferSize 0)) (stream default .big [startOfMarket, startOfMarket])
        ParquetWriter.empty = .ok () w ∧
      (w.rows startOfMarket.type).map (fun row => (row.1.toNat, row.2)) =
        [(1, Itch.startOfMarket), (2, Itch.startOfMarket)] ∧ w.count.toNat = 2 := by
  obtain ⟨w, hrun, -, -, hexact⟩ := (readDirectly_tables default .big true
    (.atMost 7 (by decide)) 0 [startOfMarket, startOfMarket]).1 (by decide)
  obtain ⟨hrows, hcount, -⟩ := hexact (by decide)
  exact ⟨w, hrun, hrows startOfMarket.type, hcount⟩

/-- For the option `-1` there is no buffer, and after `2 ^ 64` messages the counters have
started again. -/
theorem readDirectly_tables_limits :
    readDirectly default .big (parquetWriter default false) (.atMost 1 (by decide))
        (Nat.zero_lt_of_lt (le_bufferSize (-1))) (stream default .big [startOfMarket])
        ParquetWriter.empty = .error .lengthError ParquetWriter.empty ∧
    ¬ ∀ (p : Platform) (o : ByteOrder) (asserts : Bool) (reads : ReadSizes) (option : BitVec 64)
      (ms : List Itch.AnyMessage), bufferSize option ≤ maxSize → ∃ w,
        readDirectly p o (parquetWriter p asserts) reads
          (Nat.zero_lt_of_lt (le_bufferSize option)) (stream p o ms) ParquetWriter.empty =
            .ok () w ∧
        (∀ T, (w.rows T).map (fun row => (row.1.toNat, row.2)) = rowsOf 1 ms T) ∧
        w.count.toNat = ms.length := by
  constructor
  · rw [readDirectly_of_lt _ _ _ _ _ (by decide)]
    rfl
  · intro h
    obtain ⟨w, hrun, -, hlen⟩ := h default .big false (.atMost 1 (by decide)) 0
      (List.replicate (2 ^ 64) startOfMarket) (by decide)
    obtain ⟨w', hrun', -, hcount⟩ := readDirectly_parquetWriter default .big false
      (.atMost 1 (by decide)) (le_bufferSize 0) (by decide)
      (List.replicate (2 ^ 64) startOfMarket)
    rw [hrun] at hrun'
    cases hrun'
    rw [hcount, List.length_replicate, BitVec.toNat_ofNat, Nat.mod_self] at hlen
    exact absurd hlen (by decide)

end MdPrsr.Tools
