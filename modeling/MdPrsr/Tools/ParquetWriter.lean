import MdPrsr.Itch.Codec
import MdPrsr.Tools.FakeSequence

/-!
# Writing messages to one table per type

`parquet_writer` has a writer for every alternative of `messages`. It decodes a
frame and pushes the message, behind its sequence number, to the writer of its type.
-/
namespace MdPrsr.Tools
open Wire

/-- `parquet_writer`: the rows pushed to the writer of each message type, and `count_`. -/
structure ParquetWriter where
  rows : (T : Itch.messages.Alternative) → List (BitVec 64 × T.1.Val)
  count : BitVec 64

namespace ParquetWriter

def empty : ParquetWriter := ⟨fun _ => [], 0⟩

/-- `push_back` of the writer of this type. -/
def pushBack (w : ParquetWriter) (seqn : BitVec 64) (T : Itch.messages.Alternative)
    (v : T.1.Val) : ParquetWriter where
  rows := Function.update w.rows T (w.rows T ++ [(seqn, v)])
  count := w.count + 1

end ParquetWriter

/-- `parquet_writer::operator()`. -/
def parquetWriter (p : Platform) (asserts : Bool) : Processor ParquetWriter :=
  fun seqn message w =>
    match h : Itch.messages.decode p message with
    | .error fault _ => .error (.decode fault) w
    | .ok decoded rest =>
      (do modify (·.pushBack seqn ⟨decoded.1, Variant.mem_of_decode p h⟩ decoded.2)
          assertThat asserts rest.isEmpty : EStateM Failure ParquetWriter Unit) w

section Rows
variable (p : Platform) (asserts : Bool)

theorem parquetWriter_encoded (seqn : BitVec 64) (m : Itch.AnyMessage) (w : ParquetWriter) :
    parquetWriter p asserts seqn (m.encoded p) w = .ok () (w.pushBack seqn m.type m.value) := by
  have hdecode := m.decode_encoded p []
  rw [List.append_nil] at hdecode
  unfold parquetWriter
  split
  · rename_i h
    rw [hdecode] at h
    cases h
  · rename_i h
    have heq := hdecode.symm.trans h
    cases heq
    cases asserts <;> rfl

/-- The row of a message in the table of `T`, if it is of that type. -/
def rowAt (T : Itch.messages.Alternative) (m : Itch.AnyMessage × ℕ) : Option (ℕ × T.1.Val) :=
  if h : m.1.type = T then some (m.2, h ▸ m.1.value) else none

/-- The messages of type `T` with their positions, from `k` on. -/
def rowsOf (k : ℕ) (ms : List Itch.AnyMessage) (T : Itch.messages.Alternative) :
    List (ℕ × T.1.Val) := (ms.zipIdx k).filterMap (rowAt T)

/-- A position as the sequence number, which has 64 bits. -/
def sequenced {α : Type} (row : ℕ × α) : BitVec 64 × α := (BitVec.ofNat 64 row.1, row.2)

theorem rows_pushBack (w : ParquetWriter) (k : ℕ) (m : Itch.AnyMessage)
    (T : Itch.messages.Alternative) :
    (w.pushBack (BitVec.ofNat 64 k) m.type m.value).rows T =
      w.rows T ++ (rowsOf k [m] T).map sequenced := by
  by_cases h : m.type = T
  · subst h
    simp [ParquetWriter.pushBack, rowsOf, rowAt, sequenced]
  · have hne : T ≠ m.type := fun heq => h heq.symm
    simp [ParquetWriter.pushBack, rowsOf, rowAt, h, Function.update_of_ne hne]

theorem rowsOf_cons (k : ℕ) (m : Itch.AnyMessage) (ms : List Itch.AnyMessage)
    (T : Itch.messages.Alternative) :
    rowsOf k (m :: ms) T = rowsOf k [m] T ++ rowsOf (k + 1) ms T := by
  rw [rowsOf, List.zipIdx_cons, ← List.singleton_append, List.filterMap_append]
  rfl

/-- Messages that are delivered one after the other from position `k` on are pushed
to the tables of their types. -/
theorem deliver_parquetWriter (ms : List Itch.AnyMessage) (k : ℕ) (w : ParquetWriter) :
    ∃ w', deliver (parquetWriter p asserts)
        (numbered (BitVec.ofNat 64 k) (ms.map (Itch.AnyMessage.encoded p))) w = .ok () w' ∧
      (∀ T, w'.rows T = w.rows T ++ (rowsOf k ms T).map sequenced) ∧
      w'.count = w.count + BitVec.ofNat 64 ms.length := by
  induction ms generalizing k w with
  | nil => exact ⟨w, rfl, by simp [rowsOf], by simp⟩
  | cons m ms ih =>
    obtain ⟨w', hrun, hrows, hcount⟩ :=
      ih (k + 1) (w.pushBack (BitVec.ofNat 64 k) m.type m.value)
    rw [BitVec.ofNat_add] at hrun
    refine ⟨w', ?_, fun T => ?_, ?_⟩
    · rw [List.map_cons, numbered, deliver_cons]
      simp only [bind, EStateM.bind, parquetWriter_encoded]
      exact hrun
    · rw [hrows, rows_pushBack, rowsOf_cons k m ms, List.map_append, List.append_assoc]
    · rw [hcount, ParquetWriter.pushBack, List.length_cons, ← add_one_add_ofNat]

end Rows
end MdPrsr.Tools
