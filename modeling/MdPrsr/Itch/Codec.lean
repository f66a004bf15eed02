import MdPrsr.Itch.Messages

/-!
# The ITCH 5.0 codec is a bijection

No message has padding, so every byte of a message comes back, and the six-byte
timestamp is the only member with values that the wire cannot carry.
-/
namespace MdPrsr.Itch
open Wire

theorem groups_eq_nil : ∀ T ∈ messages.alternatives, T.groups = [] :=
  Variant.groups_eq_nil_of_isEmpty (by decide)

theorem data_of_mem : ∀ T ∈ messages.alternatives, ∀ f ∈ T.layout, f.kind.data = true := by
  decide +kernel

/-- Every message has one timestamp, behind the type, the locate code and the tracking number. -/
theorem timestamp_of_mem : ∀ T ∈ messages.alternatives,
    T.layout.locate ["timestamp"] = some (5, .timestamp) ∧
      (T.layout.filter fun f => f.kind = .timestamp).length = 1 := by
  decide +kernel

theorem idAt_cons (b : UInt8) (bs : List UInt8) : messages.idAt (b :: bs) = b.toNat := by
  simp [Variant.idAt, messages, Scalar.width, ByteOrder.value]

/-- The timestamp of the message fits six bytes. -/
def Timely {T : Message} (v : T.Val) : Prop :=
  ∀ t, raw? v.root ["timestamp"] = some (.bits 8 t) → t < 2 ^ 48

theorem carried_of_timely {T : Message} (hT : T ∈ messages.alternatives) {v : T.Val}
    (h : Timely v) : Message.Carried v := by
  obtain ⟨hloc, hone⟩ := timestamp_of_mem T hT
  exact ⟨fits_of_one_timestamp hloc hone h, Groups.forall_of_eq_nil (groups_eq_nil T hT) _⟩

/-- A value of the variant `messages` that names its type and fits the wire. -/
structure AnyMessage where
  type : messages.Alternative
  value : type.1.Val
  tagged : messages.Tagged value
  timely : Timely value

namespace AnyMessage

def encoded (p : Platform) (m : AnyMessage) : List UInt8 :=
  Message.bytes (messages.codec p) m.value

theorem decode_encoded (p : Platform) (m : AnyMessage) (rest : List UInt8) :
    messages.decode p (m.encoded p ++ rest) = .ok ⟨m.type, m.value⟩ rest :=
  Variant.reads_bytes p m.type.2 m.tagged (carried_of_timely m.type.2 m.timely) rest

theorem size_le : ∀ T ∈ messages.alternatives, T.layout.size ≤ 50 := by
  decide +kernel

theorem length_encoded_le (p : Platform) (m : AnyMessage) : (m.encoded p).length ≤ 50 := by
  rw [encoded, Message.bytes_of_fixed _ (groups_eq_nil m.type.1 m.type.2),
    (messages.codec p).length_writeRecord]
  exact size_le m.type.1 m.type.2

end AnyMessage

/-- Reading a message from any bytes that name it and writing it gives the bytes
back; writing a message and reading it gives the message back. -/
theorem messages_codec (p : Platform) : ∀ T ∈ messages.alternatives,
    (∀ (b : UInt8) (bs : List UInt8), b.toNat = T.typeId → T.layout.size ≤ (b :: bs).length →
      ∃ v : T.Val, messages.decode p (b :: bs) = .ok ⟨T, v⟩ ((b :: bs).drop T.layout.size) ∧
        Message.encode (messages.codec p) v = .ok ((b :: bs).take T.layout.size)) ∧
    (∀ v : T.Val, messages.Tagged v → Timely v →
      ∃ out, Message.encode (messages.codec p) v = .ok out ∧
        ∀ s, messages.decode p (out ++ s) = .ok ⟨T, v⟩ s) := by
  intro T hT
  have hfixed := groups_eq_nil T hT
  constructor
  · intro b bs hb hlen
    have hid : messages.idAt (b :: bs) = T.typeId := by rw [idAt_cons, hb]
    obtain ⟨v, hv, hroot⟩ := Variant.decode_of_fixed p hT hfixed hid hlen
    refine ⟨v, hv, ?_⟩
    rw [Message.encode_eq, Variant.bytes_of_read p hfixed (data_of_mem T hT) hlen hroot]
  · intro v htag htime
    exact ⟨_, Message.encode_eq _ v, Variant.reads_bytes p hT htag (carried_of_timely hT htime)⟩

/-- A system event of the opening of the market, one nanosecond after midnight. -/
def startOfMarket : systemEvent.Val where
  root := .cons (83 : BitVec 8) (.cons (0 : BitVec 16) (.cons (2 : BitVec 16)
    (.cons (1 : BitVec 64) (.cons (81 : BitVec 8) .nil))))
  groups := .nil

theorem messages_codec_systemEvent :
    (∃ v : systemEvent.Val,
      messages.decode default (83 :: List.replicate 12 0) = .ok ⟨systemEvent, v⟩ [0] ∧
        Message.encode (messages.codec default) v = .ok (83 :: List.replicate 11 0)) ∧
    ∃ out, Message.encode (messages.codec default) startOfMarket = .ok out ∧
      ∀ s, messages.decode default (out ++ s) = .ok ⟨systemEvent, startOfMarket⟩ s := by
  have h := messages_codec default systemEvent List.mem_cons_self
  constructor
  · exact h.1 83 (List.replicate 12 0) (by decide) (by decide)
  · refine h.2 startOfMarket rfl fun t ht => ?_
    cases ht
    decide

end MdPrsr.Itch
