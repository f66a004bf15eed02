import MdPrsr.Eobi.Messages

/-!
# Round trips of the EOBI 13.1 codec

Every message has a fixed size. What is decoded from a buffer is encoded with
the same bytes except in padding, and null stays null: an optional converted to
`std::optional` and back is the optional it was.
-/
namespace MdPrsr.Eobi.V131
open Wire

theorem groups_eq_nil : ∀ T ∈ messages.alternatives, T.groups = [] :=
  Variant.groups_eq_nil_of_isEmpty (by decide)

/-- `w` is encoded like the buffer it was read from except in padding, and it is
read back from its encoding. -/
def Recoded (p : Platform) {T : Message} (w : T.Val) (bs : List UInt8) : Prop :=
  ∃ out, Message.encode (messages.codec p) w = .ok out ∧ out.length = T.layout.size ∧
    (∀ i : ℕ, (T.layout.mask Kind.data)[i]? = some true → out[i]? = bs[i]?) ∧
    ∀ s, messages.decode p (out ++ s) = .ok ⟨T, w⟩ s

theorem recoded_of_read (p : Platform) {T : Message} (hT : T ∈ messages.alternatives)
    {bs : List UInt8} (hlen : T.layout.size ≤ bs.length) (hid : messages.idAt bs = T.typeId)
    {v : T.Val} (hroot : v.root = (messages.codec p).readRecord T.layout bs) :
    Recoded p v bs := by
  have hfixed := groups_eq_nil T hT
  refine ⟨_, Message.encode_eq _ v, ?_, ?_, ?_⟩
  · rw [Message.bytes_of_fixed _ hfixed, LeafCodec.length_writeRecord]
  · exact fun i hi => Variant.getElem?_bytes_of_read p hfixed hlen hroot hi
  · exact Variant.reads_bytes p hT (Variant.tagged_of_read p hT hid hlen hroot)
      (Variant.carried_of_read p hfixed hlen hroot)

/-- A buffer with the id of a message and long enough for it is decoded as that
message, which is recoded as it stands and through `std::optional`. -/
theorem messages_recode (p : Platform) : ∀ T ∈ messages.alternatives, ∀ bs : List UInt8,
    T.layout.size ≤ bs.length → messages.idAt bs = T.typeId →
    ∃ v : T.Val, messages.decode p bs = .ok ⟨T, v⟩ (bs.drop T.layout.size) ∧
      Recoded p v bs ∧ v.root.Forall Kind.NullIsAbsent ∧
      Message.throughStdOptional v = v ∧ Recoded p (Message.throughStdOptional v) bs := by
  intro T hT bs hlen hid
  obtain ⟨v, hv, hroot⟩ := Variant.decode_of_fixed p hT (groups_eq_nil T hT) hid hlen
  have hrec := recoded_of_read p hT hlen hid hroot
  have hstd := Message.throughStdOptional_eq v
  refine ⟨v, hv, hrec, ?_, hstd, hstd.symm ▸ hrec⟩
  exact v.root.forall_of_all fun f _ w => Kind.nullIsAbsent f.kind w

/-- A quote request with no quantity and no side, with bytes in its padding and one byte of
the next message. -/
def quoteRequestImage : List UInt8 :=
  [40, 0, 0xBF, 0x34, 1, 0, 0, 0] ++ [9, 0, 0, 0, 0, 0, 0, 0] ++ [0, 0, 0, 0, 0, 0, 0, 0x80] ++
    [0xFF] ++ [1, 2, 3, 4, 5, 6, 7] ++ [5, 0, 0, 0, 0, 0, 0, 0] ++ [7]

theorem messages_recode_quoteRequest :
    ∃ v : quoteRequest.Val, messages.decode default quoteRequestImage = .ok ⟨quoteRequest, v⟩ [7] ∧
      Recoded default v quoteRequestImage ∧ v.root.Forall Kind.NullIsAbsent ∧
      Message.throughStdOptional v = v ∧
      Recoded default (Message.throughStdOptional v) quoteRequestImage := by
  have hmem : quoteRequest ∈ messages.alternatives := Variant.mem_of_select 13503 rfl
  exact messages_recode default quoteRequest hmem quoteRequestImage (by decide) (by decide)

end MdPrsr.Eobi.V131
