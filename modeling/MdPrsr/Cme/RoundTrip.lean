import MdPrsr.Cme.Messages

/-!
# CME MDP3 messages come back from the wire

A message of schema version 13 is found again behind its own encoding: the fixed
members, each of up to seven groups behind the other, and every entry in order.
The one limit is the byte that counts the entries of a group.

The size of a message has no such limit: what `encoded_sizeof` announces is
written, however many entries there are.
-/
namespace MdPrsr
open Wire

namespace Groups

/-- The number of entries of every group. -/
def counts {gs : List Group} : Groups gs → List ℕ
  | .nil => []
  | .cons data rest => data.length :: counts rest

/-- The headers and the entries of groups with so many entries. -/
def sizeOfCounts : List Group → List ℕ → ℕ
  | g :: gs, n :: ns => g.headerSize + n * g.entrySize + sizeOfCounts gs ns
  | _, _ => 0

theorem length_counts {gs : List Group} (v : Groups gs) : v.counts.length = gs.length := by
  induction v with
  | nil => rfl
  | cons data rest ih => rw [counts, List.length_cons, List.length_cons, ih]

/-- Only the numbers of entries matter. -/
theorem encodedSizeof_eq {gs : List Group} (v : Groups gs) :
    v.encodedSizeof = sizeOfCounts gs v.counts := by
  induction v with
  | nil => rfl
  | cons data rest ih =>
    rw [encodedSizeof, counts, sizeOfCounts, ih, Group.encodedSizeof, Nat.mul_comm]

end Groups

namespace Cme.V13

theorem untimed : ∀ T ∈ messages.alternatives,
    (∀ f ∈ T.layout, f.kind ≠ .timestamp) ∧
      ∀ g ∈ T.groups, g.header.countBits = 8 ∧ ∀ f ∈ g.entry.layout, f.kind ≠ .timestamp := by
  decide +kernel

theorem carried_of_count {T : Message} (hT : T ∈ messages.alternatives) {v : T.Val}
    (h : v.groups.Forall fun _ data => data.length ≤ 255) : Message.Carried v := by
  obtain ⟨hroot, hgroups⟩ := untimed T hT
  refine ⟨fits_of_no_timestamp hroot _, h.imp fun g hg data hdata => ⟨?_, fun r _ => ?_⟩⟩
  · rw [Group.capacity, (hgroups g hg).1]
    exact hdata
  · exact fits_of_no_timestamp (hgroups g hg).2 r

/-- A message with its own template id and countable groups is decoded from its
encoding, up to the first byte behind it. -/
theorem messages_round_trip (p : Platform) : ∀ T ∈ messages.alternatives, ∀ v : T.Val,
    messages.Tagged v → v.groups.Forall (fun _ data => data.length ≤ 255) →
    ∃ out, Message.encode (messages.codec p) v = .ok out ∧
      ∀ s, messages.decode p (out ++ s) = .ok ⟨T, v⟩ s := by
  intro T hT v htag hcount
  exact ⟨_, Message.encode_eq _ v, Variant.reads_bytes p hT htag (carried_of_count hT hcount)⟩

/-- A channel reset of channels 310 and 312. -/
def twoChannels : channelReset4.Val where
  root := .cons (21 : BitVec 16) (.cons (9 : BitVec 16) (.cons (4 : BitVec 16)
    (.cons (1 : BitVec 16) (.cons (13 : BitVec 16) (.cons (0 : BitVec 64)
      (.cons (128 : BitVec 8) .nil))))))
  groups := .cons [.cons (310 : BitVec 16) .nil, .cons (312 : BitVec 16) .nil] .nil

theorem messages_round_trip_twoChannels :
    ∃ out, Message.encode (messages.codec default) twoChannels = .ok out ∧
      ∀ s, messages.decode default (out ++ s) = .ok ⟨channelReset4, twoChannels⟩ s := by
  have hmem : channelReset4 ∈ messages.alternatives :=
    Variant.mem_of_select 4 rfl
  exact messages_round_trip default channelReset4 hmem twoChannels rfl ⟨by decide, trivial⟩

/-- The encoder writes as many bytes as are announced: the fixed members, and of every
group its header and its entries. -/
theorem messages_size (p : Platform) : ∀ T ∈ messages.alternatives, ∀ (v : T.Val) (room : ℤ),
    Message.encodedSizeof v ≤ room →
    ∃ out, Message.encodeTo (messages.codec p) room v = .ok out ∧
      out.length = Message.encodedSizeof v ∧
      Message.encodedSizeof v = T.layout.size + Groups.sizeOfCounts T.groups v.groups.counts ∧
      v.groups.counts.length = T.groups.length := by
  intro T _ v room hroom
  refine ⟨_, Message.encodeTo_of_le _ hroom, Message.length_bytes _ v, ?_, v.groups.length_counts⟩
  rw [Message.encodedSizeof, v.groups.encodedSizeof_eq]

example : messages.alternatives.length = 31 := by decide

/-- A channel reset of so many channels. -/
def manyChannels (n : ℕ) : channelReset4.Val where
  root := twoChannels.root
  groups := .cons (List.replicate n (.cons (310 : BitVec 16) .nil)) .nil

theorem encodedSizeof_manyChannels (n : ℕ) :
    Message.encodedSizeof (manyChannels n) = 22 + 2 * n := by
  have h : Message.encodedSizeof (manyChannels n) = 19 + (3 + 2 * n + 0) :=
    congrArg (fun k => 19 + (3 + 2 * k + 0)) List.length_replicate
  omega

theorem messages_size_manyChannels :
    ∃ out, Message.encodeTo (messages.codec default) 700 (manyChannels 300) = .ok out ∧
      out.length = 622 := by
  have hmem : channelReset4 ∈ messages.alternatives :=
    Variant.mem_of_select 4 rfl
  have hroom : (Message.encodedSizeof (manyChannels 300) : ℤ) ≤ 700 := by
    rw [encodedSizeof_manyChannels]
    decide
  obtain ⟨out, hrun, hlen, -⟩ :=
    messages_size default channelReset4 hmem (manyChannels 300) 700 hroom
  exact ⟨out, hrun, hlen.trans (encodedSizeof_manyChannels 300)⟩

end Cme.V13
end MdPrsr
