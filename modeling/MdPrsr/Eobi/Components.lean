import MdPrsr.Eobi.Messages

/-!
# Components behind a counter

Four messages of each schema end with a component that EOBI repeats as often as
a counter in front of it says. The structs have the component as their last
member, once, and no coder looks at the counter or at `bodyLen`. So an image with
one component is decoded as it should be; of more components only the first is
read, and without one its bytes are taken from what follows the message.
-/
namespace MdPrsr.Eobi
open Wire

/-- A message of one schema that ends with a component and has a counter for it. -/
structure Repeating where
  messages : Variant
  message : Message
  counter : String
  member : String
  component : Struct
  listed : message ∈ messages.alternatives
  ungrouped : message.groups = [] := by rfl
  members_eq : message.members =
    message.members.dropLast ++ [(member, component.layout)] := by rfl
  fresh : member ∉ message.members.dropLast.map Prod.fst := by decide
  counted : [counter] ∈ (described message.members.dropLast).map Leaf.path := by decide

def V130.complexInstrumentLegs : Repeating where
  messages := messages
  message := addComplexInstrument
  counter := "noLegs"
  member := "instrmtLegGrp"
  component := instrmtLegGrpComp
  listed := Variant.mem_of_select 13400 rfl

def V130.summaryEntries : Repeating where
  messages := messages
  message := instrumentSummary
  counter := "noMDEntries"
  member := "mDInstrumentEntryGrp"
  component := mdInstrumentEntryGrpComp
  listed := Variant.mem_of_select 13601 rfl

def V130.changedStates : Repeating where
  messages := messages
  message := massInstrumentStateChange
  counter := "noRelatedSym"
  member := "secMassStatGrp"
  component := secMassStatGrpComp
  listed := Variant.mem_of_select 13302 rfl

def V130.reversedEntries : Repeating where
  messages := messages
  message := tradeReversal
  counter := "noMDEntries"
  member := "mDTradeEntryGrp"
  component := mdTradeEntryGrpComp
  listed := Variant.mem_of_select 13200 rfl

def V131.complexInstrumentLegs : Repeating where
  messages := messages
  message := addComplexInstrument
  counter := "noLegs"
  member := "instrmtLegGrp"
  component := instrmtLegGrpComp
  listed := Variant.mem_of_select 13400 rfl

def V131.summaryEntries : Repeating where
  messages := messages
  message := instrumentSummary
  counter := "noMDEntries"
  member := "mDInstrumentEntryGrp"
  component := mdInstrumentEntryGrpComp
  listed := Variant.mem_of_select 13601 rfl

def V131.changedStates : Repeating where
  messages := messages
  message := massInstrumentStateChange
  counter := "noRelatedSym"
  member := "secMassStatGrp"
  component := secMassStatGrpComp
  listed := Variant.mem_of_select 13302 rfl

def V131.reversedEntries : Repeating where
  messages := messages
  message := tradeReversal
  counter := "noMDEntries"
  member := "mDTradeEntryGrp"
  component := mdTradeEntryGrpComp
  listed := Variant.mem_of_select 13200 rfl

namespace Repeating

def all : List Repeating :=
  [V130.complexInstrumentLegs, V130.summaryEntries, V130.changedStates, V130.reversedEntries,
    V131.complexInstrumentLegs, V131.summaryEntries, V131.changedStates, V131.reversedEntries]

variable (R : Repeating)

/-- The members in front of the component. -/
def fixed : Layout Kind := described R.message.members.dropLast

def componentSize : ℕ := R.component.layout.size

theorem size_layout : R.message.layout.size = R.fixed.size + R.componentSize := by
  have hlast : (described [(R.member, R.component.layout)]).size = R.component.layout.size := by
    rw [described, List.flatMap_cons, List.flatMap_nil, List.append_nil, size_map_under]
  rw [Message.layout, R.members_eq, described_append, Layout.size_append, hlast]
  rfl

/-- The component that a value of the message holds, member by member. -/
def shown (v : R.message.Val) (path : List String) : Option Raw := raw? v.root (R.member :: path)

variable (p : Platform)

/-- A component as it stands on the wire, member by member. -/
def sent (bs : List UInt8) (path : List String) : Option Raw :=
  raw? ((R.messages.codec p).readRecord R.component.layout bs) path

/-- The fixed part with `n` in its counter and the size of the whole in `bodyLen`, and
`n` components behind it. -/
structure Image (n : ℕ) (head : List UInt8) (components : List (List UInt8)) : Prop where
  head_length : head.length = R.fixed.size
  templateID : R.messages.idAt head = R.message.typeId
  counter : raw? ((R.messages.codec p).readRecord R.fixed head) [R.counter] = some (.bits 1 n)
  bodyLen : raw? ((R.messages.codec p).readRecord R.fixed head) ["messageHeader", "bodyLen"] =
    some (.bits 2 (head ++ components.flatten).length)
  count : components.length = n
  component_length : ∀ c ∈ components, c.length = R.componentSize

/-- The fixed part holds the template id, and a component is not empty. -/
theorem sizes : ∀ R ∈ all,
    R.messages.idOffset + R.messages.idType.width ≤ R.fixed.size ∧ 0 < R.componentSize := by
  decide

variable {R p} {n : ℕ} {head : List UInt8} {components : List (List UInt8)}

theorem Image.idAt_append (h : R.Image p n head components) (hR : R ∈ all)
    (behind : List UInt8) : R.messages.idAt (head ++ behind) = R.message.typeId := by
  have hid := (sizes R hR).1
  rw [← h.head_length] at hid
  rw [← h.templateID, Variant.idAt, Variant.idAt, List.drop_append_of_le_length (by omega),
    List.take_append_of_le_length (by rw [List.length_drop]; omega)]

/-- Too little behind the fixed part for a component. -/
theorem Image.decode_of_lt (h : R.Image p n head components) (hR : R ∈ all)
    {behind : List UInt8} (hlt : behind.length < R.componentSize) :
    R.messages.decode p (head ++ behind) = .error .tooShort (head ++ behind) := by
  apply Variant.decode_of_fixed_short p R.listed R.ungrouped
    (h.idAt_append hR behind)
  rw [R.size_layout, List.length_append, h.head_length]
  omega

/-- Whatever the counter says, what stands behind the fixed part is one component. -/
theorem Image.decode_of_le (h : R.Image p n head components) (hR : R ∈ all)
    {behind : List UInt8} (hle : R.componentSize ≤ behind.length) :
    ∃ v : R.message.Val,
      R.messages.decode p (head ++ behind) = .ok ⟨R.message, v⟩ (behind.drop R.componentSize) ∧
      R.shown v = R.sent p (behind.take R.componentSize) := by
  have hsize : R.message.layout.size ≤ (head ++ behind).length := by
    rw [R.size_layout, List.length_append, h.head_length]
    omega
  obtain ⟨v, hv, hroot⟩ := Variant.decode_of_fixed p R.listed R.ungrouped
    (h.idAt_append hR behind) hsize
  rw [R.size_layout, ← List.drop_drop, List.drop_left' h.head_length] at hv
  refine ⟨v, hv, funext fun path => ?_⟩
  have hlast := raw?_readRecord_last (R.messages.codec p) R.fresh R.component.layout
    (head ++ behind) path
  rw [← R.members_eq] at hlast
  unfold shown sent
  have hbehind : (head ++ behind).drop (described R.message.members.dropLast).size = behind :=
    List.drop_left' h.head_length
  have htake : (R.messages.codec p).readRecord R.component.layout (behind.take R.componentSize) =
      (R.messages.codec p).readRecord R.component.layout behind :=
    (R.messages.codec p).readRecord_take R.component.layout behind
  rw [hroot, Message.layout, hlast, hbehind, htake]

/-- The message holds the first component and the cursor stops behind it. -/
theorem Image.decode_cons {c : List UInt8} {cs : List (List UInt8)}
    (h : R.Image p n head (c :: cs)) (hR : R ∈ all) (s : List UInt8) :
    ∃ v : R.message.Val,
      R.messages.decode p (head ++ ((c :: cs).flatten ++ s)) =
        .ok ⟨R.message, v⟩ (cs.flatten ++ s) ∧
      R.shown v = R.sent p c := by
  have hc := h.component_length c List.mem_cons_self
  rw [List.flatten_cons, List.append_assoc]
  have hle : R.componentSize ≤ (c ++ (cs.flatten ++ s)).length := by
    rw [List.length_append, hc]
    exact Nat.le_add_right _ _
  obtain ⟨v, hv, hshown⟩ := h.decode_of_le hR hle
  rw [List.drop_left' hc] at hv
  rw [List.take_left' hc] at hshown
  exact ⟨v, hv, hshown⟩

/-- The cursor stops behind the image, with all components in the message, exactly when
there is one. -/
theorem Image.decode_all_iff (h : R.Image p n head components) (hR : R ∈ all) (s : List UInt8) :
    (∃ v : R.message.Val,
      R.messages.decode p (head ++ (components.flatten ++ s)) = .ok ⟨R.message, v⟩ s ∧
      [R.shown v] = components.map (R.sent p)) ↔ n = 1 := by
  have hcount := h.count
  constructor
  · intro hall
    obtain ⟨v, -, hshown⟩ := hall
    have hlen := congrArg List.length hshown
    rw [List.length_map, List.length_singleton] at hlen
    omega
  · intro hn
    obtain ⟨c, rfl⟩ := List.length_eq_one_iff.mp (hcount.trans hn)
    obtain ⟨v, hv, hshown⟩ := h.decode_cons hR s
    exact ⟨v, hv, by rw [List.map_singleton, hshown]⟩

/-- Of an image with components the first is read and the others are left over. An image
without one is too short, or takes the bytes of a component from what follows it. So a
message is decoded up to its end exactly when its counter is one. -/
theorem decode_components (p : Platform) : ∀ R ∈ all, ∀ (n : ℕ) (head : List UInt8)
    (components : List (List UInt8)), R.Image p n head components → ∀ s : List UInt8,
    (∀ c cs, components = c :: cs → ∃ v : R.message.Val,
      R.messages.decode p (head ++ (components.flatten ++ s)) =
        .ok ⟨R.message, v⟩ (cs.flatten ++ s) ∧ R.shown v = R.sent p c) ∧
    (components = [] →
      (s.length < R.componentSize →
        R.messages.decode p (head ++ (components.flatten ++ s)) = .error .tooShort (head ++ s)) ∧
      (R.componentSize ≤ s.length → ∃ v : R.message.Val,
        R.messages.decode p (head ++ (components.flatten ++ s)) =
          .ok ⟨R.message, v⟩ (s.drop R.componentSize) ∧
        R.shown v = R.sent p (s.take R.componentSize))) ∧
    ((∃ v : R.message.Val,
      R.messages.decode p (head ++ (components.flatten ++ s)) = .ok ⟨R.message, v⟩ s ∧
      [R.shown v] = components.map (R.sent p)) ↔ n = 1) := by
  intro R hR n head components h s
  refine ⟨?_, ?_, h.decode_all_iff hR s⟩
  · rintro c cs rfl
    exact h.decode_cons hR s
  · rintro rfl
    exact ⟨fun hlt => h.decode_of_lt hR hlt, fun hle => h.decode_of_le hR hle⟩

/-- The fixed part of a trade reversal of `n` entries. -/
def tradeReversalHead (bodyLen n : UInt8) : List UInt8 :=
  [bodyLen, 0, 0x90, 0x33] ++ List.replicate 51 0 ++ [n]

theorem reversedEntries_mem : V131.reversedEntries ∈ all := by simp [all]

/-- An entry with a price and nothing else. -/
def tradeEntry (price : UInt8) : List UInt8 := price :: List.replicate 23 0

theorem decode_components_reversal :
    ∃ v : V131.tradeReversal.Val,
      V131.messages.decode default (tradeReversalHead 80 1 ++ ([tradeEntry 5].flatten ++ [7])) =
        .ok ⟨V131.tradeReversal, v⟩ [7] ∧
      [V131.reversedEntries.shown v] = [tradeEntry 5].map (V131.reversedEntries.sent default) :=
  (decode_components default V131.reversedEntries reversedEntries_mem 1 (tradeReversalHead 80 1)
    [tradeEntry 5] ⟨by decide, by decide, rfl, rfl, rfl, by decide⟩ [7]).2.2.mpr rfl

/-- A trade reversal without entries is rejected, and of two entries the second is left over. -/
theorem decode_components_fails :
    V131.messages.decode default (tradeReversalHead 56 0 ++ ([].flatten ++ [])) =
        .error .tooShort (tradeReversalHead 56 0) ∧
    (∃ v : V131.tradeReversal.Val,
      V131.messages.decode default
          (tradeReversalHead 104 2 ++ ([tradeEntry 5, tradeEntry 6].flatten ++ [])) =
        .ok ⟨V131.tradeReversal, v⟩ (tradeEntry 6)) ∧
    ¬ ∀ (p : Platform), ∀ R ∈ all, ∀ (n : ℕ) (head : List UInt8) (components : List (List UInt8)),
      R.Image p n head components → ∀ s : List UInt8, ∃ v : R.message.Val,
        R.messages.decode p (head ++ (components.flatten ++ s)) = .ok ⟨R.message, v⟩ s ∧
        [R.shown v] = components.map (R.sent p) := by
  have hnone : V131.reversedEntries.Image default 0 (tradeReversalHead 56 0) [] :=
    ⟨by decide, by decide, rfl, rfl, rfl, by decide⟩
  have htwo : V131.reversedEntries.Image default 2 (tradeReversalHead 104 2)
      [tradeEntry 5, tradeEntry 6] :=
    ⟨by decide, by decide, rfl, rfl, rfl, by decide⟩
  have hreject : V131.messages.decode default (tradeReversalHead 56 0 ++ ([].flatten ++ [])) =
      .error .tooShort (tradeReversalHead 56 0) :=
    hnone.decode_of_lt reversedEntries_mem (show ([] : List UInt8).length < _ by decide)
  obtain ⟨v, hv, -⟩ := htwo.decode_cons reversedEntries_mem []
  refine ⟨hreject, ⟨v, hv⟩, fun h => ?_⟩
  obtain ⟨w, hw, -⟩ := h default V131.reversedEntries reversedEntries_mem 0 _ [] hnone []
  cases hreject.symm.trans hw

end Repeating
end MdPrsr.Eobi
