import MdPrsr.Eobi.Codec

/-!
# EOBI 13.0 and 13.1 decode the same values

The two schemas order their variants differently and give the packet header
another id. Of the other messages only `AddComplexInstrument` changed: its leg
component ends in two bytes of padding in 13.0 and in three more members in 13.1.
-/
namespace MdPrsr.Eobi
open Wire

theorem V130.groups_eq_nil : ∀ T ∈ V130.messages.alternatives, T.groups = [] :=
  Variant.groups_eq_nil_of_isEmpty (by decide)

/-- Every message but two has a namesake with the same layout in the other schema. -/
theorem select_namesake : ∀ T ∈ V130.messages.alternatives,
    T.typeId = 13400 ∨ T.typeId = 13004 ∨ ∃ U, V131.messages.select T.typeId = some U ∧
      T.name = U.name ∧ T.layout = U.layout := by
  simp only [V130.messages, List.forall_mem_cons]
  and_intros
  all_goals first
    | exact .inl rfl
    | exact .inr (.inl rfl)
    | exact .inr (.inr ⟨_, rfl, rfl, rfl⟩)
    | exact fun _ h => absurd h List.not_mem_nil

theorem no_old_packetHeader : ∀ U ∈ V131.messages.alternatives, U.typeId ≠ 13004 := by decide

theorem layout_eq_of_typeId_eq {T U : Message} (hT : T ∈ V130.messages.alternatives)
    (hU : U ∈ V131.messages.alternatives) (hid : T.typeId = U.typeId) (hne : T.typeId ≠ 13400) :
    T.name = U.name ∧ T.layout = U.layout := by
  rcases select_namesake T hT with h | h | ⟨U', hsel, hname, hlayout⟩
  · exact absurd h hne
  · exact absurd (hid.symm.trans h) (no_old_packetHeader U hU)
  · have hsel' : V131.messages.select T.typeId = some U :=
      Variant.select_eq_some_iff.mpr ⟨hU, hid.symm⟩
    obtain rfl : U' = U := Option.some.inj (hsel.symm.trans hsel')
    exact ⟨hname, hlayout⟩

/-- Both decoders reject the buffer as too short, or both select the message of
one name, stop at one place and show the same raw values. -/
def SameDecoding (p : Platform) (T U : Message) (bs : List UInt8) : Prop :=
  (V130.messages.decode p bs = .error .tooShort bs ∧
    V131.messages.decode p bs = .error .tooShort bs) ∨
  ∃ (v : T.Val) (w : U.Val) (rest : List UInt8),
    V130.messages.decode p bs = .ok ⟨T, v⟩ rest ∧ V131.messages.decode p bs = .ok ⟨U, w⟩ rest ∧
      T.name = U.name ∧ ∀ path, raw? v.root path = raw? w.root path

theorem sameDecoding (p : Platform) {T U : Message} (hT : T ∈ V130.messages.alternatives)
    (hU : U ∈ V131.messages.alternatives) (hid : T.typeId = U.typeId) (hne : T.typeId ≠ 13400)
    {bs : List UInt8} (hbs : V130.messages.idAt bs = T.typeId) : SameDecoding p T U bs := by
  have hTfixed := V130.groups_eq_nil T hT
  have hUfixed := V131.groups_eq_nil U hU
  have hbs' : V131.messages.idAt bs = U.typeId := hid ▸ hbs
  obtain ⟨hname, hlayout⟩ := layout_eq_of_typeId_eq hT hU hid hne
  by_cases hlen : T.layout.size ≤ bs.length
  · obtain ⟨v, hv, hroot⟩ := Variant.decode_of_fixed p hT hTfixed hbs hlen
    obtain ⟨w, hw, hroot'⟩ := Variant.decode_of_fixed p hU hUfixed hbs' (hlayout ▸ hlen)
    refine .inr ⟨v, w, _, hv, hlayout ▸ hw, hname, fun path => ?_⟩
    rw [hroot, hroot', hlayout]
    rfl
  · have hlt := Nat.lt_of_not_le hlen
    exact .inl ⟨Variant.decode_of_fixed_short p hT hTfixed hbs hlt,
      Variant.decode_of_fixed_short p hU hUfixed hbs' (hlayout ▸ hlt)⟩

/-! ### The changed leg component -/

/-- What both versions of `AddComplexInstrument` have in common. -/
def commonPart : Layout Kind := V131.addComplexInstrument.layout.upTo ["instrmtLegGrp", "legSide"]

theorem V130.addComplexInstrument_layout :
    V130.addComplexInstrument.layout = commonPart ++ [⟨["instrmtLegGrp", "pad2"], .padding 2⟩] := by
  decide +kernel

theorem V131.addComplexInstrument_layout : V131.addComplexInstrument.layout = commonPart ++
    [⟨["instrmtLegGrp", "relatedPriceType"], .optional .uint8 0xFF⟩,
      ⟨["instrmtLegGrp", "tradingStyle"], .optional .uint8 0xFF⟩,
      ⟨["instrmtLegGrp", "relatedPrice"], .optional .uint64 0x8000000000000000⟩] := by
  decide +kernel

/-- The two values of one buffer agree up to the side of the leg, and 13.1 reads
eight bytes more. -/
def SameUpToLegSide (p : Platform) (T U : Message) (bs : List UInt8) : Prop :=
  ∃ (v : T.Val) (w : U.Val),
    V130.messages.decode p bs = .ok ⟨T, v⟩ (bs.drop T.layout.size) ∧
      V131.messages.decode p bs = .ok ⟨U, w⟩ (bs.drop (T.layout.size + 8)) ∧
      ∀ path, declares (U.layout.upTo ["instrmtLegGrp", "legSide"]) path →
        raw? v.root path = raw? w.root path

theorem sameUpToLegSide (p : Platform) {bs : List UInt8}
    (hbs : V130.messages.idAt bs = V130.addComplexInstrument.typeId)
    (hlen : V131.addComplexInstrument.layout.size ≤ bs.length) :
    SameUpToLegSide p V130.addComplexInstrument V131.addComplexInstrument bs := by
  have hsize : V131.addComplexInstrument.layout.size =
      V130.addComplexInstrument.layout.size + 8 := by decide
  have hT : V130.addComplexInstrument ∈ V130.messages.alternatives :=
    Variant.mem_of_select 13400 rfl
  have hU : V131.addComplexInstrument ∈ V131.messages.alternatives :=
    Variant.mem_of_select 13400 rfl
  obtain ⟨v, hv, hroot⟩ := Variant.decode_of_fixed p hT rfl hbs (by omega)
  obtain ⟨w, hw, hroot'⟩ := Variant.decode_of_fixed p hU rfl hbs hlen
  refine ⟨v, w, hv, hsize ▸ hw, fun path hpath => ?_⟩
  have hcommon : path ∈ Record.declared rawObservation commonPart := hpath
  have hmem (M : Layout Kind) : path ∈ Record.declared rawObservation (commonPart ++ M) := by
    rw [Record.declared, List.filter_append, List.map_append]
    exact List.mem_append_left _ hcommon
  rw [hroot, hroot', V130.addComplexInstrument_layout, V131.addComplexInstrument_layout]
  exact Record.raw?_eq_of_common_prefix _ _ bs (by decide) (hmem _) (hmem _)

/-- Two schemas, one id: the decoders of 13.0 and 13.1 agree. -/
theorem decoders_agree (p : Platform) : ∀ T ∈ V130.messages.alternatives,
    ∀ U ∈ V131.messages.alternatives, T.typeId = U.typeId →
    ∀ bs, V130.messages.idAt bs = T.typeId →
      (T.typeId ≠ 13400 → SameDecoding p T U bs) ∧
      (T.typeId = 13400 → T.layout.size ≤ bs.length → U.layout.size ≤ bs.length →
        SameUpToLegSide p T U bs) := by
  intro T hT U hU hid bs hbs
  refine ⟨fun hne => sameDecoding p hT hU hid hne hbs, fun h _ hlen => ?_⟩
  have hT' : V130.messages.select 13400 = some T := Variant.select_eq_some_iff.mpr ⟨hT, h⟩
  have hU' : V131.messages.select 13400 = some U :=
    Variant.select_eq_some_iff.mpr ⟨hU, hid.symm.trans h⟩
  obtain rfl : V130.addComplexInstrument = T := Option.some.inj hT'
  obtain rfl : V131.addComplexInstrument = U := Option.some.inj hU'
  exact sameUpToLegSide p hbs hlen

theorem decoders_agree_orderDelete :
    SameDecoding default V130.orderDelete V131.orderDelete
        ([0, 0, 0x2E, 0x33] ++ List.replicate 60 0) ∧
      SameUpToLegSide default V130.addComplexInstrument V131.addComplexInstrument
        ([0, 0, 0x58, 0x34] ++ List.replicate 120 0) := by
  have hlen (head : List UInt8) (n : ℕ) :
      (head ++ List.replicate n 0).length = head.length + n := by simp
  constructor
  · exact (decoders_agree default V130.orderDelete (Variant.mem_of_select 13102 rfl)
      V131.orderDelete (Variant.mem_of_select 13102 rfl) rfl _ (by decide)).1 (by decide)
  · exact (decoders_agree default V130.addComplexInstrument (Variant.mem_of_select 13400 rfl)
      V131.addComplexInstrument (Variant.mem_of_select 13400 rfl) rfl _ (by decide)).2 rfl
      (by rw [hlen]; decide) (by rw [hlen]; decide)

end MdPrsr.Eobi
