import MdPrsr.Cme.Agreement
import MdPrsr.Cme.CrossVersion
import MdPrsr.Eobi.Agreement

/-!
# Two versions of a schema

The messages of CME MDP 3.0 and of EOBI exist in two versions each. What is written by a
sender of one version may reach the decoder of the other. Most templates are described
alike. In the others the newer version has more members; the two decoders then stop at
different places, but they do not contradict each other.
-/
namespace MdPrsr
open Wire

/-- Two layouts under which every buffer shows the same raw values. -/
def Overlaid (L M : Layout Kind) : Prop :=
  ∀ (C : LeafCodec Kind) (bs : List UInt8), SameRaws (C.readRecord L bs) (C.readRecord M bs)

/-- A message of the newer version for the same template. -/
structure Namesake (T U : Message) : Prop where
  name_eq : T.name = U.name
  overlaid : Overlaid T.layout U.layout

/-- Two versions of a schema, and the templates that are not described alike. -/
structure Versions where
  old : Variant
  new : Variant
  order_eq : old.order = new.order
  idOffset_eq : old.idOffset = new.idOffset
  idType_eq : old.idType = new.idType
  changed : List ℕ
  namesakes : ∀ T ∈ old.alternatives, ∀ U, new.select T.typeId = some U →
    Namesake T U ∧ (T.typeId ∈ changed ∨ T.Alike U)

namespace Versions
variable (V : Versions) (p : Platform)

theorem idAt_eq (bs : List UInt8) : V.old.idAt bs = V.new.idAt bs := by
  rw [Variant.idAt, Variant.idAt, V.order_eq, V.idOffset_eq, V.idType_eq]

/-- What both decoders accept is a message of one name with the same raw values in the
fixed members that both versions have. -/
theorem decode_ok {bs rest rest' : List UInt8} {a b : Decoded}
    (ha : V.old.decode p bs = .ok a rest) (hb : V.new.decode p bs = .ok b rest') :
    a.1.typeId = b.1.typeId ∧ a.1.name = b.1.name ∧ SameRaws a.2.root b.2.root := by
  obtain ⟨hT, hidT, hdecode⟩ := Variant.exists_of_decode p ha
  obtain ⟨hU, hidU, hdecode'⟩ := Variant.exists_of_decode p hb
  have hid : a.1.typeId = b.1.typeId := by rw [← hidT, ← hidU, V.idAt_eq]
  obtain ⟨hnamesake, -⟩ :=
    V.namesakes a.1 hT b.1 (Variant.select_eq_some_iff.mpr ⟨hU, hid.symm⟩)
  obtain ⟨-, hroot, -⟩ := Message.exists_of_decode _ hdecode
  obtain ⟨-, hroot', -⟩ := Message.exists_of_decode _ hdecode'
  refine ⟨hid, hnamesake.name_eq, ?_⟩
  rw [hroot, hroot', Variant.codec, Variant.codec, V.order_eq]
  exact hnamesake.overlaid _ bs

/-- On the other templates that both versions have the decoders do the same. -/
theorem decode_matched {bs : List UInt8} (hold : (V.old.select (V.old.idAt bs)).isSome)
    (hnew : (V.new.select (V.old.idAt bs)).isSome) (hid : V.old.idAt bs ∉ V.changed) :
    Decoder.Matched Decoded.Agree (V.old.decode p bs) (V.new.decode p bs) := by
  obtain ⟨T, hselT⟩ := Option.isSome_iff_exists.mp hold
  obtain ⟨U, hselU⟩ := Option.isSome_iff_exists.mp hnew
  obtain ⟨hT, hTid⟩ := Variant.select_eq_some_iff.mp hselT
  obtain ⟨hU, hUid⟩ := Variant.select_eq_some_iff.mp hselU
  obtain ⟨-, hchanged | halike⟩ := V.namesakes T hT U (hTid ▸ hselU)
  · exact absurd (hTid ▸ hchanged) hid
  · exact Variant.agree_decode p V.order_eq V.idOffset_eq V.idType_eq hT hU
      (hTid.trans hUid.symm) halike hTid.symm

end Versions

/-! ### CME MDP 3.0, versions 9 and 13 -/

namespace Cme

theorem template_cases : ∀ T ∈ V9.messages.alternatives,
    (V13.messages.select T.typeId).isNone ∨ T.typeId ∈ unchangedTemplates ∨
      T.typeId ∈ [54, 55, 56] := by
  decide

theorem name_eq_of_changed : ∀ id ∈ [54, 55, 56],
    (V9.messages.select id).map Message.name = (V13.messages.select id).map Message.name := by
  decide

theorem namesakes : ∀ T ∈ V9.messages.alternatives, ∀ U,
    V13.messages.select T.typeId = some U →
      Namesake T U ∧ (T.typeId ∈ [54, 55, 56] ∨ T.Alike U) := by
  intro T hT U hU
  have hT' : V9.messages.select T.typeId = some T := Variant.select_eq_some_iff.mpr ⟨hT, rfl⟩
  rcases template_cases T hT with hnone | hunchanged | hchanged
  · rw [hU] at hnone
    cases hnone
  · obtain ⟨T', U', hselT, hselU, halike⟩ := describedAlike _ hunchanged
    obtain rfl : T' = T := Option.some.inj (hselT.symm.trans hT')
    obtain rfl : U' = U := Option.some.inj (hselU.symm.trans hU)
    exact ⟨⟨halike.name_eq, halike.root.sameRaws⟩, .inr halike⟩
  · obtain ⟨T', U', hselT, hselU, hgrown⟩ := grown _ hchanged
    obtain rfl : T' = T := Option.some.inj (hselT.symm.trans hT')
    obtain rfl : U' = U := Option.some.inj (hselU.symm.trans hU)
    have hname := name_eq_of_changed _ hchanged
    rw [hT', hU] at hname
    refine ⟨⟨Option.some.inj hname, fun C bs => ?_⟩, .inl hchanged⟩
    exact sameRaws_of_prefix C (.inl hgrown.layout) rfl

def versions : Versions where
  old := V9.messages
  new := V13.messages
  order_eq := rfl
  idOffset_eq := rfl
  idType_eq := rfl
  changed := [54, 55, 56]
  namesakes := namesakes

end Cme

/-! ### EOBI 13.0 and 13.1 -/

namespace Eobi

theorem overlaid_addComplexInstrument :
    Overlaid V130.addComplexInstrument.layout V131.addComplexInstrument.layout := by
  intro C bs path hold hnew
  rw [V130.addComplexInstrument_layout] at hold ⊢
  rw [V131.addComplexInstrument_layout] at hnew ⊢
  exact Record.raw?_eq_of_common_prefix _ C bs (by decide) hold hnew

theorem namesakes : ∀ T ∈ V130.messages.alternatives, ∀ U,
    V131.messages.select T.typeId = some U →
      Namesake T U ∧ (T.typeId ∈ [13400] ∨ T.Alike U) := by
  intro T hT U hU
  obtain ⟨hU', hid⟩ := Variant.select_eq_some_iff.mp hU
  by_cases hchanged : T.typeId = 13400
  · have hselT : V130.messages.select 13400 = some T :=
      Variant.select_eq_some_iff.mpr ⟨hT, hchanged⟩
    rw [hchanged] at hU
    obtain rfl : V130.addComplexInstrument = T := Option.some.inj hselT
    obtain rfl : V131.addComplexInstrument = U := Option.some.inj hU
    exact ⟨⟨rfl, overlaid_addComplexInstrument⟩, .inl (List.mem_singleton.mpr rfl)⟩
  · obtain ⟨hname, hlayout⟩ := layout_eq_of_typeId_eq hT hU' hid.symm hchanged
    have hroot := interchangeable_of_eq hlayout
    refine ⟨⟨hname, hroot.sameRaws⟩, .inr ⟨hname, hroot, ?_⟩⟩
    rw [V130.groups_eq_nil T hT, V131.groups_eq_nil U hU']
    exact .nil

def versions : Versions where
  old := V130.messages
  new := V131.messages
  order_eq := rfl
  idOffset_eq := rfl
  idType_eq := rfl
  changed := [13400]
  namesakes := namesakes

end Eobi

/-- The decoders of two versions never contradict each other. Of a buffer that both accept
they make messages of one name with the same raw values in all fixed members that both
versions have; and unless the template is one of those that have changed, they accept or
reject every buffer alike, with the same groups and the same bytes left over. -/
theorem schemas_versions_agree (p : Platform) : ∀ V ∈ [Cme.versions, Eobi.versions],
    ∀ bs : List UInt8,
    (∀ a b rest rest', V.old.decode p bs = .ok a rest → V.new.decode p bs = .ok b rest' →
      a.1.typeId = b.1.typeId ∧ a.1.name = b.1.name ∧ SameRaws a.2.root b.2.root) ∧
    ((V.old.select (V.old.idAt bs)).isSome → (V.new.select (V.old.idAt bs)).isSome →
      V.old.idAt bs ∉ V.changed →
        Decoder.Matched Decoded.Agree (V.old.decode p bs) (V.new.decode p bs)) := by
  intro V _ bs
  exact ⟨fun _ _ _ _ ha hb => V.decode_ok p ha hb,
    fun hold hnew hid => V.decode_matched p hold hnew hid⟩

/-- A complex instrument of zeros that is long enough for both versions. -/
def complexInstrument : List UInt8 := [0, 0, 0x58, 0x34] ++ List.replicate 120 0

theorem schemas_versions_agree_complexInstrument :
    ∃ a b rest rest', Eobi.V130.messages.decode default complexInstrument = .ok a rest ∧
      Eobi.V131.messages.decode default complexInstrument = .ok b rest' ∧
      a.1.name = b.1.name ∧ SameRaws a.2.root b.2.root := by
  have hlen : complexInstrument.length = 124 := by
    rw [complexInstrument, List.length_append, List.length_replicate]
    rfl
  have hT : Eobi.V130.addComplexInstrument ∈ Eobi.V130.messages.alternatives :=
    Variant.mem_of_select 13400 rfl
  have hU : Eobi.V131.addComplexInstrument ∈ Eobi.V131.messages.alternatives :=
    Variant.mem_of_select 13400 rfl
  have hid : Eobi.V130.messages.idAt complexInstrument = 13400 := by decide
  have hid' : Eobi.V131.messages.idAt complexInstrument = 13400 := by decide
  obtain ⟨v, hv, -⟩ :=
    Variant.decode_of_fixed default hT rfl hid (by rw [hlen]; decide)
  obtain ⟨w, hw, -⟩ :=
    Variant.decode_of_fixed default hU rfl hid' (by rw [hlen]; decide)
  obtain ⟨-, hname, hraws⟩ := (schemas_versions_agree default Eobi.versions
    (List.mem_cons_of_mem _ List.mem_cons_self) complexInstrument).1 _ _ _ _ hv hw
  exact ⟨_, _, _, _, hv, hw, hname, hraws⟩

end MdPrsr
