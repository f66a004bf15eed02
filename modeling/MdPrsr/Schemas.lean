import MdPrsr.Itch.Codec
import MdPrsr.Eobi.Agreement
import MdPrsr.Cme.GroupGuards

/-!
# The five message schemas

ITCH 5.0, two versions of EOBI and two of CME MDP 3.0 are each a `std::variant` of
messages. Only the CME messages have groups, behind one of two headers.
-/
namespace MdPrsr

def schemas : List Variant :=
  [Itch.messages, Eobi.V130.messages, Eobi.V131.messages, Cme.V9.messages, Cme.V13.messages]

theorem forall_schemas {P : Variant → Prop} (itch : P Itch.messages)
    (eobi130 : P Eobi.V130.messages) (eobi131 : P Eobi.V131.messages)
    (cme9 : P Cme.V9.messages) (cme13 : P Cme.V13.messages) : ∀ V ∈ schemas, P V := by
  simp only [schemas, List.forall_mem_cons]
  exact ⟨itch, eobi130, eobi131, cme9, cme13, fun _ hnil => absurd hnil List.not_mem_nil⟩

/-- A schema without groups has no group header. -/
theorem header_of_fixed {V : Variant} (hV : ∀ T ∈ V.alternatives, T.groups = []) :
    ∀ T ∈ V.alternatives, ∀ g ∈ T.groups,
      g.header = Cme.V13.groupSize ∨ g.header = Cme.V13.groupSize8Byte := by
  intro T hT g hg
  rw [hV T hT] at hg
  exact absurd hg List.not_mem_nil

theorem header_of_schema : ∀ V ∈ schemas, ∀ T ∈ V.alternatives, ∀ g ∈ T.groups,
    g.header = Cme.V13.groupSize ∨ g.header = Cme.V13.groupSize8Byte :=
  forall_schemas (header_of_fixed Itch.groups_eq_nil) (header_of_fixed Eobi.V130.groups_eq_nil)
    (header_of_fixed Eobi.V131.groups_eq_nil)
    (fun T hT => Cme.header_of_mem T (List.mem_append_left _ hT))
    (fun T hT => Cme.header_of_mem T (List.mem_append_right _ hT))

theorem narrow_of_schema : ∀ V ∈ schemas, ∀ T ∈ V.alternatives, ∀ g ∈ T.groups,
    g.header.Narrow := by
  intro V hV T hT g hg
  rcases header_of_schema V hV T hT g hg with hheader | hheader
  · rw [hheader]
    exact Cme.narrow_of_mem _ Cme.groupSize_mem
  · rw [hheader]
    exact Cme.narrow_of_mem _ Cme.groupSize8Byte_mem

end MdPrsr
