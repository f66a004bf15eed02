import MdPrsr.Cme.Messages

/-!
# Schema versions 9 and 13 agree on the unchanged templates

The two schemas were generated apart. For the templates below they describe the
same members in the same order, with one exception: the entries of template 46
end in five bytes of padding in version 9, of which version 13 uses four.
-/
namespace MdPrsr.Cme
open Wire

/-- The templates with the same block layout in both versions. -/
def unchangedTemplates : List ℕ := [4, 12, 15, 16, 30, 37, 39, 46, 47, 48, 49, 50, 51, 52, 53]

/-- Both schemas have the template, and describe it alike. -/
def DescribedAlike (id : ℕ) : Prop :=
  ∃ T U, V9.messages.select id = some T ∧ V13.messages.select id = some U ∧ T.Alike U

theorem alike_of_eq {g g' : Group} (hname : g.name = g'.name) (hheader : g.header = g'.header)
    (hentry : g.entry.layout = g'.entry.layout) : Groups.Alike g g' :=
  ⟨hname, hheader, interchangeable_of_eq hentry⟩

/-- The members of a book entry that both versions have. -/
def bookEntry : Layout Kind :=
  V13.mdIncrementalRefreshBook46.noMDEntries.layout.upTo ["mDEntryType"]

theorem interchangeable_bookEntry :
    Interchangeable V9.mdIncrementalRefreshBook46.noMDEntries.layout
      V13.mdIncrementalRefreshBook46.noMDEntries.layout := by
  have hV9 : V9.mdIncrementalRefreshBook46.noMDEntries.layout =
      bookEntry ++ [⟨["padding"], .padding 5⟩] := by decide +kernel
  have hV13 : V13.mdIncrementalRefreshBook46.noMDEntries.layout = bookEntry ++
      [⟨["tradeableSize"], .optional .int32 2147483647⟩, ⟨["padding"], .padding 1⟩] := by
    decide +kernel
  rw [hV9, hV13]
  exact interchangeable_of_common_prefix rfl (by decide)

theorem describedAlike_46 : DescribedAlike 46 :=
  ⟨_, _, rfl, rfl, rfl, interchangeable_of_eq rfl,
    .cons ⟨rfl, rfl, interchangeable_bookEntry⟩ (.cons (alike_of_eq rfl rfl rfl) .nil)⟩

theorem describedAlike : ∀ id ∈ unchangedTemplates, DescribedAlike id := by
  simp only [unchangedTemplates, List.forall_mem_cons]
  and_intros
  -- one goal for each template, with no group, one group or two groups
  all_goals first
    | exact describedAlike_46
    | exact ⟨_, _, rfl, rfl, rfl, interchangeable_of_eq rfl, .nil⟩
    | exact ⟨_, _, rfl, rfl, rfl, interchangeable_of_eq rfl,
        .cons (alike_of_eq rfl rfl rfl) .nil⟩
    | exact ⟨_, _, rfl, rfl, rfl, interchangeable_of_eq rfl,
        .cons (alike_of_eq rfl rfl rfl) (.cons (alike_of_eq rfl rfl rfl) .nil)⟩
    | exact fun _ h => absurd h List.not_mem_nil

/-- On a buffer with an unchanged template id both decoders fail alike, or stop at
one place with the same raw values and the same number of entries in every group. -/
theorem unchanged_templates_agree (p : Platform) : ∀ id ∈ unchangedTemplates,
    ∀ bs, V9.messages.idAt bs = id →
      Decoder.Matched Decoded.Agree (V9.messages.decode p bs) (V13.messages.decode p bs) := by
  intro id hid bs hbs
  obtain ⟨T, U, hT, hU, h⟩ := describedAlike id hid
  obtain ⟨hT, hTid⟩ := Variant.select_eq_some_iff.mp hT
  obtain ⟨hU, hUid⟩ := Variant.select_eq_some_iff.mp hU
  exact Variant.agree_decode (V := V9.messages) (W := V13.messages) p rfl rfl rfl hT hU
    (hTid.trans hUid.symm) h (hbs.trans hTid.symm)

/-- A book refresh with one entry in each group and a byte behind it. The first entry ends in
five bytes that are padding in version 9, and a `tradeableSize` of 1000 and one byte of
padding in version 13. -/
def bookRefresh : List UInt8 :=
  [0, 0, 11, 0, 46, 0, 1, 0, 13, 0] ++ List.replicate 11 0 ++
    ([32, 0, 1] ++ List.replicate 27 1 ++ [0xE8, 3, 0, 0, 0]) ++
    ([24, 0, 0, 0, 0, 0, 0, 1] ++ List.replicate 24 2) ++ [9]

theorem unchanged_templates_agree_46 : ∃ root entry order root' entry' order',
    V9.messages.decode default bookRefresh =
      .ok ⟨V9.mdIncrementalRefreshBook46, root, .cons [entry] (.cons [order] .nil)⟩ [9] ∧
    V13.messages.decode default bookRefresh =
      .ok ⟨V13.mdIncrementalRefreshBook46, root', .cons [entry'] (.cons [order'] .nil)⟩ [9] ∧
    SameRaws root root' ∧ SameRaws entry entry' ∧ SameRaws order order' := by
  have h := unchanged_templates_agree default 46 (by decide) bookRefresh (by decide)
  obtain ⟨root, entry, order, hV9⟩ : ∃ root entry order,
      V9.messages.decode default bookRefresh =
        .ok ⟨V9.mdIncrementalRefreshBook46, root, .cons [entry] (.cons [order] .nil)⟩ [9] :=
    ⟨_, _, _, rfl⟩
  obtain ⟨root', entry', order', hV13⟩ : ∃ root entry order,
      V13.messages.decode default bookRefresh =
        .ok ⟨V13.mdIncrementalRefreshBook46, root, .cons [entry] (.cons [order] .nil)⟩ [9] :=
    ⟨_, _, _, rfl⟩
  refine ⟨root, entry, order, root', entry', order', hV9, hV13, ?_⟩
  rw [hV9, hV13] at h
  cases h with
  | ok rest hagree =>
    obtain ⟨-, hroot, hgroups⟩ := hagree
    cases hgroups with
    | cons _ hentries hrest =>
      cases hrest with
      | cons _ horders _ =>
        exact ⟨hroot, (List.forall₂_cons.mp hentries).1, (List.forall₂_cons.mp horders).1⟩

end MdPrsr.Cme
