import MdPrsr.Wire.ByteOrder

/-!
# Cutting a stream into frames

A cutter takes one complete frame off the front of a buffer. What it has cut
does not change when more input arrives, so a stream may be cut piece by piece
with the uncut rest carried over: `frames_append` and `rest_append`.

A reader with a buffer of bounded capacity is stuck once the buffer is full and
holds no complete frame. `bounded` is what such a reader can deliver of a
stream, and `bounded_append` is its carry-over law; the frame where it gets
stuck is the first one that is longer than the buffer.

Frames with their length in front are the instance used below.
-/
namespace MdPrsr.Wire

structure Cutter (α β : Type) where
  cut : List α → Option (β × List α)
  shrinks : ∀ {bs rest : List α} {f : β}, cut bs = some (f, rest) → rest.length < bs.length
  suffix : ∀ {bs rest : List α} {f : β}, cut bs = some (f, rest) → rest <:+ bs
  stable : ∀ {bs rest : List α} {f : β} (more : List α), cut bs = some (f, rest) →
    cut (bs ++ more) = some (f, rest ++ more)

namespace Cutter
variable {α β : Type} (C : Cutter α β)

/-- All frames that are complete, and what is left behind them. -/
def drain (bs : List α) : List β × List α :=
  match _h : C.cut bs with
  | none => ([], bs)
  | some (f, rest) => (f :: (drain rest).1, (drain rest).2)
termination_by bs.length
decreasing_by all_goals exact C.shrinks _h

def frames (bs : List α) : List β := (C.drain bs).1

def rest (bs : List α) : List α := (C.drain bs).2

variable {C}

theorem drain_of_none {bs : List α} (h : C.cut bs = none) : C.drain bs = ([], bs) := by
  rw [drain]
  split
  · rfl
  · simp_all

theorem drain_of_some {bs r : List α} {f : β} (h : C.cut bs = some (f, r)) :
    C.drain bs = (f :: (C.drain r).1, (C.drain r).2) := by
  rw [drain]
  split
  · simp_all
  · simp_all

theorem frames_of_none {bs : List α} (h : C.cut bs = none) : C.frames bs = [] := by
  rw [frames, drain_of_none h]

theorem rest_of_none {bs : List α} (h : C.cut bs = none) : C.rest bs = bs := by
  rw [rest, drain_of_none h]

theorem frames_of_some {bs r : List α} {f : β} (h : C.cut bs = some (f, r)) :
    C.frames bs = f :: C.frames r := by
  rw [frames, drain_of_some h, frames]

theorem rest_of_some {bs r : List α} {f : β} (h : C.cut bs = some (f, r)) :
    C.rest bs = C.rest r := by
  rw [rest, drain_of_some h, rest]

/-- Induction along the frames of a buffer. -/
theorem cutInduction {P : List α → Prop} (none : ∀ bs, C.cut bs = none → P bs)
    (some : ∀ bs f r, C.cut bs = some (f, r) → P r → P bs) (bs : List α) : P bs := by
  induction hn : bs.length using Nat.strong_induction_on generalizing bs with
  | _ n ih =>
    match hc : C.cut bs with
    | .none => exact none bs hc
    | .some (f, r) => exact some bs f r hc (ih r.length (hn ▸ C.shrinks hc) r rfl)

theorem cut_rest (bs : List α) : C.cut (C.rest bs) = none := by
  induction bs using cutInduction (C := C) with
  | none bs h => rw [rest_of_none h, h]
  | some bs f r h ih => rw [rest_of_some h, ih]

theorem rest_suffix (bs : List α) : C.rest bs <:+ bs := by
  induction bs using cutInduction (C := C) with
  | none bs h => rw [rest_of_none h]
  | some bs f r h ih =>
    rw [rest_of_some h]
    exact ih.trans (C.suffix h)

/-- The rest is what stands in front of the end. -/
theorem drop_length_sub_rest (bs : List α) :
    bs.drop (bs.length - (C.rest bs).length) = C.rest bs :=
  (List.suffix_iff_eq_drop.mp (rest_suffix bs)).symm

/-- Nothing is cut off a buffer whose rest is as long as the buffer. -/
theorem cut_eq_none_of_length_rest {bs : List α} (h : (C.rest bs).length = bs.length) :
    C.cut bs = none := by
  match hc : C.cut bs with
  | none => rfl
  | some (f, r) =>
    have hr := (rest_suffix (C := C) r).length_le
    have hlt := C.shrinks hc
    rw [rest_of_some hc] at h
    omega

theorem frames_append (bs more : List α) :
    C.frames (bs ++ more) = C.frames bs ++ C.frames (C.rest bs ++ more) := by
  induction bs using cutInduction (C := C) with
  | none bs h => rw [frames_of_none h, rest_of_none h, List.nil_append]
  | some bs f r h ih =>
    rw [frames_of_some (C.stable more h), frames_of_some h, rest_of_some h, ih, List.cons_append]

theorem rest_append (bs more : List α) : C.rest (bs ++ more) = C.rest (C.rest bs ++ more) := by
  induction bs using cutInduction (C := C) with
  | none bs h => rw [rest_of_none h]
  | some bs f r h ih => rw [rest_of_some (C.stable more h), rest_of_some h, ih]

theorem cut_of_frames_eq_nil {bs : List α} (h : C.frames bs = []) : C.cut bs = none := by
  match hc : C.cut bs with
  | none => rfl
  | some (f, r) =>
    rw [frames_of_some hc] at h
    cases h

/-- Later bytes change no cut, so a front has no frame where the whole has none. -/
theorem cut_take_eq_none {bs : List α} (h : C.cut bs = none) (n : ℕ) :
    C.cut (bs.take n) = none := by
  by_contra hsome
  obtain ⟨⟨f, r⟩, hfront⟩ := Option.ne_none_iff_exists'.mp hsome
  have hall := C.stable (bs.drop n) hfront
  rw [List.take_append_drop, h] at hall
  cases hall

/-! ### Bounded buffers -/

variable (C)

/-- A full buffer without a complete frame in it. -/
def Jammed (B : ℕ) (bs : List α) : Prop := B ≤ bs.length ∧ C.cut (bs.take B) = none

/-- The frames a reader with capacity `B` delivers, and whether it gets stuck. -/
def bounded (B : ℕ) (bs : List α) : List β × Bool :=
  if B ≤ bs.length ∧ (C.cut (bs.take B)).isNone then ([], true) else
    match _h : C.cut bs with
    | none => ([], false)
    | some (f, r) => (f :: (bounded B r).1, (bounded B r).2)
termination_by bs.length
decreasing_by all_goals exact C.shrinks _h

variable {C} {B : ℕ}

theorem bounded_of_jammed {bs : List α} (h : C.Jammed B bs) : C.bounded B bs = ([], true) := by
  rw [bounded, if_pos ⟨h.1, by rw [h.2]; rfl⟩]

theorem bounded_of_none {bs : List α} (hj : ¬ C.Jammed B bs) (h : C.cut bs = none) :
    C.bounded B bs = ([], false) := by
  rw [bounded, if_neg (by simpa [Jammed] using hj)]
  split
  · rfl
  · simp_all

theorem bounded_of_some {bs r : List α} {f : β} (hj : ¬ C.Jammed B bs)
    (h : C.cut bs = some (f, r)) :
    C.bounded B bs = (f :: (C.bounded B r).1, (C.bounded B r).2) := by
  rw [bounded, if_neg (by simpa [Jammed] using hj)]
  split
  · simp_all
  · simp_all

/-- A buffer whose content starts with a short complete frame is not stuck. -/
theorem not_jammed_of_cut {bs r : List α} {f : β} (hB : bs.length ≤ B)
    (h : C.cut bs = some (f, r)) (more : List α) : ¬ C.Jammed B (bs ++ more) := by
  intro hj
  have htake : (bs ++ more).take B = bs ++ more.take (B - bs.length) := by
    rw [List.take_append, List.take_of_length_le hB]
  rw [Jammed, htake, C.stable _ h] at hj
  exact absurd hj.2 (by simp)

/-- Carry-over: deliver what the buffer holds, then go on with its rest. -/
theorem bounded_append {bs : List α} (hB : bs.length ≤ B) (more : List α) :
    C.bounded B (bs ++ more) =
      (C.frames bs ++ (C.bounded B (C.rest bs ++ more)).1,
        (C.bounded B (C.rest bs ++ more)).2) := by
  induction bs using cutInduction (C := C) with
  | none bs h => rw [frames_of_none h, rest_of_none h, List.nil_append]
  | some bs f r h ih =>
    rw [bounded_of_some (not_jammed_of_cut hB h more) (C.stable more h),
      ih ((C.shrinks h).le.trans hB), frames_of_some h, rest_of_some h, List.cons_append]

/-- A rest that fills the buffer is stuck in it, and nothing was delivered before. -/
theorem bounded_of_full_rest {bs : List α} (hB : bs.length ≤ B) (h : (C.rest bs).length = B)
    (more : List α) : C.frames bs = [] ∧ C.bounded B (bs ++ more) = ([], true) := by
  have hle := (rest_suffix (C := C) bs).length_le
  have hnone : C.cut bs = none := cut_eq_none_of_length_rest (by omega)
  refine ⟨frames_of_none hnone, bounded_of_jammed ⟨?_, ?_⟩⟩
  · rw [List.length_append]
    omega
  · rw [List.take_append_of_le_length (by omega), List.take_of_length_le hB, hnone]

theorem bounded_eq_frames {bs : List α} (h : (C.bounded B bs).2 = false) :
    (C.bounded B bs).1 = C.frames bs := by
  induction bs using cutInduction (C := C) with
  | none bs hc =>
    have hj : ¬ C.Jammed B bs := fun hj => by simp [bounded_of_jammed hj] at h
    rw [bounded_of_none hj hc, frames_of_none hc]
  | some bs f r hc ih =>
    have hj : ¬ C.Jammed B bs := fun hj => by simp [bounded_of_jammed hj] at h
    rw [bounded_of_some hj hc] at h ⊢
    rw [frames_of_some hc, ih h]

/-- More bytes do not make a reader stuck in front of a complete frame. -/
theorem not_jammed_append {bs r : List α} {f : β} (hj : ¬ C.Jammed B bs)
    (h : C.cut bs = some (f, r)) (more : List α) : ¬ C.Jammed B (bs ++ more) := by
  rcases Nat.le_total bs.length B with hle | hle
  · exact not_jammed_of_cut hle h more
  · intro hstuck
    have hcut := hstuck.2
    rw [List.take_append_of_le_length hle] at hcut
    exact hj ⟨hle, hcut⟩

/-- What is stuck in a buffer is stuck in every smaller one. -/
theorem Jammed.mono {B' : ℕ} (h : B ≤ B') {bs : List α} (hj : C.Jammed B' bs) :
    C.Jammed B bs := by
  refine ⟨h.trans hj.1, ?_⟩
  by_contra hcut
  obtain ⟨⟨f, r⟩, hsome⟩ := Option.ne_none_iff_exists'.mp hcut
  have htake : bs.take B' = bs.take B ++ (bs.drop B).take (B' - B) := by
    rw [← List.take_add, Nat.add_sub_cancel' h]
  have hstuck := hj.2
  rw [htake, C.stable _ hsome] at hstuck
  cases hstuck

/-- A larger buffer delivers the same frames and perhaps more; no more if the smaller one
was not stuck. -/
theorem bounded_mono {B' : ℕ} (h : B ≤ B') (bs : List α) :
    (C.bounded B bs).1 <+: (C.bounded B' bs).1 ∧
      ((C.bounded B bs).2 = false → C.bounded B' bs = C.bounded B bs) := by
  induction bs using cutInduction (C := C) with
  | none bs hc =>
    by_cases hj : C.Jammed B bs
    · rw [bounded_of_jammed hj]
      exact ⟨List.nil_prefix, nofun⟩
    · have hj' : ¬ C.Jammed B' bs := fun hj' => hj (hj'.mono h)
      rw [bounded_of_none hj hc, bounded_of_none hj' hc]
      exact ⟨List.prefix_rfl, fun _ => rfl⟩
  | some bs f r hc ih =>
    by_cases hj : C.Jammed B bs
    · rw [bounded_of_jammed hj]
      exact ⟨List.nil_prefix, nofun⟩
    · have hj' : ¬ C.Jammed B' bs := fun hj' => hj (hj'.mono h)
      rw [bounded_of_some hj hc, bounded_of_some hj' hc]
      exact ⟨List.cons_prefix_cons.mpr ⟨rfl, ih.1⟩, fun hfalse => by rw [ih.2 hfalse]⟩

theorem Jammed.append {bs : List α} (hj : C.Jammed B bs) (more : List α) :
    C.Jammed B (bs ++ more) :=
  ⟨hj.1.trans (by simp), by rw [List.take_append_of_le_length hj.1, hj.2]⟩

/-- Later bytes are not read once the reader is stuck. -/
theorem bounded_append_of_stuck {bs : List α} (h : (C.bounded B bs).2 = true) (more : List α) :
    C.bounded B (bs ++ more) = C.bounded B bs := by
  induction bs using cutInduction (C := C) with
  | none bs hc =>
    have hj : C.Jammed B bs := by
      by_contra hj
      rw [bounded_of_none hj hc] at h
      cases h
    rw [bounded_of_jammed hj, bounded_of_jammed (hj.append more)]
  | some bs f r hc ih =>
    by_cases hj : C.Jammed B bs
    · rw [bounded_of_jammed hj, bounded_of_jammed (hj.append more)]
    · rw [bounded_of_some hj hc] at h
      rw [bounded_of_some hj hc, bounded_of_some (not_jammed_append hj hc more) (C.stable more hc),
        ih h]

/-- Behind a front in which the reader is not stuck it goes on with the rest of the front. -/
theorem bounded_append_of_free {bs : List α} (h : (C.bounded B bs).2 = false) (more : List α) :
    C.bounded B (bs ++ more) =
      (C.frames bs ++ (C.bounded B (C.rest bs ++ more)).1,
        (C.bounded B (C.rest bs ++ more)).2) := by
  induction bs using cutInduction (C := C) with
  | none bs hc => rw [frames_of_none hc, rest_of_none hc, List.nil_append]
  | some bs f r hc ih =>
    have hj : ¬ C.Jammed B bs := fun hj => by simp [bounded_of_jammed hj] at h
    rw [bounded_of_some hj hc] at h
    rw [bounded_of_some (not_jammed_append hj hc more) (C.stable more hc), ih h,
      frames_of_some hc, rest_of_some hc, List.cons_append]

variable (C)

/-- The cutter gets from `bs` to `t` by cutting the frames `fs`. -/
inductive Reaches : List α → List β → List α → Prop
  | here (bs : List α) : Reaches bs [] bs
  | step {bs r t : List α} {f : β} {fs : List β} :
      C.cut bs = some (f, r) → Reaches r fs t → Reaches bs (f :: fs) t

variable {C}

/-- The frames of a buffer lead to its rest. -/
theorem reaches_rest (bs : List α) : C.Reaches bs (C.frames bs) (C.rest bs) := by
  induction bs using cutInduction (C := C) with
  | none bs h =>
    rw [frames_of_none h, rest_of_none h]
    exact .here bs
  | some bs f r h ih =>
    rw [frames_of_some h, rest_of_some h]
    exact .step h ih

theorem bounded_jam_iff {bs : List α} :
    (C.bounded B bs).2 = true ↔ ∃ fs t, C.Reaches bs fs t ∧ C.Jammed B t := by
  induction bs using cutInduction (C := C) with
  | none bs hc =>
    by_cases hj : C.Jammed B bs
    · simpa [bounded_of_jammed hj] using ⟨[], bs, .here bs, hj⟩
    · rw [bounded_of_none hj hc]
      constructor
      · simp
      · rintro ⟨fs, t, hr, ht⟩
        cases hr with
        | here => exact (hj ht).elim
        | step hc' _ => simp [hc] at hc'
  | some bs f r hc ih =>
    by_cases hj : C.Jammed B bs
    · simpa [bounded_of_jammed hj] using ⟨[], bs, .here bs, hj⟩
    · rw [bounded_of_some hj hc, ih]
      constructor
      · rintro ⟨fs, t, hr, ht⟩
        exact ⟨f :: fs, t, .step hc hr, ht⟩
      · rintro ⟨fs, t, hr, ht⟩
        cases hr with
        | here => exact (hj ht).elim
        | step hc' hr' =>
          simp only [hc, Option.some.injEq, Prod.mk.injEq] at hc'
          obtain ⟨rfl, rfl⟩ := hc'
          exact ⟨_, t, hr', ht⟩

/-- The reader stops at the first place where it is stuck. -/
theorem bounded_eq_of_first {bs t : List α} {fs : List β} (h : C.Reaches bs fs t)
    (ht : C.Jammed B t)
    (hfirst : ∀ fs' t', C.Reaches bs fs' t' → C.Jammed B t' → fs.length ≤ fs'.length) :
    C.bounded B bs = (fs, true) := by
  induction h with
  | here bs => exact bounded_of_jammed ht
  | @step bs r t f fs hc hr ih =>
    have hj : ¬ C.Jammed B bs := fun hj => by simpa using hfirst [] bs (.here bs) hj
    have hrest : ∀ fs' t', C.Reaches r fs' t' → C.Jammed B t' → fs.length ≤ fs'.length := by
      intro fs' t' hr' ht'
      simpa using hfirst (f :: fs') t' (.step hc hr') ht'
    rw [bounded_of_some hj hc, ih ht hrest]

end Cutter

/-! ### Frames with their length in front -/

/-- The payload behind its length, an integer of `width` bytes. -/
def lengthFrame (o : ByteOrder) (width : ℕ) (payload : List UInt8) : List UInt8 :=
  o.bytes width payload.length ++ payload

/-- The length announced at the front of the buffer. -/
def announced (o : ByteOrder) (width : ℕ) (bs : List UInt8) : ℕ := o.value (bs.take width)

def cutLengthFrame (o : ByteOrder) (width : ℕ) (bs : List UInt8) :
    Option (List UInt8 × List UInt8) :=
  if width + announced o width bs ≤ bs.length then
    some ((bs.drop width).take (announced o width bs),
      bs.drop (width + announced o width bs))
  else none

theorem announced_append (o : ByteOrder) {width : ℕ} {bs : List UInt8} (h : width ≤ bs.length)
    (more : List UInt8) : announced o width (bs ++ more) = announced o width bs := by
  rw [announced, announced, List.take_append_of_le_length h]

def lengthPrefixed (o : ByteOrder) (width : ℕ) (hw : 0 < width) :
    Cutter UInt8 (List UInt8) where
  cut := cutLengthFrame o width
  shrinks := by
    intro bs rest f h
    rw [cutLengthFrame] at h
    split at h
    · cases h
      simp only [List.length_drop]
      omega
    · cases h
  suffix := by
    intro bs rest f h
    rw [cutLengthFrame] at h
    split at h
    · cases h
      exact List.drop_suffix _ _
    · cases h
  stable := by
    intro bs rest f more h
    rw [cutLengthFrame] at h
    split at h
    · rename_i hle
      cases h
      rw [cutLengthFrame, announced_append o (by omega), if_pos (by simp; omega),
        List.drop_append_of_le_length (by omega), List.drop_append_of_le_length hle,
        List.take_append_of_le_length (by simp; omega)]
    · cases h

/-- Taking a frame off undoes putting its length in front. -/
theorem cutLengthFrame_append (o : ByteOrder) {width : ℕ} {payload : List UInt8}
    (h : payload.length < 256 ^ width) (rest : List UInt8) :
    cutLengthFrame o width (lengthFrame o width payload ++ rest) = some (payload, rest) := by
  have hlen := o.length_bytes width payload.length
  have hann : announced o width (lengthFrame o width payload ++ rest) = payload.length := by
    rw [announced, lengthFrame, List.append_assoc, List.take_left' hlen, o.value_bytes_of_lt h]
  rw [cutLengthFrame, hann, if_pos (by simp [lengthFrame])]
  simp [lengthFrame, List.drop_append]

theorem cutLengthFrame_eq_some_iff (o : ByteOrder) {width : ℕ} {bs payload rest : List UInt8} :
    cutLengthFrame o width bs = some (payload, rest) ↔
      bs = lengthFrame o width payload ++ rest ∧ payload.length < 256 ^ width := by
  constructor
  · intro h
    rw [cutLengthFrame] at h
    split at h
    · rename_i hle
      simp only [Option.some.injEq, Prod.mk.injEq] at h
      obtain ⟨rfl, rfl⟩ := h
      have hlen : (bs.take width).length = width := by simp; omega
      have hpay : ((bs.drop width).take (announced o width bs)).length =
          announced o width bs := by simp; omega
      have hlt : announced o width bs < 256 ^ width := by
        simpa [announced, hlen] using o.value_lt (bs.take width)
      refine ⟨?_, by rwa [hpay]⟩
      rw [lengthFrame, hpay, announced, o.bytes_value_of_length hlen, ← announced,
        ← List.drop_drop, List.append_assoc, List.take_append_drop, List.take_append_drop]
    · cases h
  · rintro ⟨rfl, h⟩
    exact cutLengthFrame_append o h rest

/-- What the cutter cuts off are exactly the frames put together in front. -/
theorem reaches_iff (o : ByteOrder) {width : ℕ} (hw : 0 < width) {bs t : List UInt8}
    {ps : List (List UInt8)} :
    (lengthPrefixed o width hw).Reaches bs ps t ↔
      bs = ps.flatMap (lengthFrame o width) ++ t ∧ ∀ p ∈ ps, p.length < 256 ^ width := by
  constructor
  · intro h
    induction h with
    | here bs => simp
    | step hc _ ih =>
      obtain ⟨rfl, hlt⟩ := (cutLengthFrame_eq_some_iff o).mp hc
      obtain ⟨rfl, hall⟩ := ih
      refine ⟨by simp, ?_⟩
      simpa using ⟨hlt, hall⟩
  · rintro ⟨rfl, hall⟩
    induction ps with
    | nil => exact .here t
    | cons p ps ih =>
      rw [List.flatMap_cons, List.append_assoc]
      refine .step (cutLengthFrame_append o (hall p List.mem_cons_self) _) ?_
      exact ih fun q hq => hall q (List.mem_cons_of_mem p hq)

/-- Nothing is cut off a buffer that is shorter than the frame in front. -/
theorem cutLengthFrame_eq_none_iff (o : ByteOrder) {width : ℕ} {bs : List UInt8} :
    cutLengthFrame o width bs = none ↔ bs.length < width + announced o width bs := by
  unfold cutLengthFrame
  split
  · rename_i hle
    simp [hle]
  · rename_i hlt
    simpa using hlt

/-- A buffer is stuck when the frame in front is longer than the buffer. -/
theorem jammed_iff (o : ByteOrder) {width B : ℕ} (hw : 0 < width) {bs : List UInt8} :
    (lengthPrefixed o width hw).Jammed B bs ↔
      B ≤ bs.length ∧ B < width + announced o width bs := by
  unfold Cutter.Jammed
  refine and_congr_right fun hle => (cutLengthFrame_eq_none_iff o).trans ?_
  rw [List.length_take, Nat.min_eq_left hle]
  rcases Nat.lt_or_ge B width with hshort | hB
  · omega
  · have hann : announced o width (bs.take B) = announced o width bs := by
      rw [announced, announced, List.take_take, Nat.min_eq_left hB]
    rw [hann]

theorem frames_flatMap (o : ByteOrder) {width : ℕ} (hw : 0 < width) {ps : List (List UInt8)}
    {t : List UInt8} (hps : ∀ p ∈ ps, p.length < 256 ^ width)
    (ht : cutLengthFrame o width t = none) :
    (lengthPrefixed o width hw).frames (ps.flatMap (lengthFrame o width) ++ t) = ps ∧
      (lengthPrefixed o width hw).rest (ps.flatMap (lengthFrame o width) ++ t) = t := by
  have h : (lengthPrefixed o width hw).Reaches (ps.flatMap (lengthFrame o width) ++ t) ps t :=
    (reaches_iff o hw).mpr ⟨rfl, hps⟩
  generalize ps.flatMap (lengthFrame o width) ++ t = bs at h
  induction h with
  | here bs => exact ⟨Cutter.frames_of_none ht, Cutter.rest_of_none ht⟩
  | @step bs r t p ps hc _ ih =>
    have := ih (fun q hq => hps q (List.mem_cons_of_mem p hq)) ht
    exact ⟨by rw [Cutter.frames_of_some hc, this.1], by rw [Cutter.rest_of_some hc, this.2]⟩

/-- Frames that fit into the buffer are all delivered. -/
theorem bounded_flatMap (o : ByteOrder) {width B : ℕ} (hw : 0 < width) (hB : width ≤ B)
    {ps : List (List UInt8)} (hps : ∀ p ∈ ps, p.length < 256 ^ width)
    (hfits : ∀ p ∈ ps, width + p.length ≤ B) :
    (lengthPrefixed o width hw).bounded B (ps.flatMap (lengthFrame o width)) = (ps, false) := by
  induction ps with
  | nil =>
    have hnone : (lengthPrefixed o width hw).cut [] = none := if_neg (by simp; omega)
    exact Cutter.bounded_of_none (fun hj => absurd hj.1 (by simp; omega)) hnone
  | cons p ps ih =>
    have hp := hps p List.mem_cons_self
    have hlen : (lengthFrame o width p).length ≤ B := by
      simpa [lengthFrame] using hfits p List.mem_cons_self
    have hcut (rest : List UInt8) :
        (lengthPrefixed o width hw).cut (lengthFrame o width p ++ rest) = some (p, rest) :=
      cutLengthFrame_append o hp rest
    have halone := hcut []
    rw [List.append_nil] at halone
    rw [List.flatMap_cons, Cutter.bounded_of_some (Cutter.not_jammed_of_cut hlen halone _) (hcut _),
      ih (fun q hq => hps q (List.mem_cons_of_mem p hq))
        (fun q hq => hfits q (List.mem_cons_of_mem p hq))]

/-! ### Readers that deliver all frames -/

section Whole
variable (o : ByteOrder) {width : ℕ} (hw : 0 < width)

theorem announced_of_cut {bs f r : List UInt8} (h : cutLengthFrame o width bs = some (f, r)) :
    announced o width bs = f.length ∧ width + f.length ≤ bs.length := by
  obtain ⟨rfl, hlt⟩ := (cutLengthFrame_eq_some_iff o).mp h
  have hlen := o.length_bytes width f.length
  rw [lengthFrame, List.append_assoc]
  constructor
  · rw [announced, List.take_left' hlen, o.value_bytes_of_lt hlt]
  · rw [List.length_append, List.length_append, hlen]
    omega

/-- A reader with a bounded buffer delivers all frames if none is longer than the buffer;
being stuck behind the last one costs it nothing. -/
theorem bounded_eq_frames_iff {B : ℕ} (bs : List UInt8) :
    ((lengthPrefixed o width hw).bounded B bs).1 = (lengthPrefixed o width hw).frames bs ↔
      ∀ f ∈ (lengthPrefixed o width hw).frames bs, width + f.length ≤ B := by
  induction bs using Cutter.cutInduction (C := lengthPrefixed o width hw) with
  | none bs hc =>
    rw [Cutter.frames_of_none hc]
    refine iff_of_true ?_ fun f hf => absurd hf List.not_mem_nil
    by_cases hj : (lengthPrefixed o width hw).Jammed B bs
    · rw [Cutter.bounded_of_jammed hj]
    · rw [Cutter.bounded_of_none hj hc]
  | some bs f r hc ih =>
    obtain ⟨hannounced, hlen⟩ := announced_of_cut o hc
    rw [Cutter.frames_of_some hc, List.forall_mem_cons]
    by_cases hj : (lengthPrefixed o width hw).Jammed B bs
    · have hlong := ((jammed_iff o hw).mp hj).2
      rw [Cutter.bounded_of_jammed hj]
      refine iff_of_false (List.cons_ne_nil _ _).symm fun hfits => ?_
      omega
    · have hfits : width + f.length ≤ B := by
        by_contra hlong
        exact hj ((jammed_iff o hw).mpr ⟨by omega, by omega⟩)
      rw [Cutter.bounded_of_some hj hc, List.cons.injEq, and_iff_right rfl, ih,
        and_iff_right hfits]

/-- The frames of a front are all frames if only what they leave over is cut short. -/
theorem frames_take_iff (n : ℕ) (bs : List UInt8) :
    (lengthPrefixed o width hw).frames (bs.take n) = (lengthPrefixed o width hw).frames bs ↔
      bs.length ≤ n + ((lengthPrefixed o width hw).rest bs).length := by
  constructor
  · intro h
    have hframes := Cutter.frames_append (C := lengthPrefixed o width hw) (bs.take n) (bs.drop n)
    have hrest := Cutter.rest_append (C := lengthPrefixed o width hw) (bs.take n) (bs.drop n)
    rw [List.take_append_drop] at hframes hrest
    have hnone := List.self_eq_append_right.mp (h.trans hframes)
    rw [Cutter.rest_of_none (Cutter.cut_of_frames_eq_nil hnone)] at hrest
    rw [hrest, List.length_append, List.length_drop]
    omega
  · intro h
    have hreaches := Cutter.reaches_rest (C := lengthPrefixed o width hw) bs
    have hcut := Cutter.cut_rest (C := lengthPrefixed o width hw) bs
    generalize (lengthPrefixed o width hw).frames bs = fs,
      (lengthPrefixed o width hw).rest bs = t at hreaches hcut h ⊢
    obtain ⟨rfl, hsmall⟩ := (reaches_iff o hw).mp hreaches
    rw [List.length_append] at h
    rw [List.take_append, List.take_of_length_le (by omega)]
    exact (frames_flatMap o hw hsmall (Cutter.cut_take_eq_none hcut _)).1

end Whole
end MdPrsr.Wire
