import MdPrsr.Tools.ParquetWriter
import MdPrsr.Tools.Run

/-!
# The assertion at the end of a frame

`hdf5_writer`, `parquet_writer` and `message_dumper` decode one message from a frame
and assert that it was all of it. The length of a frame stands in the file, and the
length of its message follows from the type in its first byte. The decoder throws if
the frame is the shorter one and leaves the rest if it is the longer one: then the
assertion fails, or, in a build without it, these bytes are dropped.
-/
namespace MdPrsr.Tools
open Wire

section Processors
variable (p : Platform) (asserts : Bool)

/-- A processor that decodes a message, uses it and asserts that it was the whole frame. -/
def wholeFrame {σ : Type}
    (use : BitVec 64 → (T : Itch.messages.Alternative) → T.1.Val → σ → σ) : Processor σ :=
  fun seqn message s =>
    match h : Itch.messages.decode p message with
    | .error fault _ => .error (.decode fault) s
    | .ok decoded rest =>
      (do modify (use seqn ⟨decoded.1, Variant.mem_of_decode p h⟩ decoded.2)
          assertThat asserts rest.isEmpty : EStateM Failure σ Unit) s

/-- `hdf5_writer`: the messages pushed to the sink of each type, and `count_`. -/
structure Hdf5Writer where
  rows : (T : Itch.messages.Alternative) → List T.1.Val
  count : BitVec 64

/-- `push_back` of the sink of this type. -/
def Hdf5Writer.pushBack (w : Hdf5Writer) (T : Itch.messages.Alternative) (v : T.1.Val) :
    Hdf5Writer where
  rows := Function.update w.rows T (w.rows T ++ [v])
  count := w.count + 1

/-- `hdf5_writer::operator()`. -/
def hdf5Writer : Processor Hdf5Writer := wholeFrame p asserts fun _ T v w => w.pushBack T v

/-- `message_dumper`: the lines with their numbers, and `count_`. -/
structure MessageDumper where
  lines : List (BitVec 64 × Decoded)
  count : BitVec 64

def MessageDumper.log (d : MessageDumper) (T : Itch.messages.Alternative) (v : T.1.Val) :
    MessageDumper where
  lines := d.lines ++ [(d.count + 1, ⟨T.1, v⟩)]
  count := d.count + 1

/-- `message_dumper::operator()`. -/
def messageDumper : Processor MessageDumper := wholeFrame p asserts fun _ T v d => d.log T v

theorem parquetWriter_eq :
    parquetWriter p asserts = wholeFrame p asserts fun seqn T v w => w.pushBack seqn T v := rfl

end Processors

/-- The processors with the assertion. -/
inductive FrameProcessor where
  | hdf5Writer
  | parquetWriter
  | messageDumper

namespace FrameProcessor

def State : FrameProcessor → Type
  | hdf5Writer => Hdf5Writer
  | parquetWriter => ParquetWriter
  | messageDumper => MessageDumper

def run (p : Platform) (asserts : Bool) : (P : FrameProcessor) → Processor P.State
  | hdf5Writer => Tools.hdf5Writer p asserts
  | parquetWriter => Tools.parquetWriter p asserts
  | messageDumper => Tools.messageDumper p asserts

/-- Each of them decodes a message and uses it in its own way. -/
theorem exists_use (P : FrameProcessor) (p : Platform) :
    ∃ use : BitVec 64 → (T : Itch.messages.Alternative) → T.1.Val → P.State → P.State,
      ∀ asserts, P.run p asserts = wholeFrame p asserts use := by
  cases P with
  | hdf5Writer => exact ⟨fun _ T v w => Hdf5Writer.pushBack w T v, fun _ => rfl⟩
  | parquetWriter => exact ⟨fun seqn T v w => ParquetWriter.pushBack w seqn T v, parquetWriter_eq p⟩
  | messageDumper => exact ⟨fun _ T v d => MessageDumper.log d T v, fun _ => rfl⟩

end FrameProcessor

/-! ### Frames and their messages -/

/-- The message type that the first byte of a frame names. -/
def named (frame : List UInt8) : Option Message :=
  frame.head?.bind fun b => Itch.messages.select b.toNat

/-- The frame is as long as its message. -/
def Whole (frame : List UInt8) : Prop := ∃ T ∈ named frame, frame.length = T.layout.size

/-- The frame is longer than its message. -/
def Overfull (frame : List UInt8) : Prop := ∃ T ∈ named frame, T.layout.size < frame.length

instance (frame : List UInt8) : Decidable (Whole frame) :=
  inferInstanceAs (Decidable (∃ T ∈ named frame, frame.length = T.layout.size))

instance (frame : List UInt8) : Decidable (Overfull frame) :=
  inferInstanceAs (Decidable (∃ T ∈ named frame, T.layout.size < frame.length))

/-- No frame that the whole frames at the front lead to is longer than its message. -/
def Tidy : List (List UInt8) → Prop
  | [] => True
  | frame :: frames => ¬ Overfull frame ∧ (Whole frame → Tidy frames)

/-- A message that can be decoded from the frame is all of it. -/
def AllDecoded (p : Platform) (frame : List UInt8) : Prop :=
  ∀ decoded rest, Itch.messages.decode p frame = .ok decoded rest → rest = []

theorem Overfull.not_whole {frame : List UInt8} (h : Overfull frame) : ¬ Whole frame := by
  intro hwhole
  obtain ⟨T, hT, hlen⟩ := hwhole
  obtain ⟨U, hU, hlt⟩ := h
  rw [hT] at hU
  cases hU
  omega

/-- The decoder throws, or it stops where the message of the named type ends. -/
theorem decode_frame_cases (p : Platform) (frame : List UInt8) :
    (∃ fault cur, Itch.messages.decode p frame = .error fault cur) ∧
        ¬ Whole frame ∧ ¬ Overfull frame ∨
      ∃ T ∈ named frame, T.layout.size ≤ frame.length ∧ ∃ decoded,
        Itch.messages.decode p frame = .ok decoded (frame.drop T.layout.size) := by
  cases frame with
  | nil => exact .inl ⟨⟨_, _, Variant.decode_of_lt p (by decide)⟩, by decide, by decide⟩
  | cons b bs =>
    have hid := Itch.idAt_cons b bs
    have hone : Itch.messages.idOffset + Itch.messages.idType.width ≤ (b :: bs).length := by
      rw [List.length_cons]
      exact Nat.le_add_left 1 bs.length
    cases hselect : Itch.messages.select b.toNat with
    | none =>
      have hunknown : ∀ m ∈ Itch.messages.alternatives,
          m.typeId ≠ Itch.messages.idAt (b :: bs) := by
        intro m hm heq
        rw [Variant.select_eq_some_iff.mpr ⟨hm, heq.trans hid⟩] at hselect
        cases hselect
      have hnamed : named (b :: bs) = none := hselect
      refine .inl ⟨⟨_, _, Variant.decode_of_unknown p hone hunknown⟩, ?_, ?_⟩
      · simp [Whole, hnamed]
      · simp [Overfull, hnamed]
    | some T =>
      obtain ⟨hT, htype⟩ := Variant.select_eq_some_iff.mp hselect
      have hnamed : named (b :: bs) = some T := hselect
      have hfixed := Itch.groups_eq_nil T hT
      rcases Nat.lt_or_ge (b :: bs).length T.layout.size with hshort | hlong
      · left
        refine ⟨⟨_, _, Variant.decode_of_fixed_short p hT hfixed (hid.trans htype.symm) hshort⟩,
          ?_, ?_⟩
        · simp only [Whole, hnamed, Option.mem_some_iff, exists_eq_left']
          omega
        · simp only [Overfull, hnamed, Option.mem_some_iff, exists_eq_left']
          omega
      · obtain ⟨v, hv, -⟩ := Variant.decode_of_fixed p hT hfixed (hid.trans htype.symm) hlong
        exact .inr ⟨T, hnamed, hlong, _, hv⟩

section Step
variable {p : Platform} {asserts : Bool} {σ : Type}
  {use : BitVec 64 → (T : Itch.messages.Alternative) → T.1.Val → σ → σ}

theorem wholeFrame_of_error {seqn : BitVec 64} {message cur : List UInt8} {fault : Fault} {s : σ}
    (h : Itch.messages.decode p message = .error fault cur) :
    wholeFrame p asserts use seqn message s = .error (.decode fault) s := by
  unfold wholeFrame
  split
  · rename_i h'
    cases h.symm.trans h'
    rfl
  · rename_i h'
    cases h.symm.trans h'

theorem wholeFrame_of_ok {seqn : BitVec 64} {message rest : List UInt8} {decoded : Decoded} {s : σ}
    (h : Itch.messages.decode p message = .ok decoded rest) :
    ∃ s', wholeFrame p asserts use seqn message s =
      if asserts && !rest.isEmpty then .error .assertion s' else .ok () s' := by
  unfold wholeFrame
  split
  · rename_i h'
    cases h.symm.trans h'
  · rename_i h'
    cases h.symm.trans h'
    refine ⟨use seqn ⟨decoded.1, Variant.mem_of_decode p h⟩ decoded.2 s, ?_⟩
    unfold assertThat
    split <;> rfl

/-- What a call does with a frame: it throws, or the frame is whole and the call returns,
or the frame is overfull and the assertion fails if there is one. -/
theorem wholeFrame_cases (p : Platform) (asserts : Bool)
    (use : BitVec 64 → (T : Itch.messages.Alternative) → T.1.Val → σ → σ) (seqn : BitVec 64)
    (frame : List UInt8) (s : σ) :
    (¬ Whole frame ∧ ¬ Overfull frame) ∧ AllDecoded p frame ∧
        (∃ fault, wholeFrame p asserts use seqn frame s = .error (.decode fault) s) ∨
      Whole frame ∧ AllDecoded p frame ∧
        (∃ s', wholeFrame p asserts use seqn frame s = .ok () s') ∨
      Overfull frame ∧ ¬ AllDecoded p frame ∧
        ∃ s', wholeFrame p asserts use seqn frame s =
          if asserts then .error .assertion s' else .ok () s' := by
  rcases decode_frame_cases p frame with ⟨⟨fault, cur, herror⟩, hframe⟩ |
    ⟨T, hnamed, hsize, decoded, hok⟩
  · refine .inl ⟨hframe, fun decoded rest hok => ?_, fault, wholeFrame_of_error herror⟩
    cases herror.symm.trans hok
  · obtain ⟨s', hrun⟩ : ∃ s', wholeFrame p asserts use seqn frame s =
        if asserts && !(frame.drop T.layout.size).isEmpty then .error .assertion s'
        else .ok () s' := wholeFrame_of_ok hok
    rcases hsize.eq_or_lt with hwhole | hlong
    · have hdrop : frame.drop T.layout.size = [] := List.drop_eq_nil_of_le hwhole.ge
      rw [hdrop] at hok hrun
      refine .inr (.inl ⟨⟨T, hnamed, hwhole.symm⟩, fun decoded' rest hok' => ?_, s', ?_⟩)
      · cases hok.symm.trans hok'
        rfl
      · rw [hrun]
        simp
    · have hdrop : frame.drop T.layout.size ≠ [] := by
        rw [Ne, List.drop_eq_nil_iff]
        omega
      refine .inr (.inr ⟨⟨T, hnamed, hlong⟩, fun hall => hdrop (hall _ _ hok), s', ?_⟩)
      rw [hrun]
      simp [hdrop]

end Step

/-! ### Runs -/

section Run
variable (p : Platform) {σ : Type}
  (use : BitVec 64 → (T : Itch.messages.Alternative) → T.1.Val → σ → σ)

/-- All frames that are delivered end with their messages exactly when they are tidy. -/
theorem callsMade_wholeFrame_iff (asserts : Bool) (seqn : BitVec 64) (fs : List (List UInt8))
    (s : σ) :
    (∀ call ∈ callsMade (wholeFrame p asserts use) (numbered seqn fs) s, AllDecoded p call.2) ↔
      Tidy fs := by
  induction fs generalizing seqn s with
  | nil => exact iff_of_true nofun trivial
  | cons f fs ih =>
    rw [numbered, Tidy]
    rcases wholeFrame_cases p asserts use seqn f s with
      ⟨⟨hwhole, hfits⟩, hall, fault, hrun⟩ | ⟨hwhole, hall, s', hrun⟩ | ⟨hlong, hall, -⟩
    · rw [callsMade_cons_of_error hrun]
      simp [hwhole, hfits, hall]
    · have hfits : ¬ Overfull f := fun hlong => hlong.not_whole hwhole
      rw [callsMade_cons_of_ok hrun, List.forall_mem_cons, ih]
      simp [hwhole, hfits, hall]
    · refine iff_of_false (fun h => ?_) fun h => h.1 hlong
      exact hall (h _ (head_mem_callsMade _ _ s))

/-- With the assertion compiled in, it never fails exactly when the frames are tidy. -/
theorem deliver_wholeFrame_iff (seqn : BitVec 64) (fs : List (List UInt8)) (s : σ) :
    (∀ s', deliver (wholeFrame p true use) (numbered seqn fs) s ≠ .error .assertion s') ↔
      Tidy fs := by
  induction fs generalizing seqn s with
  | nil => exact iff_of_true nofun trivial
  | cons f fs ih =>
    rw [numbered, Tidy, deliver_cons]
    simp only [bind, EStateM.bind]
    rcases wholeFrame_cases p true use seqn f s with
      ⟨⟨hwhole, hfits⟩, -, fault, hrun⟩ | ⟨hwhole, -, s₁, hrun⟩ | ⟨hlong, -, s₁, hrun⟩
    · rw [hrun]
      simp [hwhole, hfits]
    · have hfits : ¬ Overfull f := fun hlong => hlong.not_whole hwhole
      rw [hrun]
      simp only [ih]
      simp [hwhole, hfits]
    · rw [hrun]
      exact iff_of_false (fun h => h s₁ rfl) fun h => h.1 hlong

end Run

/-- The calls that `fake_sequence` makes for a buffer. -/
def delivered (p : Platform) (o : ByteOrder) {σ : Type} (proc : Processor σ) (seqn : BitVec 64)
    (bs : List UInt8) (s : σ) : List (BitVec 64 × List UInt8) :=
  (final (fakeSequence p o (recording proc) seqn bs (s, []))).2

theorem delivered_eq (p : Platform) (o : ByteOrder) {σ : Type} (proc : Processor σ)
    (seqn : BitVec 64) (bs : List UInt8) (s : σ) :
    delivered p o proc seqn bs s = callsMade proc (numbered seqn ((frames o).frames bs)) s :=
  congrArg Prod.snd (final_fakeSequence p o (recording proc) seqn bs (s, []))

section Processors
variable (p : Platform) (o : ByteOrder) (P : FrameProcessor) (seqn : BitVec 64) (bs : List UInt8)
  (s : P.State)

theorem delivered_iff (asserts : Bool) :
    (∀ call ∈ delivered p o (P.run p asserts) seqn bs s, AllDecoded p call.2) ↔
      Tidy ((frames o).frames bs) := by
  obtain ⟨use, huse⟩ := P.exists_use p
  rw [delivered_eq, huse]
  exact callsMade_wholeFrame_iff p use asserts seqn _ s

theorem assertion_iff :
    (∀ s', fakeSequence p o (P.run p true) seqn bs s ≠ .error .assertion s') ↔
      Tidy ((frames o).frames bs) := by
  obtain ⟨use, huse⟩ := P.exists_use p
  rw [huse]
  simp only [ne_eq, fakeSequence_error_iff]
  exact deliver_wholeFrame_iff p use seqn _ s

/-- What is decoded from the frames of a stream is all of them, and no assertion fails,
unless whole frames lead to a frame that is longer than its message. -/
theorem assertion_holds_iff (asserts : Bool) :
    ((∀ call ∈ delivered p o (P.run p asserts) seqn bs s, AllDecoded p call.2) ↔
      Tidy ((frames o).frames bs)) ∧
    ((∀ s', fakeSequence p o (P.run p true) seqn bs s ≠ .error .assertion s') ↔
      Tidy ((frames o).frames bs)) :=
  ⟨delivered_iff p o P seqn bs s asserts, assertion_iff p o P seqn bs s⟩

end Processors

/-- A system event of twelve bytes and one more. -/
def longEvent : List UInt8 := 83 :: List.replicate 12 0

theorem frames_longEvent : (frames .big).frames (lengthFrame .big 2 longEvent) = [longEvent] := by
  have hone : ∀ f ∈ [longEvent], f.length < 256 ^ 2 := by decide
  have hnone : cutLengthFrame .big 2 [] = none := (cutLengthFrame_eq_none_iff .big).mpr (by simp)
  have hframes := (frames_flatMap .big (by decide) hone hnone).1
  rw [List.append_nil, List.flatMap_singleton] at hframes
  exact hframes

/-- The assertion of each processor fails on the long event. -/
theorem assertion_fails :
    (∀ (P : FrameProcessor) (s : P.State), ∃ s',
      fakeSequence default .big (P.run default true) 1 (lengthFrame .big 2 longEvent) s =
        .error .assertion s') ∧
    ¬ ∀ (p : Platform) (o : ByteOrder) (P : FrameProcessor) (asserts : Bool) (seqn : BitVec 64)
      (bs : List UInt8) (s : P.State),
      ∀ call ∈ delivered p o (P.run p asserts) seqn bs s, AllDecoded p call.2 := by
  have huntidy : ¬ Tidy ((frames .big).frames (lengthFrame .big 2 longEvent)) := by
    rw [frames_longEvent]
    exact fun h => h.1 (by decide +kernel)
  constructor
  · intro P s
    by_contra hnever
    exact huntidy ((assertion_iff default .big P 1 _ s).mp fun s' hrun => hnever ⟨s', hrun⟩)
  · intro h
    exact huntidy ((delivered_iff default .big .messageDumper 1 _ ⟨[], 0⟩ true).mp
      (h default .big .messageDumper true 1 _ ⟨[], 0⟩))

end MdPrsr.Tools
