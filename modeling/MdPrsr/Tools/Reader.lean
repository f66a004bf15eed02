import MdPrsr.Tools.FakeSequence

/-!
# Reading a file

`process_raw` maps a whole file and hands it to `fake_sequence` at once.
`read_directly` decompresses into a buffer: it fills the buffer behind what the
last round left over, hands over what is in it and moves the new leftover to the
front. It gives up when a full buffer holds no complete frame, and reads nothing at
all when the buffer is larger than a vector can be.

The decompressor may return fewer bytes than asked for. Whatever it returns, the
reader delivers the frames that a reader of this capacity can deliver.
-/
namespace MdPrsr.Tools
open Wire

/-- The sizes `boost::iostreams::read` returns before the end of the input. What
is left shrinks from call to call, so every sequence of sizes is of this form. -/
structure ReadSizes where
  size : (left asked : ℕ) → ℕ
  le_asked : ∀ left asked, size left asked ≤ asked
  le_left : ∀ left asked, size left asked ≤ left
  pos : ∀ left asked, 0 < left → 0 < asked → 0 < size left asked

/-- A decompressor that returns at most `n` bytes at a time. -/
def ReadSizes.atMost (n : ℕ) (hn : 0 < n) : ReadSizes where
  size left asked := min n (min left asked)
  le_asked := by omega
  le_left := by omega
  pos := by omega

/-- `max_size` of a vector of `char`. -/
def maxSize : ℕ := 2 ^ 63 - 1

/-- A buffer of a fixed size; a store has to stay inside. -/
structure Buffer (size : ℕ) where
  bytes : List UInt8
  length_bytes : bytes.length = size

namespace Buffer
variable {size : ℕ}

def zero (size : ℕ) : Buffer size := ⟨List.replicate size 0, List.length_replicate⟩

/-- The constructor of a vector of `size` zeros. -/
def construct {σ : Type} (size : ℕ) : EStateM Failure σ (Buffer size) :=
  if maxSize < size then throw .lengthError else pure (zero size)

def store (b : Buffer size) (off : ℕ) (bs : List UInt8) (h : off + bs.length ≤ size) :
    Buffer size :=
  ⟨b.bytes.take off ++ bs ++ b.bytes.drop (off + bs.length), by
    simp only [List.length_append, List.length_take, List.length_drop, b.length_bytes]
    omega⟩

/-- `memmove` of `n` bytes to the front. -/
def moveToFront (b : Buffer size) (source n : ℕ) (h : source + n ≤ size) : Buffer size :=
  b.store 0 ((b.bytes.drop source).take n) (by
    simp only [List.length_take, List.length_drop, b.length_bytes]
    omega)

theorem bytes_store (b : Buffer size) {off : ℕ} {bs : List UInt8} (h : off + bs.length ≤ size) :
    (b.store off bs h).bytes = b.bytes.take off ++ bs ++ b.bytes.drop (off + bs.length) := rfl

theorem take_store (b : Buffer size) {off n : ℕ} {bs : List UInt8} (h : off + bs.length ≤ size)
    (hn : off + bs.length = n) : (b.store off bs h).bytes.take n = b.bytes.take off ++ bs := by
  have hoff : off ≤ b.bytes.length := by rw [b.length_bytes]; omega
  rw [bytes_store, List.take_left']
  rw [List.length_append, List.length_take, Nat.min_eq_left hoff, hn]

theorem take_moveToFront (b : Buffer size) {source n : ℕ} (h : source + n ≤ size) :
    (b.moveToFront source n h).bytes.take n = (b.bytes.drop source).take n := by
  have hlen : ((b.bytes.drop source).take n).length = n := by
    simp only [List.length_take, List.length_drop, b.length_bytes]
    omega
  rw [moveToFront, bytes_store, List.take_zero, List.nil_append, List.take_left' hlen]

/-- Moving the last `n` of the first `stop` bytes to the front. -/
theorem take_moveToFront_tail (b : Buffer size) {stop n : ℕ} (hn : n ≤ stop)
    (h : stop - n + n ≤ size) :
    (b.moveToFront (stop - n) n h).bytes.take n = (b.bytes.take stop).drop (stop - n) := by
  rw [take_moveToFront, List.drop_take, Nat.sub_sub_self hn]

end Buffer

section Readers
variable (p : Platform) (o : ByteOrder) {σ : Type} (proc : Processor σ)

/-- The loop of `read_directly` over the input that is still compressed. The first
`leftover` bytes of the buffer have not been delivered. -/
def refill (reads : ReadSizes) {B : ℕ} (seqn : BitVec 64) (buffer : Buffer B) (leftover : Fin B)
    (input : List UInt8) : EStateM Failure σ Unit :=
  if _h : input = [] then pure () else do
    let asked := B - leftover
    let read := reads.size input.length asked
    have hasked : read ≤ asked := reads.le_asked _ _
    let buffer := buffer.store leftover (input.take read) (by simp; omega)
    let stop := leftover + read
    let next ← fakeSequence p o proc seqn (buffer.bytes.take stop)
    have hnext : next.2 ≤ stop := (Nat.le_of_lt_succ next.2.isLt).trans (List.length_take_le _ _)
    if _hfull : next.2.val = B then
      throw .decodedSize
    else
      refill reads next.1 (buffer.moveToFront (stop - next.2) next.2 (by omega))
        ⟨next.2, by omega⟩ (input.drop read)
termination_by input.length
decreasing_by
  have hpos := reads.pos input.length (B - leftover) (List.length_pos_iff.mpr _h) (by omega)
  have hle := reads.le_left input.length (B - leftover)
  simp only [List.length_drop]
  omega

/-- `read_directly` with a buffer of `B` bytes. -/
def readDirectly (reads : ReadSizes) {B : ℕ} (hB : 0 < B) (input : List UInt8) :
    EStateM Failure σ Unit := do
  let buffer ← Buffer.construct B
  refill p o proc reads 1 buffer ⟨0, hB⟩ input

/-- What a run logs about bytes it has not processed. -/
inductive Report where
  | unprocessed (leftover : ℕ)
  deriving DecidableEq, Repr

/-- `process_raw` of a file with this content. -/
def processRaw (file : List UInt8) : EStateM Failure σ (List Report) := do
  let next ← fakeSequence p o proc 1 file
  pure (if next.2.val ≠ 0 then [.unprocessed next.2] else [])

/-! ### What the buffered reader delivers -/

/-- One round: a read of some size, the frames of what the buffer then holds, and
either their rest at the front of the buffer or the exception. -/
theorem refill_round (reads : ReadSizes) {B : ℕ} (seqn : BitVec 64) (buffer : Buffer B)
    (leftover : Fin B) {input : List UInt8} (hne : input ≠ []) :
    ∃ read, 0 < read ∧ read ≤ input.length ∧ leftover + read ≤ B ∧ ∃ window : List UInt8,
      window = buffer.bytes.take leftover ++ input.take read ∧
      window.length = leftover + read ∧
      (((frames o).rest window).length = B →
        refill p o proc reads seqn buffer leftover input = (do
          deliver proc (numbered seqn ((frames o).frames window))
          throw .decodedSize)) ∧
      (((frames o).rest window).length ≠ B → ∃ (buffer' : Buffer B) (leftover' : Fin B),
        buffer'.bytes.take leftover' = (frames o).rest window ∧
        refill p o proc reads seqn buffer leftover input = (do
          deliver proc (numbered seqn ((frames o).frames window))
          refill p o proc reads (seqn + BitVec.ofNat 64 ((frames o).frames window).length)
            buffer' leftover' (input.drop read))) := by
  have hasked := reads.le_asked input.length (B - leftover)
  have hleft := reads.le_left input.length (B - leftover)
  have hpos := reads.pos input.length (B - leftover) (List.length_pos_iff.mpr hne) (by omega)
  have hfits : leftover + (input.take (reads.size input.length (B - leftover))).length ≤ B := by
    simp
    omega
  let filled := buffer.store leftover (input.take (reads.size input.length (B - leftover))) hfits
  let window := filled.bytes.take (leftover + reads.size input.length (B - leftover))
  have hlen : window.length = leftover + reads.size input.length (B - leftover) := by
    simp only [window, List.length_take, filled.length_bytes]
    omega
  have hround : refill p o proc reads seqn buffer leftover input = (do
      deliver proc (numbered seqn ((frames o).frames window))
      if hfull : ((frames o).rest window).length = B then throw .decodedSize
      else
        refill p o proc reads (seqn + BitVec.ofNat 64 ((frames o).frames window).length)
          (filled.moveToFront (leftover + reads.size input.length (B - leftover) -
              ((frames o).rest window).length) ((frames o).rest window).length
            (by have := (Cutter.rest_suffix (C := frames o) window).length_le; omega))
          ⟨((frames o).rest window).length,
            by have := (Cutter.rest_suffix (C := frames o) window).length_le; omega⟩
          (input.drop (reads.size input.length (B - leftover)))) := by
    rw [refill, dif_neg hne]
    simp only [fakeSequence_eq, bind_assoc, pure_bind]
    rfl
  refine ⟨_, hpos, hleft, by omega, window,
    buffer.take_store hfits (by simp [hleft]), hlen, ?_, ?_⟩
  · intro hfull
    rw [hround, dif_pos hfull]
  · intro hfull
    have hle := (Cutter.rest_suffix (C := frames o) window).length_le
    refine ⟨_, ⟨((frames o).rest window).length, by omega⟩, ?_,
      hround.trans (by rw [dif_neg hfull])⟩
    rw [filled.take_moveToFront_tail (hlen ▸ hle) (by omega)]
    change window.drop _ = _
    rw [← hlen, Cutter.drop_length_sub_rest]

/-- Deliver frames, then throw if the reader got stuck behind them. -/
def deliverBounded (seqn : BitVec 64) (outcome : List (List UInt8) × Bool) :
    EStateM Failure σ Unit := do
  deliver proc (numbered seqn outcome.1)
  if outcome.2 then throw .decodedSize

theorem deliverBounded_append (seqn : BitVec 64) (fs gs : List (List UInt8)) (stuck : Bool) :
    deliverBounded proc seqn (fs ++ gs, stuck) = (do
      deliver proc (numbered seqn fs)
      deliverBounded proc (seqn + BitVec.ofNat 64 fs.length) (gs, stuck)) := by
  simp only [deliverBounded, numbered_append, deliver_append, bind_assoc]

/-- The carried bytes and the input are delivered like one stream. -/
theorem refill_eq (reads : ReadSizes) {B : ℕ} (seqn : BitVec 64) (buffer : Buffer B)
    (leftover : Fin B) (input : List UInt8)
    (hcut : (frames o).cut (buffer.bytes.take leftover) = none) :
    refill p o proc reads seqn buffer leftover input =
      deliverBounded proc seqn ((frames o).bounded B (buffer.bytes.take leftover ++ input)) := by
  induction hn : input.length using Nat.strong_induction_on
    generalizing seqn buffer leftover input with
  | _ n ih =>
    by_cases hne : input = []
    · subst hne
      have hj : ¬ (frames o).Jammed B (buffer.bytes.take leftover) := by
        rintro ⟨hle, -⟩
        have := List.length_take_le leftover.val buffer.bytes
        omega
      rw [refill, dif_pos rfl, List.append_nil, Cutter.bounded_of_none hj hcut]
      rfl
    · obtain ⟨read, hpos, hread, hle, window, hwindow, hlen, hthrow, hgo⟩ :=
        refill_round p o proc reads seqn buffer leftover hne
      have hstream : buffer.bytes.take leftover ++ input = window ++ input.drop read := by
        rw [hwindow, List.append_assoc, List.take_append_drop]
      have hwindow_le : window.length ≤ B := by omega
      rw [hstream]
      by_cases hfull : ((frames o).rest window).length = B
      · obtain ⟨hframes, hbounded⟩ :=
          Cutter.bounded_of_full_rest (C := frames o) hwindow_le hfull (input.drop read)
        rw [hthrow hfull, hframes, hbounded]
        rfl
      · obtain ⟨buffer', leftover', hbuffer', hrun⟩ := hgo hfull
        rw [hrun, ih (input.drop read).length (by simp; omega) _ _ _ _
          (by rw [hbuffer', Cutter.cut_rest]) rfl, hbuffer', Cutter.bounded_append hwindow_le,
          deliverBounded_append]

theorem readDirectly_of_le (reads : ReadSizes) {B : ℕ} (hB : 0 < B) (h : B ≤ maxSize)
    (input : List UInt8) :
    readDirectly p o proc reads hB input =
      deliverBounded proc 1 ((frames o).bounded B input) := by
  have hcut : (frames o).cut ((Buffer.zero B).bytes.take (⟨0, hB⟩ : Fin B)) = none := by
    rw [List.take_zero]
    exact if_neg (by simp)
  rw [readDirectly, Buffer.construct, if_neg (Nat.not_lt.mpr h), pure_bind,
    refill_eq p o proc reads 1 _ _ input hcut, List.take_zero, List.nil_append]

/-- Without a buffer nothing is read. -/
theorem readDirectly_of_lt (reads : ReadSizes) {B : ℕ} (hB : 0 < B) (h : maxSize < B)
    (input : List UInt8) : readDirectly p o proc reads hB input = throw .lengthError := by
  rw [readDirectly, Buffer.construct, if_pos h]
  rfl

theorem processRaw_eq (file : List UInt8) :
    processRaw p o proc file = (do
      deliver proc (numbered 1 ((frames o).frames file))
      pure (if ((frames o).rest file).length ≠ 0
        then [.unprocessed ((frames o).rest file).length] else [])) := by
  simp only [processRaw, fakeSequence_eq, bind_assoc, pure_bind]

end Readers

/-! ### The two readers agree up to the first frame that does not fit -/

theorem deliverBounded_quiet {σ : Type} (step : BitVec 64 → List UInt8 → σ → σ)
    (seqn : BitVec 64) (fs : List (List UInt8)) (stuck : Bool) (s : σ) :
    deliverBounded (quiet step) seqn (fs, stuck) s =
      if stuck then .error .decodedSize (afterCalls step (numbered seqn fs) s)
      else .ok () (afterCalls step (numbered seqn fs) s) := by
  simp only [deliverBounded, bind, EStateM.bind, deliver_quiet]
  cases stuck <;> rfl

theorem processRaw_quiet (p : Platform) (o : ByteOrder) {σ : Type}
    (step : BitVec 64 → List UInt8 → σ → σ) (file : List UInt8) (s : σ) :
    processRaw p o (quiet step) file s =
      .ok (if ((frames o).rest file).length ≠ 0
          then [.unprocessed ((frames o).rest file).length] else [])
        (afterCalls step (numbered 1 ((frames o).frames file)) s) := by
  rw [processRaw_eq]
  simp only [bind, EStateM.bind, deliver_quiet]
  rfl

/-- A frame starts at `t`: the frames `fs` stand in front of it. -/
def FrameStart (o : ByteOrder) (S : List UInt8) (fs : List (List UInt8)) (t : List UInt8) : Prop :=
  S = fs.flatMap (lengthFrame o 2) ++ t ∧ ∀ f ∈ fs, f.length < 256 ^ 2

/-- The frame that starts here is longer than the buffer, and so is what is there. -/
def Overlong (o : ByteOrder) (B : ℕ) (t : List UInt8) : Prop :=
  B ≤ t.length ∧ B < 2 + announced o 2 t

instance (o : ByteOrder) (B : ℕ) (t : List UInt8) : Decidable (Overlong o B t) :=
  inferInstanceAs (Decidable (_ ∧ _))

structure FirstOverlong (o : ByteOrder) (B : ℕ) (S : List UInt8) (fs : List (List UInt8))
    (t : List UInt8) : Prop where
  start : FrameStart o S fs t
  overlong : Overlong o B t
  first : ∀ fs' t', FrameStart o S fs' t' → Overlong o B t' → fs.length ≤ fs'.length

theorem exists_firstOverlong {o : ByteOrder} {B : ℕ} {S : List UInt8}
    (h : ∃ fs t, FrameStart o S fs t ∧ Overlong o B t) : ∃ fs t, FirstOverlong o B S fs t := by
  classical
  have hlen : ∃ n fs t, FrameStart o S fs t ∧ Overlong o B t ∧ fs.length = n := by
    obtain ⟨fs, t, hs, ho⟩ := h
    exact ⟨fs.length, fs, t, hs, ho, rfl⟩
  obtain ⟨fs, t, hs, ho, hn⟩ := Nat.find_spec hlen
  refine ⟨fs, t, hs, ho, fun fs' t' hs' ho' => ?_⟩
  rw [hn]
  exact Nat.find_min' hlen ⟨fs', t', hs', ho', rfl⟩

theorem bounded_stuck_iff {o : ByteOrder} {B : ℕ} {S : List UInt8} :
    ((frames o).bounded B S).2 = true ↔ ∃ fs t, FrameStart o S fs t ∧ Overlong o B t := by
  refine Cutter.bounded_jam_iff.trans (exists_congr fun fs => exists_congr fun t => ?_)
  exact and_congr (reaches_iff o (by decide)) (jammed_iff o (by decide))

theorem bounded_of_fits {o : ByteOrder} {B : ℕ} {S : List UInt8}
    (h : ¬ ∃ fs t, FrameStart o S fs t ∧ Overlong o B t) :
    (frames o).bounded B S = ((frames o).frames S, false) := by
  have hjam : ((frames o).bounded B S).2 = false := by
    rw [Bool.eq_false_iff]
    exact fun hjam => h (bounded_stuck_iff.mp hjam)
  exact Prod.ext (Cutter.bounded_eq_frames hjam) hjam

theorem FirstOverlong.bounded_eq {o : ByteOrder} {B : ℕ} {S : List UInt8}
    {fs : List (List UInt8)} {t : List UInt8} (h : FirstOverlong o B S fs t) :
    (frames o).bounded B S = (fs, true) := by
  refine Cutter.bounded_eq_of_first ((reaches_iff o (by decide)).mpr h.start)
    ((jammed_iff o (by decide)).mpr h.overlong) fun fs' t' hr hj => ?_
  exact h.first fs' t' ((reaches_iff o (by decide)).mp hr) ((jammed_iff o (by decide)).mp hj)

/-- `read_directly` makes the calls of `process_raw`, unless a frame does not fit into the
buffer; then it makes those in front of the first such frame and throws. Without a buffer
it makes none. -/
theorem readDirectly_refines_processRaw (p : Platform) (o : ByteOrder) {σ : Type}
    (step : BitVec 64 → List UInt8 → σ → σ) (reads : ReadSizes) {B : ℕ} (hB : 1500 ≤ B)
    (S : List UInt8) (s : σ) :
    (B ≤ maxSize →
      (¬ (∃ fs t, FrameStart o S fs t ∧ Overlong o B t) → ∃ s' reports,
        readDirectly p o (quiet step) reads (Nat.zero_lt_of_lt hB) S s = .ok () s' ∧
        processRaw p o (quiet step) S s = .ok reports s') ∧
      ((∃ fs t, FrameStart o S fs t ∧ Overlong o B t) ↔ ∃ s',
        readDirectly p o (quiet step) reads (Nat.zero_lt_of_lt hB) S s =
          .error .decodedSize s') ∧
      ∀ fs t, FirstOverlong o B S fs t →
        readDirectly p o (quiet step) reads (Nat.zero_lt_of_lt hB) S s =
          .error .decodedSize (afterCalls step (numbered 1 fs) s)) ∧
    (maxSize < B →
      readDirectly p o (quiet step) reads (Nat.zero_lt_of_lt hB) S s = .error .lengthError s) := by
  refine ⟨fun hmax => ?_, fun hlarge => congrFun (readDirectly_of_lt p o _ _ _ hlarge S) s⟩
  have hfits : ¬ (∃ fs t, FrameStart o S fs t ∧ Overlong o B t) →
      readDirectly p o (quiet step) reads (Nat.zero_lt_of_lt hB) S s =
        .ok () (afterCalls step (numbered 1 ((frames o).frames S)) s) := by
    intro h
    rw [readDirectly_of_le _ _ _ _ _ hmax, bounded_of_fits h, deliverBounded_quiet]
    rfl
  have hjam : ∀ fs t, FirstOverlong o B S fs t →
      readDirectly p o (quiet step) reads (Nat.zero_lt_of_lt hB) S s =
        .error .decodedSize (afterCalls step (numbered 1 fs) s) := by
    intro fs t h
    rw [readDirectly_of_le _ _ _ _ _ hmax, h.bounded_eq, deliverBounded_quiet]
    rfl
  refine ⟨fun h => ⟨_, _, hfits h, processRaw_quiet p o step S s⟩, ⟨fun h => ?_, ?_⟩, hjam⟩
  · obtain ⟨fs, t, hfirst⟩ := exists_firstOverlong h
    exact ⟨_, hjam fs t hfirst⟩
  · intro hthrows
    obtain ⟨s', hs'⟩ := hthrows
    by_contra h
    rw [hfits h] at hs'
    cases hs'

/-- A frame of 1501 bytes behind one of five, in a buffer of 1500: one call, then the exception. -/
theorem readDirectly_refines_processRaw_long :
    readDirectly default .big journal (ReadSizes.atMost 7 (by decide)) (show 0 < 1500 by decide)
        (lengthFrame .big 2 [1, 2, 3] ++ lengthFrame .big 2 (List.replicate 1499 0)) [] =
      .error .decodedSize [(1, [1, 2, 3])] := by
  refine ((readDirectly_refines_processRaw default .big _ _ le_rfl _ []).1 (by decide)).2.2
    [[1, 2, 3]] (lengthFrame .big 2 (List.replicate 1499 0))
    ⟨⟨rfl, by decide⟩, by decide +kernel, ?_⟩
  rintro (_ | ⟨f, fs⟩) t hstart hlong
  · obtain rfl : _ = t := hstart.1
    exact absurd hlong (by decide +kernel)
  · simp

/-- Three bytes with one frame, which `process_raw` hands over; a buffer of `2 ^ 63` bytes
cannot be constructed. -/
theorem readDirectly_refines_processRaw_large :
    readDirectly default .big journal (ReadSizes.atMost 7 (by decide))
        (show 0 < 2 ^ 63 by decide) [0, 1, 7] [] = .error .lengthError [] ∧
    processRaw default .big journal [0, 1, 7] [] = .ok [] [(1, [7])] ∧
    ¬ ∀ (B : ℕ) (hB : 1500 ≤ B) (S : List UInt8),
      ¬ (∃ fs t, FrameStart .big S fs t ∧ Overlong .big B t) → ∃ calls reports,
        readDirectly default .big journal (ReadSizes.atMost 7 (by decide))
          (Nat.zero_lt_of_lt hB) S [] = .ok () calls ∧
        processRaw default .big journal S [] = .ok reports calls := by
  have hthrows : readDirectly default .big journal (ReadSizes.atMost 7 (by decide))
      (show 0 < 2 ^ 63 by decide) [0, 1, 7] [] = .error .lengthError [] := by
    rw [readDirectly_of_lt _ _ _ _ _ (by decide)]
    rfl
  have hsmall : ∀ f ∈ [[(7 : UInt8)]], f.length < 256 ^ 2 := by simp
  have hnone : cutLengthFrame .big 2 [] = none := by decide
  obtain ⟨hframes, hrest⟩ : (frames .big).frames [0, 1, 7] = [[7]] ∧
      (frames .big).rest [0, 1, 7] = [] := frames_flatMap .big (by decide) hsmall hnone
  refine ⟨hthrows, ?_, fun h => ?_⟩
  · rw [journal, processRaw_quiet, hframes, hrest]
    rfl
  · obtain ⟨calls, reports, hok, -⟩ := h (2 ^ 63) (by decide) [0, 1, 7] (by
      rintro ⟨fs, t, hstart, hlong, -⟩
      have hlen := congrArg List.length hstart.1
      simp only [List.length_append, List.length_cons, List.length_nil] at hlen
      omega)
    rw [hthrows] at hok
    cases hok

end MdPrsr.Tools
