import MdPrsr.Tools.Run

/-!
# What the readers have in common

Every reader hands the frames of some front of the stream to the processor, one call
after the other, and then ends in its own way. Which frames these are and how it ends
depends on the stream, on the size of the buffers and, when the file is unpacked first,
on what the reads return; it does not depend on the processor.

A file that is still being written is read like the front of the finished file, and a
larger buffer is never worse than a smaller one, as long as it can be constructed.
-/
namespace MdPrsr.Tools
open Wire

/-- How a reader ends once the calls for its frames have returned. -/
def Reading.outcome (o : ByteOrder) (S : List UInt8) : Reading → Except Failure (List Report)
  | .raw => .ok (warnings o S)
  | .unpackFirst reads (B := B) _ =>
      if received reads B S.length ≤ B + B / 4 then
        .ok (warnings o (S.take (received reads B S.length)))
      else .error .overrun
  | .direct _ (B := B) _ => directOutcome o B S

theorem Reading.outcome_direct (o : ByteOrder) (reads : ReadSizes) {B : ℕ} (hB : 0 < B)
    (S : List UInt8) : (Reading.direct reads hB).outcome o S = directOutcome o B S := rfl

/-- The frames that reach the processor: none if the stream is not unpacked. -/
def Reading.calls (o : ByteOrder) (S : List UInt8) (reading : Reading) :
    List (BitVec 64 × List UInt8) :=
  if reading.outcome o S = .error .overrun then [] else numbered 1 (reading.handed o S)

def Reading.payloads (o : ByteOrder) (S : List UInt8) (reading : Reading) : List (List UInt8) :=
  (reading.calls o S).map Prod.snd

theorem Reading.calls_eq (o : ByteOrder) (S : List UInt8) (reading : Reading) :
    reading.calls o S = numbered 1 (reading.payloads o S) := by
  unfold payloads calls
  split
  · rfl
  · rw [map_snd_numbered]

theorem Reading.payloads_of_ok {o : ByteOrder} {S : List UInt8} {reading : Reading}
    {reports : List Report} (h : reading.outcome o S = .ok reports) :
    reading.payloads o S = reading.handed o S := by
  rw [payloads, calls, h, if_neg nofun, map_snd_numbered]

section Readings
variable (p : Platform) (o : ByteOrder) {σ : Type} (proc : Processor σ)

theorem Reading.outcome_direct_ne (reads : ReadSizes) {B : ℕ} (hB : 0 < B) (S : List UInt8) :
    (Reading.direct reads hB).outcome o S ≠ .error .overrun := by
  rw [outcome_direct]
  intro houtcome
  rcases directOutcome_error houtcome with h | h
  · cases h
  · cases h

/-- A reader delivers its frames and ends in its own way. -/
theorem Reading.read_eq (reading : Reading) (S : List UInt8) :
    reading.read p o proc S = (do
      deliver proc (reading.calls o S)
      MonadExcept.ofExcept (reading.outcome o S)) := by
  cases reading with
  | raw => exact read_raw S
  | @unpackFirst reads B hB =>
    by_cases hfits : received reads B S.length ≤ B + B / 4
    · have houtcome : (Reading.unpackFirst reads hB).outcome o S =
          .ok (warnings o (S.take (received reads B S.length))) := if_pos hfits
      rw [read_unpackFirst reads hB hfits, read_raw, calls, houtcome]
      rfl
    · have houtcome : (Reading.unpackFirst reads hB).outcome o S = .error .overrun :=
        if_neg hfits
      rw [calls, houtcome, if_pos rfl]
      funext s
      exact unpackThenProcess_of_lt p o proc reads hB (Nat.not_le.mp hfits) s
  | @direct reads B hB =>
    rw [calls, if_neg (outcome_direct_ne o reads hB S)]
    exact read_direct reads hB S

/-- Logging an exception does not touch the state of the processor. -/
theorem final_logged {σ : Type} (result : EStateM.Result Failure σ (List Report)) :
    final (logged result) = final result := by
  cases result with
  | ok reports s => rfl
  | error e s =>
    unfold logged
    dsimp only
    split <;> rfl

/-- The processor gets all frames of the reader if its calls do not throw. -/
theorem final_run_quiet (p : Platform) (o : ByteOrder) (reading : Reading) (S : List UInt8)
    {σ : Type} (step : BitVec 64 → List UInt8 → σ → σ) (s : σ) :
    final (run p o (quiet step) reading S s) =
      afterCalls step (numbered 1 (reading.payloads o S)) s := by
  rw [run, final_logged, Reading.read_eq, Reading.calls_eq]
  simp only [bind, EStateM.bind, deliver_quiet]
  cases reading.outcome o S <;> rfl

theorem final_journal (p : Platform) (o : ByteOrder) (reading : Reading) (S : List UInt8) :
    final (run p o journal reading S []) = numbered 1 (reading.payloads o S) := by
  unfold journal
  rw [final_run_quiet, afterCalls, List.foldl_append_eq_append, List.nil_append]
  exact List.flatMap_singleton' _

/-! ### The buffer of `read_directly` -/

theorem numbered_prefix {fs gs : List (List UInt8)} (h : fs <+: gs) (seqn : BitVec 64) :
    numbered seqn fs <+: numbered seqn gs := by
  obtain ⟨more, rfl⟩ := h
  rw [numbered_append]
  exact List.prefix_append _ _

/-- No frame is longer than the largest size and the two bytes of the size itself. -/
theorem bounded_of_largest {B : ℕ} (hB : 65537 ≤ B) (S : List UInt8) :
    ((frames o).bounded B S).2 = false := by
  rw [Bool.eq_false_iff, Ne, bounded_stuck_iff]
  rintro ⟨fs, t, -, -, hlong⟩
  have hlt := o.value_lt (t.take 2)
  have hpow := Nat.pow_le_pow_right (show 0 < 256 by decide) (List.length_take_le 2 t)
  unfold announced at hlong
  omega

/-- A size of two largest bytes with as many bytes behind it. -/
def largestFrame : List UInt8 := [255, 255] ++ List.replicate 65535 0

theorem bounded_largestFrame {B : ℕ} (hB : B < 65537) :
    (frames o).bounded B largestFrame = ([], true) := by
  have hannounced : announced o 2 largestFrame = 65535 := by
    have htake : largestFrame.take 2 = [255, 255] := List.take_left' rfl
    rw [announced, htake]
    cases o <;> rfl
  have hlength : largestFrame.length = 65537 := by
    rw [largestFrame, List.length_append, List.length_replicate]
    rfl
  apply Cutter.bounded_of_jammed
  apply (jammed_iff o (by decide)).mpr
  rw [hannounced, hlength]
  omega

theorem directOutcome_eq_decodedSize_iff {B : ℕ} {S : List UInt8} :
    directOutcome o B S = .error .decodedSize ↔
      B ≤ maxSize ∧ ((frames o).bounded B S).2 = true := by
  rcases Nat.lt_or_ge maxSize B with hlarge | hmax
  · rw [directOutcome_of_lt hlarge]
    exact iff_of_false nofun fun h => Nat.not_le.mpr hlarge h.1
  · rw [directOutcome_of_le hmax, and_iff_right hmax]
    cases ((frames o).bounded B S).2 with
    | true => exact iff_of_true rfl rfl
    | false => exact iff_of_false nofun nofun

theorem ofExcept_eq_error_iff {α : Type} (outcome : Except Failure α) (e : Failure) (s : σ) :
    (MonadExcept.ofExcept outcome : EStateM Failure σ α) s = .error e s ↔ outcome = .error e := by
  cases outcome with
  | ok a =>
    constructor
    · intro h
      cases h
    · intro h
      cases h
  | error e' =>
    constructor
    · intro h
      cases h
      rfl
    · intro h
      cases h
      rfl

theorem read_direct_skip_iff (reads : ReadSizes) {B : ℕ} (hB : 0 < B) (S : List UInt8) :
    (Reading.direct reads hB).read p o skip S () = .error .decodedSize () ↔
      B ≤ maxSize ∧ ((frames o).bounded B S).2 = true := by
  have hskip (calls : List (BitVec 64 × List UInt8)) : deliver skip calls () = .ok () () := by
    induction calls with
    | nil => rfl
    | cons call calls ih => exact ih
  rw [read_direct, ← directOutcome_eq_decodedSize_iff]
  simp only [bind, EStateM.bind, hskip]
  exact ofExcept_eq_error_iff _ _ _

theorem Reading.payloads_direct (reads : ReadSizes) {B : ℕ} (hB : 0 < B) (S : List UInt8) :
    (Reading.direct reads hB).payloads o S = (Reading.direct reads hB).handed o S := by
  rw [payloads, calls, if_neg (outcome_direct_ne o reads hB S), map_snd_numbered]

/-- Of the buffers that can be constructed, and whatever the reads return, the calls of a
smaller one come first; where the smaller one is large enough the runs are the same, and
one of 65537 bytes is always large enough, but none that is smaller. A buffer that is too
large reads nothing. -/
theorem direct_buffer_size (reads reads' : ReadSizes) {B B' : ℕ} (hB : 0 < B) (hB' : 0 < B') :
    (B ≤ B' → B' ≤ maxSize → ∀ S : List UInt8,
      final (run p o journal (.direct reads hB) S []) <+:
        final (run p o journal (.direct reads' hB') S []) ∧
      ((Reading.direct reads hB).read p o skip S () ≠ .error .decodedSize () →
        ∀ {σ : Type} (proc : Processor σ), (Reading.direct reads hB).read p o proc S =
          (Reading.direct reads' hB').read p o proc S)) ∧
    ((∀ S : List UInt8, (Reading.direct reads hB).read p o skip S () ≠ .error .decodedSize ()) ↔
      65537 ≤ B) ∧
    (maxSize < B' → ∀ (S : List UInt8) {σ : Type} (proc : Processor σ) (s : σ),
      (Reading.direct reads' hB').read p o proc S s = .error .lengthError s) := by
  refine ⟨fun hle hmax S => ?_, ⟨fun h => ?_, fun hlarge S => ?_⟩, fun hlarge S σ proc s => ?_⟩
  · obtain ⟨hfront, hsame⟩ := Cutter.bounded_mono (C := frames o) hle S
    constructor
    · rw [final_journal, final_journal, Reading.payloads_direct, Reading.payloads_direct,
        handed_direct_of_le reads hB (hle.trans hmax), handed_direct_of_le reads' hB' hmax]
      exact numbered_prefix hfront 1
    · intro hne σ proc
      have hstuck : ((frames o).bounded B S).2 = false := by
        rw [← Bool.not_eq_true]
        exact fun hstuck => hne ((read_direct_skip_iff p o reads hB S).mpr ⟨hle.trans hmax, hstuck⟩)
      rw [read_direct, read_direct, handed_direct_of_le reads hB (hle.trans hmax),
        handed_direct_of_le reads' hB' hmax, directOutcome_of_le (hle.trans hmax),
        directOutcome_of_le hmax, hsame hstuck]
  · by_contra hsmall
    refine h largestFrame ((read_direct_skip_iff p o reads hB largestFrame).mpr ⟨?_, ?_⟩)
    · exact (Nat.le_of_lt (Nat.lt_of_not_le hsmall)).trans (by decide)
    · rw [bounded_largestFrame o (Nat.lt_of_not_le hsmall)]
  · rw [Ne, read_direct_skip_iff, bounded_of_largest o hlarge S]
    exact fun h => Bool.false_ne_true h.2
  · rw [read_direct, handed_direct_of_lt reads' hB' hlarge, directOutcome_of_lt hlarge]
    rfl

end Readings

/-- Reads of seven bytes into the smallest buffer, and the longest frame there is. -/
theorem direct_buffer_size_largest :
    final (run default .big journal
        (.direct (.atMost 7 (by decide)) (show 0 < 1500 by decide)) largestFrame []) <+:
      final (run default .big journal
        (.direct .full (show 0 < 65537 by decide)) largestFrame []) :=
  ((direct_buffer_size default .big (.atMost 7 (by decide)) .full (by decide)
    (by decide)).1 (by decide) (by decide) largestFrame).1

/-! ### Where the readers agree -/

/-- Two runs that leave the processor in one state, and both return or both end the process. -/
inductive SameEnd {σ : Type} :
    EStateM.Result Failure σ RunLog → EStateM.Result Failure σ RunLog → Prop
  | ok (log log' : RunLog) (s : σ) : SameEnd (.ok log s) (.ok log' s)
  | error (e : Failure) (s : σ) : SameEnd (.error e s) (.error e s)

theorem sameEnd_logged_error {σ : Type} (e : Failure) (s : σ) :
    SameEnd (logged (.error e s)) (logged (.error e s)) := by
  unfold logged
  dsimp only
  split
  · exact .ok _ _ s
  · exact .error e s

/-- The reader gets all complete frames and has room for them, in a buffer that can be
constructed. What stands behind them may be cut short, or fill the buffer. -/
def Reading.Whole (o : ByteOrder) (S : List UInt8) : Reading → Prop
  | .raw => True
  | .unpackFirst reads (B := B) _ =>
      received reads B S.length ≤ B + B / 4 ∧
        S.length ≤ received reads B S.length + ((frames o).rest S).length
  | .direct _ (B := B) _ => ∀ f ∈ (frames o).frames S, 2 + f.length ≤ B ∧ B ≤ maxSize

theorem Reading.whole_iff (o : ByteOrder) (S : List UInt8) (reading : Reading) :
    reading.Whole o S ↔ reading.outcome o S ≠ .error .overrun ∧
      reading.payloads o S = (frames o).frames S := by
  cases reading with
  | raw =>
    have houtcome : Reading.raw.outcome o S = .ok (warnings o S) := rfl
    rw [payloads_of_ok houtcome, houtcome]
    exact iff_of_true trivial ⟨nofun, rfl⟩
  | @unpackFirst reads B hB =>
    by_cases hfits : received reads B S.length ≤ B + B / 4
    · have houtcome : (Reading.unpackFirst reads hB).outcome o S =
          .ok (warnings o (S.take (received reads B S.length))) := if_pos hfits
      rw [payloads_of_ok houtcome, houtcome]
      refine and_congr (iff_of_true hfits nofun) ?_
      exact (frames_take_iff o (by decide) _ S).symm
    · have houtcome : (Reading.unpackFirst reads hB).outcome o S = .error .overrun :=
        if_neg hfits
      exact iff_of_false (fun h => hfits h.1) fun h => h.1 houtcome
  | @direct reads B hB =>
    rw [and_iff_right (outcome_direct_ne o reads hB S), payloads_direct]
    unfold Whole
    dsimp only
    rcases Nat.lt_or_ge maxSize B with hlarge | hmax
    · rw [handed_direct_of_lt reads hB hlarge, eq_comm, List.eq_nil_iff_forall_not_mem]
      refine forall₂_congr fun f _ => ?_
      exact iff_of_false (fun h => Nat.not_le.mpr hlarge h.2) id
    · rw [handed_direct_of_le reads hB hmax]
      simp only [hmax, and_true]
      exact (bounded_eq_frames_iff o (by decide) S).symm

theorem Reading.isException_of_outcome {o : ByteOrder} {S : List UInt8} {reading : Reading}
    {e : Failure} (h : reading.outcome o S = .error e) (hne : e ≠ .overrun) :
    e.isException = true := by
  cases reading with
  | raw => cases h
  | @unpackFirst reads B hB =>
    unfold outcome at h
    dsimp only at h
    split at h
    · cases h
    · cases h
      exact absurd rfl hne
  | @direct reads B hB =>
    rcases directOutcome_error h with rfl | rfl
    · rfl
    · rfl

theorem SameEnd.final_eq {σ : Type} {r r' : EStateM.Result Failure σ RunLog}
    (h : SameEnd r r') : final r = final r' := by
  cases h <;> rfl

/-- Every processor is left as `process_raw` leaves it, whatever it does, exactly if the
reader gets all complete frames and has room for them. -/
theorem run_same_iff (p : Platform) (o : ByteOrder) (reading : Reading) (S : List UInt8) :
    (∀ {σ : Type} (proc : Processor σ) (s : σ),
      SameEnd (run p o proc reading S s) (run p o proc .raw S s)) ↔ reading.Whole o S := by
  have hraw : Reading.raw.outcome o S = .ok (warnings o S) := rfl
  have hrawPayloads : Reading.raw.payloads o S = (frames o).frames S :=
    Reading.payloads_of_ok hraw
  rw [Reading.whole_iff]
  constructor
  · intro h
    constructor
    · intro houtcome
      have hend := h journal []
      unfold run journal at hend
      rw [Reading.read_eq, Reading.read_eq, hraw, houtcome] at hend
      simp only [bind, EStateM.bind, deliver_quiet] at hend
      cases hend
    · have hcalls := (h journal []).final_eq
      rw [final_journal, final_journal] at hcalls
      exact (numbered_injective hcalls).trans hrawPayloads
  · rintro ⟨hne, hpayloads⟩ σ proc s
    unfold run
    rw [Reading.read_eq, Reading.read_eq, Reading.calls_eq, Reading.calls_eq, hpayloads,
      hrawPayloads, hraw]
    simp only [bind, EStateM.bind]
    cases deliver proc (numbered 1 ((frames o).frames S)) s with
    | error e s' => exact sameEnd_logged_error e s'
    | ok _ s' =>
      cases houtcome : reading.outcome o S with
      | ok reports => exact .ok _ _ s'
      | error e =>
        have hcaught := Reading.isException_of_outcome houtcome fun heq =>
          hne (houtcome.trans (congrArg Except.error heq))
        have hlogged : logged (.error e s') = .ok ⟨[], some e⟩ s' := if_pos hcaught
        exact hlogged ▸ .ok _ _ s'

/-! ### A file that grows -/

/-- The same reader with the same buffer; only the sizes that the reads return may differ. -/
inductive Reading.SameBuffer : Reading → Reading → Prop
  | raw : SameBuffer .raw .raw
  | direct (reads reads' : ReadSizes) {B : ℕ} (hB : 0 < B) :
      SameBuffer (.direct reads hB) (.direct reads' hB)

section Growing
variable {o : ByteOrder} {reading reading' : Reading}

theorem Reading.SameBuffer.calls_eq (h : reading.SameBuffer reading') (S : List UInt8) :
    reading.calls o S = numbered 1 (reading.handed o S) ∧
      reading'.calls o S = numbered 1 (reading'.handed o S) := by
  cases h with
  | raw => exact ⟨if_neg nofun, if_neg nofun⟩
  | direct reads reads' hB =>
    exact ⟨if_neg (outcome_direct_ne o reads hB S), if_neg (outcome_direct_ne o reads' hB S)⟩

/-- A longer file is read like its front, if that is an exception; if it is not, the reader
goes on with what the front leaves over. -/
theorem Reading.SameBuffer.append (h : reading.SameBuffer reading') (S more : List UInt8) :
    (∃ e, reading.outcome o S = .error e ∧ reading'.outcome o (S ++ more) = .error e ∧
        reading'.handed o (S ++ more) = reading.handed o S) ∨
      (∃ reports, reading.outcome o S = .ok reports) ∧
        reading.handed o S = (frames o).frames S ∧
        reading'.handed o (S ++ more) =
          (frames o).frames S ++ reading'.handed o ((frames o).rest S ++ more) ∧
        reading'.outcome o (S ++ more) = reading'.outcome o ((frames o).rest S ++ more) := by
  cases h with
  | raw =>
    right
    refine ⟨⟨_, rfl⟩, rfl, Cutter.frames_append S more, ?_⟩
    unfold outcome warnings
    rw [Cutter.rest_append]
  | @direct reads reads' B hB =>
    simp only [outcome_direct]
    rcases Nat.lt_or_ge maxSize B with hlarge | hmax
    · left
      exact ⟨_, directOutcome_of_lt hlarge S, directOutcome_of_lt hlarge (S ++ more),
        (handed_direct_of_lt reads' hB hlarge _).trans
          (handed_direct_of_lt reads hB hlarge S).symm⟩
    · simp only [directOutcome_of_le hmax, handed_direct_of_le _ hB hmax]
      cases hstuck : ((frames o).bounded B S).2 with
      | true =>
        left
        rw [Cutter.bounded_append_of_stuck hstuck, hstuck]
        exact ⟨_, rfl, rfl, rfl⟩
      | false =>
        right
        rw [Cutter.bounded_append_of_free hstuck, Cutter.bounded_eq_frames hstuck]
        exact ⟨⟨_, rfl⟩, rfl, rfl, rfl⟩

end Growing

/-- A run over a file that has grown fails as the run over its front, or it is that run
and then one over what the front left over and the new bytes, numbered on. -/
theorem read_append (p : Platform) (o : ByteOrder) {reading reading' : Reading}
    (h : reading.SameBuffer reading') {σ : Type} (proc : Processor σ) (S more : List UInt8)
    (s : σ) :
    (∀ e s', reading.read p o proc S s = .error e s' →
      reading'.read p o proc (S ++ more) s = .error e s') ∧
    ∀ reports s', reading.read p o proc S s = .ok reports s' →
      reading'.read p o proc (S ++ more) s = (do
        deliver proc (numbered (1 + BitVec.ofNat 64 ((frames o).frames S).length)
          (reading'.handed o ((frames o).rest S ++ more)))
        MonadExcept.ofExcept (reading'.outcome o ((frames o).rest S ++ more))) s' := by
  rw [Reading.read_eq, Reading.read_eq, (h.calls_eq S).1, (h.calls_eq (S ++ more)).2]
  rcases h.append S more with ⟨e, hfront, hall, hhanded⟩ | ⟨⟨reports, hfront⟩, hS, hhanded, hall⟩
  · rw [hfront, hall, hhanded]
    refine ⟨fun _ _ hrun => hrun, fun reports s' hrun => ?_⟩
    simp only [bind, EStateM.bind] at hrun
    cases hcalls : deliver proc (numbered 1 (reading.handed o S)) s with
    | ok _ s₁ =>
      rw [hcalls] at hrun
      cases hrun
    | error e₁ s₁ =>
      rw [hcalls] at hrun
      cases hrun
  · rw [hfront, hall, hhanded, hS, numbered_append, deliver_append]
    simp only [bind, EStateM.bind]
    cases deliver proc (numbered 1 ((frames o).frames S)) s with
    | ok _ s₁ =>
      refine ⟨nofun, fun _ s' hrun => ?_⟩
      cases hrun
      rfl
    | error e₁ s₁ => exact ⟨fun _ _ hrun => hrun, nofun⟩

/-- A frame and the first byte of the next, and then the other bytes of it. -/
theorem read_append_two :
    Reading.raw.read default .big (fun number message => modify (· ++ [(number, message)]))
        ([0, 1, 7, 0] ++ [1, 8]) [] = .ok [] [(1, [7]), (2, [8])] := by
  have hsmall (b : UInt8) : ∀ q ∈ [[b]], q.length < 256 ^ 2 := by simp
  have hshort : cutLengthFrame .big 2 [0] = none := by decide
  have hnone : cutLengthFrame .big 2 [] = none := by decide
  obtain ⟨hframes, hrest⟩ : (frames .big).frames [0, 1, 7, 0] = [[7]] ∧
      (frames .big).rest [0, 1, 7, 0] = [0] :=
    frames_flatMap .big (by decide) (hsmall 7) hshort
  obtain ⟨hframes', hrest'⟩ : (frames .big).frames [0, 1, 8] = [[8]] ∧
      (frames .big).rest [0, 1, 8] = [] :=
    frames_flatMap .big (by decide) (hsmall 8) hnone
  have hfront : Reading.raw.read default .big
      (fun number message => modify (· ++ [(number, message)])) [0, 1, 7, 0] [] =
        .ok [.unprocessed 1] [(1, [7])] := by
    rw [read_raw, hframes, warnings, hrest]
    rfl
  have hgrown := (read_append default .big .raw _ [0, 1, 7, 0] [1, 8] []).2 _ _ hfront
  have hall : Reading.raw.handed .big [0, 1, 8] = [[8]] := hframes'
  have hend : Reading.raw.outcome .big [0, 1, 8] = .ok [] := warnings_eq_nil_iff.mpr
    (covered_iff.mpr hrest') ▸ rfl
  rw [hframes, hrest] at hgrown
  simp only [List.cons_append, List.nil_append] at hgrown ⊢
  rw [hgrown, hall, hend]
  rfl

end MdPrsr.Tools
