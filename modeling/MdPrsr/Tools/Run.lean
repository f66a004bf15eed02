import MdPrsr.Tools.Unpack

/-!
# What a run reports

`run` chooses a reader for the file and logs the exceptions that come out of it.
`process_raw` and `unpack_then_process` warn about the bytes behind the last
complete frame of what they have read. `read_directly` has these bytes as its
leftover and forgets them when the input ends, and `unpack_then_process` takes a
read that returns less than it asked for to be the last. `run_reports_iff` says
when a run is silent about bytes it has not delivered.
-/
namespace MdPrsr.Tools
open Wire

/-- What comes out of a call as an exception. An access outside a buffer and a failed
assertion do not; they end the process. -/
def Failure.isException : Failure → Bool
  | .decode fault => fault != .overrun
  | .lengthError | .decodedSize => true
  | .overrun | .assertion => false

/-- What a run logs besides its progress: the warnings of the reader and the exception
that was caught. -/
structure RunLog where
  reports : List Report
  error : Option Failure

def RunLog.Silent (log : RunLog) : Prop := log.reports = [] ∧ log.error = none

/-- The readers that `run` chooses from, with what their reads return and the size of
their buffers. -/
inductive Reading where
  | raw
  | unpackFirst (reads : ReadSizes) {B : ℕ} (hB : 0 < B)
  | direct (reads : ReadSizes) {B : ℕ} (hB : 0 < B)

section Run
variable (p : Platform) (o : ByteOrder) {σ : Type} (proc : Processor σ)

def Reading.read (input : List UInt8) : Reading → EStateM Failure σ (List Report)
  | .raw => processRaw p o proc input
  | .unpackFirst reads hB => unpackThenProcess p o proc reads hB input
  | .direct reads hB => do
      readDirectly p o proc reads hB input
      pure []

/-- The end of `run`: what its `try` block leaves is logged. -/
def logged : EStateM.Result Failure σ (List Report) → EStateM.Result Failure σ RunLog
  | .ok reports s => .ok ⟨reports, none⟩ s
  | .error e s => if e.isException then .ok ⟨[], some e⟩ s else .error e s

def run (reading : Reading) (input : List UInt8) : EStateM Failure σ RunLog :=
  fun s => logged (reading.read p o proc input s)

/-- The processor with a list of the calls that were made. -/
def recording : Processor (σ × List (BitVec 64 × List UInt8)) := fun seqn message s =>
  match proc seqn message s.1 with
  | .ok () s' => .ok () (s', s.2 ++ [(seqn, message)])
  | .error e s' => .error e (s', s.2 ++ [(seqn, message)])

/-- The calls that are made, up to the first that throws. -/
def callsMade (calls : List (BitVec 64 × List UInt8)) (s : σ) : List (BitVec 64 × List UInt8) :=
  (final (deliver (recording proc) calls (s, []))).2

/-- The complete frames cover the stream. -/
def Covered (S : List UInt8) : Prop := ∃ fs, FrameStart o S fs []

/-- The run returns. It is not silent about bytes behind the complete frames, and if it is
silent, the calls it made cover the whole stream. -/
def Reported (S : List UInt8)
    (result : EStateM.Result Failure (σ × List (BitVec 64 × List UInt8)) RunLog) : Prop :=
  ∃ log s', result = .ok log s' ∧ (¬ Covered o S → ¬ log.Silent) ∧
    (log.Silent → ∃ fs, FrameStart o S fs [] ∧ s'.2 = numbered 1 fs)

/-- One of the calls throws. -/
def Throws (calls : List (BitVec 64 × List UInt8)) (s : σ) : Prop :=
  ∃ e s', deliver proc calls s = .error e s'

/-- The calls return or throw an exception. -/
def Returns (calls : List (BitVec 64 × List UInt8)) (s : σ) : Prop :=
  ∀ e s', deliver proc calls s = .error e s' → e.isException = true

/-- The frames that the reader hands to the processor, none if it has no buffer. -/
def Reading.handed (S : List UInt8) : Reading → List (List UInt8)
  | .raw => (frames o).frames S
  | .unpackFirst reads (B := B) _ => (frames o).frames (S.take (received reads B S.length))
  | .direct _ (B := B) _ => if maxSize < B then [] else ((frames o).bounded B S).1

/-- When the reader says something about the bytes it does not deliver, or has none. -/
def Reading.Notices (S : List UInt8) (s : σ) (reading : Reading) : Prop :=
  match reading with
  | .raw => True
  | .unpackFirst reads (B := B) _ =>
      received reads B S.length ≤ B + B / 4 ∧
        (received reads B S.length = S.length ∨
          ¬ Covered o (S.take (received reads B S.length)) ∨
          Throws proc (numbered 1 (reading.handed o S)) s)
  | .direct _ (B := B) _ =>
      maxSize < B ∨ Covered o S ∨ (∃ fs t, FrameStart o S fs t ∧ Overlong o B t) ∨
        Throws proc (numbered 1 (reading.handed o S)) s

variable {p o proc}

theorem covered_iff {S : List UInt8} : Covered o S ↔ (frames o).rest S = [] := by
  constructor
  · intro hcovered
    obtain ⟨fs, rfl, hfs⟩ := hcovered
    exact (frames_flatMap o (by decide) hfs ((cutLengthFrame_eq_none_iff o).mpr (by simp))).2
  · intro h
    have hreach := Cutter.reaches_rest (C := frames o) S
    rw [h] at hreach
    exact ⟨_, (reaches_iff o (by decide)).mp hreach⟩

theorem frameStart_frames {S : List UInt8} (h : Covered o S) :
    FrameStart o S ((frames o).frames S) [] := by
  have hreach := Cutter.reaches_rest (C := frames o) S
  rw [covered_iff.mp h] at hreach
  exact (reaches_iff o (by decide)).mp hreach

theorem map_snd_numbered (seqn : BitVec 64) (fs : List (List UInt8)) :
    (numbered seqn fs).map Prod.snd = fs := by
  induction fs generalizing seqn with
  | nil => rfl
  | cons f fs ih => rw [numbered, List.map_cons, ih]

theorem numbered_injective {seqn : BitVec 64} {fs gs : List (List UInt8)}
    (h : numbered seqn fs = numbered seqn gs) : fs = gs := by
  rw [← map_snd_numbered seqn fs, h, map_snd_numbered]

/-! ### The calls of a run -/

theorem deliver_recording_of_ok {calls : List (BitVec 64 × List UInt8)} {s s' : σ}
    (h : deliver proc calls s = .ok () s') (made : List (BitVec 64 × List UInt8)) :
    deliver (recording proc) calls (s, made) = .ok () (s', made ++ calls) := by
  induction calls generalizing s made with
  | nil =>
    cases h
    rw [List.append_nil]
    rfl
  | cons call calls ih =>
    rw [deliver_cons] at h ⊢
    simp only [bind, EStateM.bind, recording] at h ⊢
    cases hcall : proc call.1 call.2 s with
    | ok _ s₁ =>
      rw [hcall] at h
      have hrest := ih h (made ++ [call])
      rw [List.append_assoc] at hrest
      exact hrest
    | error e s₁ =>
      rw [hcall] at h
      cases h

theorem deliver_recording_of_error {calls : List (BitVec 64 × List UInt8)} {s s' : σ}
    {e : Failure} (h : deliver proc calls s = .error e s')
    (made : List (BitVec 64 × List UInt8)) :
    ∃ made', deliver (recording proc) calls (s, made) = .error e (s', made') := by
  induction calls generalizing s made with
  | nil => cases h
  | cons call calls ih =>
    rw [deliver_cons] at h ⊢
    simp only [bind, EStateM.bind, recording] at h ⊢
    cases hcall : proc call.1 call.2 s with
    | ok _ s₁ =>
      rw [hcall] at h
      exact ih h (made ++ [call])
    | error e₁ s₁ =>
      rw [hcall] at h
      cases h
      exact ⟨made ++ [call], rfl⟩

/-- The recorder only adds to its list. -/
theorem final_deliver_recording (calls : List (BitVec 64 × List UInt8)) (s : σ)
    (made : List (BitVec 64 × List UInt8)) :
    (final (deliver (recording proc) calls (s, made))).2 = made ++ callsMade proc calls s := by
  unfold callsMade
  induction calls generalizing s made with
  | nil => simp [final, deliver_nil, pure, EStateM.pure]
  | cons call calls ih =>
    rw [deliver_cons]
    simp only [bind, EStateM.bind, recording]
    cases proc call.1 call.2 s with
    | ok _ s' =>
      refine (ih s' (made ++ [call])).trans ?_
      rw [List.append_assoc]
      exact congrArg (made ++ ·) (ih s' [call]).symm
    | error e s' => rfl

theorem callsMade_cons_of_ok {call : BitVec 64 × List UInt8} {s s' : σ}
    (h : proc call.1 call.2 s = .ok () s') (calls : List (BitVec 64 × List UInt8)) :
    callsMade proc (call :: calls) s = call :: callsMade proc calls s' := by
  have hrest : (final (deliver (recording proc) calls (s', [call]))).2 =
      [call] ++ callsMade proc calls s' := final_deliver_recording calls s' [call]
  unfold callsMade
  rw [deliver_cons]
  simp only [bind, EStateM.bind, recording, h, List.nil_append]
  exact hrest

theorem callsMade_cons_of_error {call : BitVec 64 × List UInt8} {s s' : σ} {e : Failure}
    (h : proc call.1 call.2 s = .error e s') (calls : List (BitVec 64 × List UInt8)) :
    callsMade proc (call :: calls) s = [call] := by
  unfold callsMade
  rw [deliver_cons]
  simp only [bind, EStateM.bind, recording, h]
  rfl

theorem head_mem_callsMade (call : BitVec 64 × List UInt8) (calls : List (BitVec 64 × List UInt8))
    (s : σ) : call ∈ callsMade proc (call :: calls) s := by
  cases hcall : proc call.1 call.2 s with
  | ok _ s' =>
    rw [callsMade_cons_of_ok hcall]
    exact List.mem_cons_self
  | error e s' =>
    rw [callsMade_cons_of_error hcall]
    exact List.mem_cons_self

theorem returns_of_ok {calls : List (BitVec 64 × List UInt8)} {s s' : σ}
    (h : deliver proc calls s = .ok () s') : Returns proc calls s := by
  intro e s'' herror
  rw [h] at herror
  cases herror

theorem not_throws_of_ok {calls : List (BitVec 64 × List UInt8)} {s s' : σ}
    (h : deliver proc calls s = .ok () s') : ¬ Throws proc calls s := by
  intro hthrows
  obtain ⟨e, s'', herror⟩ := hthrows
  rw [h] at herror
  cases herror

theorem throws_of_error {calls : List (BitVec 64 × List UInt8)} {s s' : σ} {e : Failure}
    (h : deliver proc calls s = .error e s') : Throws proc calls s := ⟨e, s', h⟩

theorem returns_iff_of_error {calls : List (BitVec 64 × List UInt8)} {s s' : σ} {e : Failure}
    (h : deliver proc calls s = .error e s') :
    Returns proc calls s ↔ e.isException = true := by
  constructor
  · intro hreturns
    exact hreturns e s' h
  · intro he e' s'' herror
    rw [h] at herror
    cases herror
    exact he

theorem reported_ok_iff {S : List UInt8} {s' : σ × List (BitVec 64 × List UInt8)}
    (log : RunLog) :
    Reported o S (.ok log s') ↔ (¬ Covered o S → ¬ log.Silent) ∧
      (log.Silent → ∃ fs, FrameStart o S fs [] ∧ s'.2 = numbered 1 fs) := by
  constructor
  · intro hreported
    obtain ⟨log', s'', heq, h⟩ := hreported
    cases heq
    exact h
  · intro h
    exact ⟨log, s', rfl, h⟩

/-- An exception is reported; anything else that ends a call is not. -/
theorem reported_logged_error_iff {S : List UInt8} {s' : σ × List (BitVec 64 × List UInt8)}
    (e : Failure) : Reported o S (logged (.error e s')) ↔ e.isException = true := by
  by_cases he : e.isException = true
  · have hlogged : logged (.error e s') = .ok ⟨[], some e⟩ s' := if_pos he
    rw [hlogged]
    have hloud : ¬ RunLog.Silent ⟨[], some e⟩ := fun h => Option.some_ne_none e h.2
    exact iff_of_true ((reported_ok_iff _).mpr ⟨fun _ => hloud, fun h => absurd h hloud⟩) he
  · have hlogged : logged (.error e s') = .error e s' := if_neg he
    rw [hlogged]
    refine iff_of_false ?_ he
    intro hreported
    obtain ⟨log, s'', heq, -⟩ := hreported
    cases heq

/-- What a reader ends with, once the calls for the frames `fs` have returned. -/
def Finished (o : ByteOrder) (S : List UInt8) (fs : List (List UInt8)) :
    Except Failure (List Report) → Prop
  | .ok reports => (¬ Covered o S → reports ≠ []) ∧ (reports = [] → FrameStart o S fs [])
  | .error e => e.isException = true

/-- A run that delivers frames and then ends in one way or the other. -/
theorem reported_iff {reading : Reading} {S : List UInt8} {fs : List (List UInt8)}
    {outcome : Except Failure (List Report)}
    (h : reading.read p o (recording proc) S =
      (do deliver (recording proc) (numbered 1 fs); MonadExcept.ofExcept outcome)) (s : σ) :
    Reported o S (run p o (recording proc) reading S (s, [])) ↔
      Returns proc (numbered 1 fs) s ∧
        (Throws proc (numbered 1 fs) s ∨ Finished o S fs outcome) := by
  unfold run
  rw [h]
  simp only [bind, EStateM.bind]
  cases hcalls : deliver proc (numbered 1 fs) s with
  | error e s' =>
    obtain ⟨made, hmade⟩ := deliver_recording_of_error hcalls []
    rw [hmade, reported_logged_error_iff, returns_iff_of_error hcalls]
    exact (and_iff_left (.inl (throws_of_error hcalls))).symm
  | ok _ s' =>
    rw [deliver_recording_of_ok hcalls, List.nil_append,
      and_iff_right (returns_of_ok hcalls), or_iff_right (not_throws_of_ok hcalls)]
    cases outcome with
    | error e => exact reported_logged_error_iff e
    | ok reports =>
      refine (reported_ok_iff _).trans ?_
      constructor
      · rintro ⟨hloud, hmade⟩
        refine ⟨fun hnot hnil => hloud hnot ⟨hnil, rfl⟩, fun hnil => ?_⟩
        obtain ⟨gs, hgs, hsame⟩ := hmade ⟨hnil, rfl⟩
        rwa [numbered_injective hsame]
      · rintro ⟨hloud, hmade⟩
        exact ⟨fun hnot hsilent => hloud hnot hsilent.1, fun hsilent => ⟨fs, hmade hsilent.1, rfl⟩⟩

/-! ### The readers -/

/-- The warning of `process_raw` about what the frames leave over. -/
def warnings (o : ByteOrder) (S : List UInt8) : List Report :=
  if ((frames o).rest S).length ≠ 0 then [.unprocessed ((frames o).rest S).length] else []

theorem warnings_eq_nil_iff {S : List UInt8} : warnings o S = [] ↔ Covered o S := by
  rw [covered_iff]
  unfold warnings
  split
  · rename_i h
    exact iff_of_false (List.cons_ne_nil _ _) fun hnil => h (List.length_eq_zero_iff.mpr hnil)
  · rename_i h
    exact iff_of_true rfl (List.length_eq_zero_iff.mp (not_not.mp h))

/-- A reader that has read the whole stream and warns reports all it has to. -/
theorem finished_warnings (o : ByteOrder) (S : List UInt8) :
    Finished o S ((frames o).frames S) (.ok (warnings o S)) := by
  constructor
  · exact mt warnings_eq_nil_iff.mp
  · intro h
    exact frameStart_frames (warnings_eq_nil_iff.mp h)

/-- One that has read a part of it does so unless its frames cover the part. -/
theorem finished_take_iff {S : List UInt8} {n : ℕ} (hn : n ≤ S.length) :
    Finished o S ((frames o).frames (S.take n)) (.ok (warnings o (S.take n))) ↔
      n = S.length ∨ ¬ Covered o (S.take n) := by
  constructor
  · intro h
    by_cases hcovered : Covered o (S.take n)
    · left
      have hpart := (frameStart_frames hcovered).1
      have hall := (h.2 (warnings_eq_nil_iff.mpr hcovered)).1
      have hlen := congrArg List.length (hall.trans hpart.symm)
      rw [List.length_take] at hlen
      omega
    · exact .inr hcovered
  · intro hnotices
    rcases hnotices with rfl | hcovered
    · rw [List.take_length]
      exact finished_warnings o S
    · have hwarned := mt warnings_eq_nil_iff.mp hcovered
      exact ⟨fun _ => hwarned, fun h => absurd h hwarned⟩

/-- A reader that never warns must have nothing left over. -/
theorem finished_nil_iff {S : List UInt8} :
    Finished o S ((frames o).frames S) (.ok []) ↔ Covered o S := by
  constructor
  · intro h
    by_contra hcovered
    exact h.1 hcovered rfl
  · intro hcovered
    exact ⟨fun h => absurd hcovered h, fun _ => frameStart_frames hcovered⟩

theorem read_raw (S : List UInt8) :
    Reading.raw.read p o proc S = (do
      deliver proc (numbered 1 ((frames o).frames S))
      MonadExcept.ofExcept (.ok (warnings o S))) := processRaw_eq p o proc S

theorem read_unpackFirst (reads : ReadSizes) {B : ℕ} (hB : 0 < B) {S : List UInt8}
    (h : received reads B S.length ≤ B + B / 4) :
    (Reading.unpackFirst reads hB).read p o proc S =
      Reading.raw.read p o proc (S.take (received reads B S.length)) :=
  unpackThenProcess_of_le p o proc reads hB h

/-- How `read_directly` ends: without a buffer, with a full one, or at the end of the input. -/
def directOutcome (o : ByteOrder) (B : ℕ) (S : List UInt8) : Except Failure (List Report) :=
  if maxSize < B then .error .lengthError
  else if ((frames o).bounded B S).2 then .error .decodedSize
  else .ok []

theorem directOutcome_of_le {B : ℕ} (h : B ≤ maxSize) (S : List UInt8) :
    directOutcome o B S = if ((frames o).bounded B S).2 then .error .decodedSize else .ok [] :=
  if_neg (Nat.not_lt.mpr h)

theorem directOutcome_of_lt {B : ℕ} (h : maxSize < B) (S : List UInt8) :
    directOutcome o B S = .error .lengthError := if_pos h

theorem directOutcome_error {B : ℕ} {S : List UInt8} {e : Failure}
    (h : directOutcome o B S = .error e) : e = .lengthError ∨ e = .decodedSize := by
  unfold directOutcome at h
  split at h
  · cases h
    exact .inl rfl
  · split at h
    · cases h
      exact .inr rfl
    · cases h

theorem handed_direct_of_le (reads : ReadSizes) {B : ℕ} (hB : 0 < B) (h : B ≤ maxSize)
    (S : List UInt8) : (Reading.direct reads hB).handed o S = ((frames o).bounded B S).1 :=
  if_neg (Nat.not_lt.mpr h)

theorem handed_direct_of_lt (reads : ReadSizes) {B : ℕ} (hB : 0 < B) (h : maxSize < B)
    (S : List UInt8) : (Reading.direct reads hB).handed o S = [] := if_pos h

theorem read_direct (reads : ReadSizes) {B : ℕ} (hB : 0 < B) (S : List UInt8) :
    (Reading.direct reads hB).read p o proc S = (do
      deliver proc (numbered 1 ((Reading.direct reads hB).handed o S))
      MonadExcept.ofExcept (directOutcome o B S)) := by
  rw [Reading.read]
  rcases Nat.lt_or_ge maxSize B with hlarge | hmax
  · rw [readDirectly_of_lt p o proc reads hB hlarge, handed_direct_of_lt reads hB hlarge,
      directOutcome_of_lt hlarge]
    rfl
  · rw [readDirectly_of_le p o proc reads hB hmax, handed_direct_of_le reads hB hmax,
      directOutcome_of_le hmax, deliverBounded, bind_assoc]
    cases ((frames o).bounded B S).2 <;> rfl

/-- Reading directly, the end of the input is silent, and a full buffer is an exception, as
one that cannot be constructed. -/
theorem finished_direct_iff (reads : ReadSizes) {B : ℕ} (hB : 0 < B) {S : List UInt8} :
    Finished o S ((Reading.direct reads hB).handed o S) (directOutcome o B S) ↔
      maxSize < B ∨ Covered o S ∨ ∃ fs t, FrameStart o S fs t ∧ Overlong o B t := by
  rcases Nat.lt_or_ge maxSize B with hlarge | hmax
  · rw [directOutcome_of_lt hlarge]
    exact iff_of_true rfl (.inl hlarge)
  · rw [handed_direct_of_le reads hB hmax, directOutcome_of_le hmax,
      or_iff_right (Nat.not_lt.mpr hmax)]
    by_cases hstuck : ((frames o).bounded B S).2 = true
    · rw [if_pos hstuck]
      exact iff_of_true rfl (.inr (bounded_stuck_iff.mp hstuck))
    · have hfits := mt bounded_stuck_iff.mpr hstuck
      rw [if_neg hstuck, bounded_of_fits hfits, finished_nil_iff]
      simp [hfits]

/-- A stream that does not fit into the mapping ends the process. -/
theorem not_reported_of_lt (reads : ReadSizes) {B : ℕ} (hB : 0 < B) {S : List UInt8}
    (h : B + B / 4 < received reads B S.length) (s : σ × List (BitVec 64 × List UInt8)) :
    ¬ Reported o S (run p o (recording proc) (.unpackFirst reads hB) S s) := by
  have hread : unpackThenProcess p o (recording proc) reads hB S s = .error .overrun s :=
    unpackThenProcess_of_lt p o _ reads hB h s
  have hrun : run p o (recording proc) (.unpackFirst reads hB) S s = logged (.error .overrun s) :=
    congrArg logged hread
  rw [hrun, reported_logged_error_iff]
  exact Bool.false_ne_true

/-- A run reports what it has to exactly when the calls of the processor return or throw
and the reader notices the bytes that it does not deliver. -/
theorem run_reports_iff (p : Platform) (o : ByteOrder) {σ : Type} (proc : Processor σ)
    (reading : Reading) (S : List UInt8) (s : σ) :
    Reported o S (run p o (recording proc) reading S (s, [])) ↔
      Returns proc (numbered 1 (reading.handed o S)) s ∧ reading.Notices o proc S s := by
  cases reading with
  | raw =>
    refine (reported_iff (read_raw S) s).trans (and_congr_right fun _ => ?_)
    exact iff_of_true (.inr (finished_warnings o S)) trivial
  | @unpackFirst reads B hB =>
    rcases Nat.lt_or_ge (B + B / 4) (received reads B S.length) with hlong | hfits
    · refine iff_of_false (not_reported_of_lt reads hB hlong _) fun h => ?_
      exact absurd h.2.1 (Nat.not_le.mpr hlong)
    · refine (reported_iff ((read_unpackFirst reads hB hfits).trans (read_raw _)) s).trans
        (and_congr_right fun _ => ?_)
      rw [finished_take_iff (received_le reads B S.length)]
      simp only [Reading.Notices, Reading.handed]
      tauto
  | @direct reads B hB =>
    refine (reported_iff (read_direct reads hB S) s).trans (and_congr_right fun _ => ?_)
    rw [finished_direct_iff]
    exact or_comm.trans (or_assoc.trans (or_congr_right or_assoc))

end Run

/-- A processor that does nothing. -/
def skip : Processor Unit := fun _ _ => pure ()

/-- One byte in a buffer of 1500: `read_directly` ends without a word. -/
theorem run_silent :
    run default .big (recording skip)
        (.direct (.atMost 1 (by decide)) (show 0 < 1500 by decide)) [0] ((), []) =
      .ok ⟨[], none⟩ ((), []) ∧
    ¬ Covered .big [0] ∧
    ¬ ∀ (reading : Reading) (S : List UInt8),
      Reported .big S (run default .big (recording skip) reading S ((), [])) := by
  have hcut : (frames .big).cut [0] = none := by decide
  have hcovered : ¬ Covered .big [0] := by
    rw [covered_iff, Cutter.rest_of_none hcut]
    exact List.cons_ne_nil _ _
  have hbounded : (frames .big).bounded 1500 [0] = ([], false) :=
    Cutter.bounded_of_none (fun hj => absurd hj.1 (by decide)) hcut
  have hrun : run default .big (recording skip)
      (.direct (.atMost 1 (by decide)) (show 0 < 1500 by decide)) [0] ((), []) =
        .ok ⟨[], none⟩ ((), []) := by
    rw [run, read_direct, handed_direct_of_le _ _ (by decide), directOutcome_of_le (by decide),
      hbounded]
    rfl
  refine ⟨hrun, hcovered, fun h => ?_⟩
  obtain ⟨log, s', hlog, hloud, -⟩ :=
    h (.direct (.atMost 1 (by decide)) (show 0 < 1500 by decide)) [0]
  rw [hrun] at hlog
  cases hlog
  exact hloud hcovered ⟨rfl, rfl⟩

end MdPrsr.Tools
