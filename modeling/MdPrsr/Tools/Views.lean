import MdPrsr.Tools.FrameAssertion
import MdPrsr.Tools.MessageCounter
import MdPrsr.Tools.Pipeline
import MdPrsr.Tools.Readings

/-!
# What the frame processors keep of a file

`hdf5_writer`, `parquet_writer` and `message_dumper` use the messages of a file in its
order until a frame stops them. Which messages these are and what the run logs is the same
for all three: the tables of the one, the tables of the other and the lines of the third
are three views of one list.
-/
namespace MdPrsr.Tools
open Wire

/-! ### One list of messages -/

section Extraction
variable (p : Platform) (asserts : Bool)

/-- The message in a frame and the bytes behind it. -/
def decodeFrame (frame : List UInt8) : Except Fault (AnyValue × List UInt8) :=
  match h : Itch.messages.decode p frame with
  | .error fault _ => .error fault
  | .ok decoded rest => .ok (⟨⟨decoded.1, Variant.mem_of_decode p h⟩, decoded.2⟩, rest)

/-- The failure with which a frame ends the run. -/
def stops (frame : List UInt8) : Option Failure :=
  match decodeFrame p frame with
  | .error fault => some (.decode fault)
  | .ok (_, rest) => if asserts && !rest.isEmpty then some .assertion else none

/-- The messages that are used. A failed assertion comes after the message. -/
def used : List (List UInt8) → List AnyValue
  | [] => []
  | frame :: frames =>
      match decodeFrame p frame with
      | .error _ => []
      | .ok (m, rest) => m :: if asserts && !rest.isEmpty then [] else used frames

theorem decodeFrame_eq_ok_iff {frame rest : List UInt8} {m : AnyValue} :
    decodeFrame p frame = .ok (m, rest) ↔
      Itch.messages.decode p frame = .ok ⟨m.1.1, m.2⟩ rest := by
  unfold decodeFrame
  split
  · rename_i fault cur h
    refine iff_of_false nofun fun hok => ?_
    cases h.symm.trans hok
  · rename_i decoded rest' h
    constructor
    · intro hsame
      cases hsame
      exact h
    · intro hok
      cases h.symm.trans hok
      rfl

theorem decodeFrame_eq_error_iff {frame : List UInt8} {fault : Fault} :
    decodeFrame p frame = .error fault ↔
      ∃ cur, Itch.messages.decode p frame = .error fault cur := by
  unfold decodeFrame
  split
  · rename_i fault' cur h
    constructor
    · intro hsame
      cases hsame
      exact ⟨cur, h⟩
    · rintro ⟨cur', herror⟩
      cases h.symm.trans herror
      rfl
  · rename_i decoded rest' h
    refine iff_of_false nofun ?_
    rintro ⟨cur, herror⟩
    cases h.symm.trans herror

/-- The messages are those of the frames in front of the first that stops the run, and of
that frame itself if it is the assertion that fails. -/
theorem length_used (fs : List (List UInt8)) :
    (used p asserts fs).length = (fs.takeWhile fun f => (stops p asserts f).isNone).length +
      if fs.findSome? (stops p asserts) = some .assertion then 1 else 0 := by
  induction fs with
  | nil => rfl
  | cons f fs ih =>
    rw [used, List.takeWhile_cons, List.findSome?_cons]
    cases hframe : decodeFrame p f with
    | error fault => simp [stops, hframe]
    | ok mr =>
      obtain ⟨m, rest⟩ := mr
      by_cases hassert : (asserts && !rest.isEmpty) = true
      · simp [stops, hframe, hassert]
      · simp only [stops, hframe, hassert, Bool.false_eq_true, if_false, Option.isNone_none,
          if_true, List.length_cons, ih]
        omega

theorem getElem?_used {fs : List (List UInt8)} {i : ℕ} {m : AnyValue}
    (h : (used p asserts fs)[i]? = some m) :
    ∃ f rest, fs[i]? = some f ∧ Itch.messages.decode p f = .ok ⟨m.1.1, m.2⟩ rest := by
  induction fs generalizing i with
  | nil => cases h
  | cons f fs ih =>
    rw [used] at h
    cases hframe : decodeFrame p f with
    | error fault =>
      rw [hframe] at h
      cases h
    | ok mr =>
      obtain ⟨m', rest⟩ := mr
      rw [hframe] at h
      cases i with
      | zero =>
        cases h
        exact ⟨f, rest, rfl, (decodeFrame_eq_ok_iff p).mp hframe⟩
      | succ i =>
        dsimp only at h
        rw [List.getElem?_cons_succ] at h
        split at h
        · cases h
        · exact ih h

end Extraction

/-! ### Three views of it -/

/-- The message, if it is of this type. -/
def valueOf (T : Itch.messages.Alternative) (m : AnyValue) : Option T.1.Val :=
  if h : m.1 = T then some (h ▸ m.2) else none

@[simp] theorem valueOf_self (m : AnyValue) : valueOf m.1 m = some m.2 := dif_pos rfl

theorem valueOf_of_ne {T : Itch.messages.Alternative} {m : AnyValue} (h : m.1 ≠ T) :
    valueOf T m = none := dif_neg h

theorem ofNat_add_one (n : ℕ) : BitVec.ofNat 64 n + 1 = BitVec.ofNat 64 (n + 1) :=
  (BitVec.ofNat_add ..).symm

namespace FrameProcessor

/-- What the processor does with a message. -/
def use : (P : FrameProcessor) → BitVec 64 → (T : Itch.messages.Alternative) → T.1.Val →
    P.State → P.State
  | hdf5Writer => fun _ T v w => Hdf5Writer.pushBack w T v
  | parquetWriter => fun seqn T v w => ParquetWriter.pushBack w seqn T v
  | messageDumper => fun _ T v d => MessageDumper.log d T v

/-- The state of the processor behind these messages. -/
def view : (P : FrameProcessor) → List AnyValue → P.State
  | hdf5Writer => fun ms => ⟨fun T => ms.filterMap (valueOf T), BitVec.ofNat 64 ms.length⟩
  | parquetWriter => fun ms =>
      ⟨fun T => (ms.zipIdx 1).filterMap fun m => (valueOf T m.1).map (BitVec.ofNat 64 m.2, ·),
        BitVec.ofNat 64 ms.length⟩
  | messageDumper => fun ms =>
      ⟨(ms.zipIdx 1).map fun m => (BitVec.ofNat 64 m.2, ⟨m.1.1.1, m.1.2⟩),
        BitVec.ofNat 64 ms.length⟩

theorem run_eq (P : FrameProcessor) (p : Platform) (asserts : Bool) :
    P.run p asserts = wholeFrame p asserts P.use := by
  cases P with
  | hdf5Writer => rfl
  | parquetWriter => exact parquetWriter_eq p asserts
  | messageDumper => rfl

/-- A message is added at the end of every view. -/
theorem use_view (P : FrameProcessor) (ms : List AnyValue) (m : AnyValue) :
    P.use (BitVec.ofNat 64 (ms.length + 1)) m.1 m.2 (P.view ms) = P.view (ms ++ [m]) := by
  have hnumber := ofNat_add_one ms.length
  have hcount : BitVec.ofNat 64 ms.length + 1 = BitVec.ofNat 64 (ms ++ [m]).length := by
    rw [hnumber, List.length_append]
    rfl
  have hzip : (ms ++ [m]).zipIdx 1 = ms.zipIdx 1 ++ [(m, ms.length + 1)] := by
    rw [List.zipIdx_append, Nat.add_comm]
    rfl
  cases P with
  | hdf5Writer =>
    refine congrArg₂ Hdf5Writer.mk ?_ hcount
    funext T
    by_cases h : m.1 = T
    · subst h
      simp [view]
    · rw [Function.update_of_ne (Ne.symm h)]
      simp [view, valueOf_of_ne h]
  | parquetWriter =>
    refine congrArg₂ ParquetWriter.mk ?_ hcount
    funext T
    rw [hzip]
    by_cases h : m.1 = T
    · subst h
      simp [view]
    · rw [Function.update_of_ne (Ne.symm h)]
      simp [view, valueOf_of_ne h]
  | messageDumper =>
    refine congrArg₂ MessageDumper.mk ?_ hcount
    change _ ++ [(BitVec.ofNat 64 ms.length + 1, _)] = _
    rw [hnumber, hzip, List.map_append]
    rfl

end FrameProcessor

section Runs
variable (p : Platform) (asserts : Bool)

/-- A call with the frame that follows these messages. -/
theorem call_view (P : FrameProcessor) (ms : List AnyValue) (frame : List UInt8) :
    P.run p asserts (BitVec.ofNat 64 (ms.length + 1)) frame (P.view ms) =
      match decodeFrame p frame with
      | .error fault => .error (.decode fault) (P.view ms)
      | .ok (m, rest) =>
        if asserts && !rest.isEmpty then .error .assertion (P.view (ms ++ [m]))
        else .ok () (P.view (ms ++ [m])) := by
  rw [P.run_eq]
  cases hframe : decodeFrame p frame with
  | error fault =>
    obtain ⟨cur, herror⟩ := (decodeFrame_eq_error_iff p).mp hframe
    exact wholeFrame_of_error herror
  | ok mr =>
    obtain ⟨m, rest⟩ := mr
    have hok := (decodeFrame_eq_ok_iff p).mp hframe
    dsimp only
    rw [← P.use_view]
    unfold wholeFrame
    split
    · rename_i h
      cases h.symm.trans hok
    · rename_i h
      cases h.symm.trans hok
      unfold assertThat
      split <;> rfl

/-- The end of a run: a frame that stops it, or else what the reader does then. -/
def ended {α σ : Type} (stopped : Option Failure) (outcome : Except Failure α) (s : σ) :
    EStateM.Result Failure σ α :=
  match stopped, outcome with
  | some e, _ => .error e s
  | none, .ok a => .ok a s
  | none, .error e => .error e s

/-- The calls for the frames behind these messages. -/
theorem deliver_view (P : FrameProcessor) (ms : List AnyValue) (fs : List (List UInt8)) :
    deliver (P.run p asserts) (numbered (BitVec.ofNat 64 (ms.length + 1)) fs) (P.view ms) =
      ended (fs.findSome? (stops p asserts)) (.ok ()) (P.view (ms ++ used p asserts fs)) := by
  induction fs generalizing ms with
  | nil =>
    rw [used, List.append_nil]
    rfl
  | cons f fs ih =>
    have hcall := call_view p asserts P ms f
    rw [numbered, deliver_cons, used, List.findSome?_cons, stops]
    simp only [bind, EStateM.bind]
    rw [hcall]
    cases decodeFrame p f with
    | error fault =>
      dsimp only
      rw [List.append_nil]
      rfl
    | ok mr =>
      obtain ⟨m, rest⟩ := mr
      by_cases hassert : (asserts && !rest.isEmpty) = true
      · simp only [hassert, if_true]
        rfl
      · simp only [hassert, Bool.false_eq_true, if_false]
        have hrest := ih (ms ++ [m])
        rw [List.length_append, List.append_assoc] at hrest
        rw [ofNat_add_one]
        exact hrest

/-- A reader that hands frames over ends with them or in its own way. -/
theorem read_view (o : ByteOrder) (reading : Reading) (S : List UInt8) (P : FrameProcessor) :
    reading.read p o (P.run p asserts) S (P.view []) =
      ended ((reading.payloads o S).findSome? (stops p asserts)) (reading.outcome o S)
        (P.view (used p asserts (reading.payloads o S))) := by
  have hdeliver := deliver_view p asserts P [] (reading.payloads o S)
  rw [List.nil_append] at hdeliver
  rw [Reading.read_eq, Reading.calls_eq]
  simp only [bind, EStateM.bind]
  rw [show (1 : BitVec 64) = BitVec.ofNat 64 ([].length + 1) from rfl, hdeliver]
  cases (reading.payloads o S).findSome? (stops p asserts) with
  | some e => rfl
  | none => cases reading.outcome o S <;> rfl

end Runs

/-- Whatever the file and the reader, the three processors use the same messages and the run
logs the same: of the frames that the reader hands over, the messages are those of the ones
in front of the first that stops it, and of that one if it is the assertion that fails. -/
theorem run_views (p : Platform) (o : ByteOrder) (asserts : Bool) (reading : Reading)
    (S : List UInt8) : ∃ ms : List AnyValue,
    (∀ P : FrameProcessor, run p o (P.run p asserts) reading S (P.view []) =
      logged (ended ((reading.payloads o S).findSome? (stops p asserts)) (reading.outcome o S)
        (P.view ms))) ∧
    ms.length =
      ((reading.payloads o S).takeWhile fun f => (stops p asserts f).isNone).length +
        (if (reading.payloads o S).findSome? (stops p asserts) = some .assertion
          then 1 else 0) ∧
    ∀ (i : ℕ) (m : AnyValue), ms[i]? = some m → ∃ frame rest,
      (reading.payloads o S)[i]? = some frame ∧
        Itch.messages.decode p frame = .ok ⟨m.1.1, m.2⟩ rest := by
  refine ⟨used p asserts (reading.payloads o S), fun P => ?_, length_used p asserts _,
    fun i m hm => getElem?_used p asserts hm⟩
  rw [run, read_view]

/-! ### The tables and the counter -/

/-- How many messages of this type have been counted. -/
def Statistics.counted (messages : Statistics) (c : ℕ) : ℕ :=
  (messages.lookup c).elim 0 fun st => st.n.toNat

theorem final_ended {α σ : Type} (stopped : Option Failure) (outcome : Except Failure α) (s : σ) :
    final (ended stopped outcome s) = s := by
  cases stopped with
  | some e => rfl
  | none => cases outcome <;> rfl

theorem counted_afterCalls {visit : List UInt8 → Visit} {payloads : List (List UInt8)}
    (hlen : payloads.length < 2 ^ 64) (c : ℕ) :
    Statistics.counted (afterCalls (count visit) (numbered 1 payloads) ∅) c =
      payloads.countP fun f => (visit f).typeId = some c := by
  have hcount := length_positions visit c payloads
  have hle := List.countP_le_length (p := fun f => (visit f).typeId = some c) (l := payloads)
  rw [Statistics.counted, lookup_afterCalls, ← hcount]
  cases hstats : summary (positions visit c payloads) with
  | none =>
    cases hpositions : positions visit c payloads with
    | nil => rfl
    | cons q qs =>
      rw [hpositions] at hstats
      cases hstats
  | some st =>
    rw [Option.elim_some, n_of_summary hstats, BitVec.toNat_ofNat, Nat.mod_eq_of_lt (by omega)]

section Counted
variable (p : Platform)

theorem typeId_asFlyweight_eq (frame : List UInt8) :
    (asFlyweight p frame).typeId =
      (decodeFrame p frame).toOption.map fun mr => mr.1.1.1.typeId := by
  cases hframe : decodeFrame p frame with
  | error fault =>
    obtain ⟨cur, herror⟩ := (decodeFrame_eq_error_iff p).mp hframe
    rw [asFlyweight, herror]
    rfl
  | ok mr =>
    rw [asFlyweight, (decodeFrame_eq_ok_iff p).mp hframe]
    rfl

theorem countP_used (fs : List (List UInt8)) (T : Itch.messages.Alternative) :
    (used p false fs).countP (fun m => m.1 = T) =
      (fs.takeWhile fun f => (stops p false f).isNone).countP
        fun f => (asFlyweight p f).typeId = some T.1.typeId := by
  induction fs with
  | nil => rfl
  | cons f fs ih =>
    have htype := typeId_asFlyweight_eq p f
    rw [used, List.takeWhile_cons, stops]
    cases hframe : decodeFrame p f with
    | error fault => rfl
    | ok mr =>
      obtain ⟨m, rest⟩ := mr
      rw [hframe] at htype
      have hsame : m.1 = T ↔ m.1.1.typeId = T.1.typeId :=
        ⟨fun h => h ▸ rfl, fun h => Subtype.ext
          (List.inj_on_of_nodup_map Itch.messages.distinct m.1.2 T.2 h)⟩
      have hone : (decide (m.1 = T)) =
          decide ((asFlyweight p f).typeId = some T.1.typeId) := by
        rw [htype]
        simp [Except.toOption, hsame]
      simp only [Bool.false_and, Bool.false_eq_true, if_false, Option.isNone_none, if_true,
        List.countP_cons, hone, ih]

end Counted

/-- Without the assertion no table has more rows than the counter counts for its type, and
all have as many exactly when, of the frames that the reader hands over, none with a message
stands behind one without. -/
theorem tables_le_counter (p : Platform) (o : ByteOrder) (reading : Reading) (S : List UInt8)
    (hlen : (reading.payloads o S).length < 2 ^ 64) :
    ∃ (messages : Statistics) (ms : List AnyValue),
      final (run p o (messageCounter (asFlyweight p) false) reading S ∅) = messages ∧
      (∀ P : FrameProcessor,
        final (run p o (P.run p false) reading S (P.view [])) = P.view ms) ∧
      (∀ T : Itch.messages.Alternative,
        ms.countP (fun m => m.1 = T) ≤ messages.counted T.1.typeId) ∧
      ((∀ T : Itch.messages.Alternative,
          ms.countP (fun m => m.1 = T) = messages.counted T.1.typeId) ↔
        ∀ f ∈ (reading.payloads o S).dropWhile fun f => (stops p false f).isNone,
          ∃ fault cur, Itch.messages.decode p f = .error fault cur) := by
  have hcounted (T : Itch.messages.Alternative) :
      Statistics.counted (final (run p o (messageCounter (asFlyweight p) false) reading S ∅))
          T.1.typeId =
        (used p false (reading.payloads o S)).countP (fun m => m.1 = T) +
          ((reading.payloads o S).dropWhile fun f => (stops p false f).isNone).countP
            fun f => (asFlyweight p f).typeId = some T.1.typeId := by
    rw [messageCounter_quiet, final_run_quiet, counted_afterCalls hlen, countP_used,
      ← List.countP_append, List.takeWhile_append_dropWhile]
  refine ⟨_, used p false (reading.payloads o S), rfl, fun P => ?_, fun T => ?_, ?_⟩
  · rw [run, final_logged, read_view, final_ended]
  · rw [hcounted]
    exact Nat.le_add_right _ _
  · simp only [hcounted, Nat.left_eq_add, List.countP_eq_zero, decide_eq_true_eq]
    constructor
    · intro hnone f hf
      cases hframe : decodeFrame p f with
      | error fault =>
        obtain ⟨cur, herror⟩ := (decodeFrame_eq_error_iff p).mp hframe
        exact ⟨fault, cur, herror⟩
      | ok mr =>
        have htype := typeId_asFlyweight_eq p f
        rw [hframe] at htype
        exact absurd htype (hnone mr.1.1 f hf)
    · intro hall T f hf htype
      obtain ⟨fault, cur, herror⟩ := hall f hf
      rw [asFlyweight, herror] at htype
      cases htype

/-- The second of two system events is counted, but an empty frame in between stops the
other processors. -/
theorem tables_le_counter_systemEvents :
    ∃ (messages : Statistics) (ms : List AnyValue),
      final (run default .big (messageCounter (asFlyweight default) false) .raw
        (systemEvents.flatMap (lengthFrame .big 2)) ∅) = messages ∧
      (∀ P : FrameProcessor, final (run default .big (P.run default false) .raw
        (systemEvents.flatMap (lengthFrame .big 2)) (P.view [])) = P.view ms) ∧
      ¬ ∀ T : Itch.messages.Alternative,
        ms.countP (fun m => m.1 = T) = messages.counted T.1.typeId := by
  have hnone : cutLengthFrame .big 2 [] = none := by decide
  have hsmall : ∀ q ∈ systemEvents, q.length < 256 ^ 2 := by decide
  have hpayloads : Reading.raw.payloads .big (systemEvents.flatMap (lengthFrame .big 2)) =
      systemEvents := by
    have hframes := (frames_flatMap .big (by decide) hsmall hnone).1
    rw [List.append_nil] at hframes
    exact (Reading.payloads_of_ok (show Reading.raw.outcome _ _ = .ok _ from rfl)).trans hframes
  obtain ⟨messages, ms, hmessages, hviews, -, hiff⟩ := tables_le_counter default .big .raw
    (systemEvents.flatMap (lengthFrame .big 2)) (by rw [hpayloads]; decide)
  refine ⟨messages, ms, hmessages, hviews, fun hsame => ?_⟩
  rw [hpayloads] at hiff
  obtain ⟨fault, cur, herror⟩ := hiff.mp hsame (83 :: List.replicate 11 0) (by decide +kernel)
  cases herror

end MdPrsr.Tools
