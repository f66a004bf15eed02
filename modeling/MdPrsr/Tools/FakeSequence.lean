import MdPrsr.Sbe
import MdPrsr.Wire.Framing

/-!
# Numbering the frames of a file

A file holds messages behind their sizes: `packet_block`s without the packets
around them. `fake_sequence` hands each complete frame of a buffer to a processor,
numbers them on from where it was, and returns how many bytes it left over.

A processor has a state and may throw; an exception leaves the state as it was
at that moment, so calls run in `EStateM`.
-/
namespace MdPrsr.Tools
open Wire

/-- `moldudp64::packet_block`. -/
def packetBlock : Struct where
  members := [("message_size", uint16)]
  table := ["message_size"]

def messageSize (block : Record packetBlock.layout) : ℕ :=
  BitVec.toNat (w := 16) (Record.head block)

/-- The exceptions of the tools, a store outside a mapping and a failed assertion.
`lengthError` is thrown for a buffer that is too large. -/
inductive Failure where
  | decode (fault : Fault)
  | lengthError
  | decodedSize
  | overrun
  | assertion
  deriving DecidableEq, Repr

/-- What is called with the number of a frame and the bytes of its message. -/
abbrev Processor (σ : Type) := BitVec 64 → List UInt8 → EStateM Failure σ Unit

/-- `assert`, which a build with `NDEBUG` leaves out. -/
def assertThat {σ : Type} (asserts condition : Bool) : EStateM Failure σ Unit :=
  if asserts && !condition then throw .assertion else pure ()

section Sequence
variable (p : Platform) (o : ByteOrder) {σ : Type} (proc : Processor σ)

/-- `fake_sequence::operator()`: the next sequence number and the bytes left over. -/
def fakeSequence (seqn : BitVec 64) (bs : List UInt8) :
    EStateM Failure σ (BitVec 64 × Fin (bs.length + 1)) :=
  if _h : packetBlock.layout.size ≤ bs.length then
    let block := (leafCodec p o).readRecord packetBlock.layout bs
    let message := bs.drop packetBlock.layout.size
    if message.length < messageSize block then
      pure (seqn, Fin.last bs.length)
    else do
      proc seqn (message.take (messageSize block))
      let next ← fakeSequence (seqn + 1) (message.drop (messageSize block))
      pure (next.1, next.2.castLE (by simp [message]))
  else pure (seqn, Fin.last bs.length)
termination_by bs.length
decreasing_by
  have hpos : 0 < packetBlock.layout.size := by decide
  simp only [List.length_drop]
  omega

/-! ### The calls of the processor -/

/-- Consecutive numbers, modulo `2 ^ 64` as the counter is. -/
def numbered (seqn : BitVec 64) : List (List UInt8) → List (BitVec 64 × List UInt8)
  | [] => []
  | f :: fs => (seqn, f) :: numbered (seqn + 1) fs

theorem add_one_add_ofNat (seqn : BitVec 64) (n : ℕ) :
    seqn + 1 + BitVec.ofNat 64 n = seqn + BitVec.ofNat 64 (n + 1) := by
  rw [BitVec.ofNat_add, BitVec.add_assoc]
  exact congrArg (seqn + ·) (BitVec.add_comm _ _)

theorem getElem?_numbered (seqn : BitVec 64) (fs : List (List UInt8)) (i : ℕ) :
    (numbered seqn fs)[i]? = fs[i]?.map fun f => (seqn + BitVec.ofNat 64 i, f) := by
  induction fs generalizing seqn i with
  | nil => rfl
  | cons f fs ih =>
    cases i with
    | zero => simp [numbered]
    | succ i =>
      have hstep := ih (seqn + 1) i
      simp only [add_one_add_ofNat] at hstep
      rw [numbered, List.getElem?_cons_succ, List.getElem?_cons_succ, hstep]

/-- The calls one after the other, up to the first that throws. -/
def deliver (calls : List (BitVec 64 × List UInt8)) : EStateM Failure σ Unit :=
  calls.forM fun call => proc call.1 call.2

theorem numbered_append (seqn : BitVec 64) (fs gs : List (List UInt8)) :
    numbered seqn (fs ++ gs) =
      numbered seqn fs ++ numbered (seqn + BitVec.ofNat 64 fs.length) gs := by
  induction fs generalizing seqn with
  | nil => simp [numbered]
  | cons f fs ih =>
    rw [List.cons_append, numbered, numbered, ih, List.cons_append, add_one_add_ofNat,
      List.length_cons]

theorem numbered_take (seqn : BitVec 64) (fs : List (List UInt8)) (k : ℕ) :
    (numbered seqn fs).take k = numbered seqn (fs.take k) := by
  induction fs generalizing seqn k with
  | nil => simp [numbered]
  | cons f fs ih =>
    cases k with
    | zero => rfl
    | succ k => simp only [numbered, List.take_succ_cons, ih]

@[simp] theorem deliver_nil : deliver proc [] = pure () := rfl

@[simp] theorem deliver_cons (call : BitVec 64 × List UInt8)
    (calls : List (BitVec 64 × List UInt8)) :
    deliver proc (call :: calls) = (do proc call.1 call.2; deliver proc calls) := rfl

theorem deliver_append (calls calls' : List (BitVec 64 × List UInt8)) :
    deliver proc (calls ++ calls') = (do deliver proc calls; deliver proc calls') :=
  List.forM_append

/-- The frames of a file. -/
def frames : Cutter UInt8 (List UInt8) := lengthPrefixed o 2 (by decide)

@[simp] theorem size_packetBlock : packetBlock.layout.size = 2 := rfl

theorem messageSize_readRecord {bs : List UInt8} (h : 2 ≤ bs.length) :
    messageSize ((leafCodec p o).readRecord packetBlock.layout bs) = announced o 2 bs := by
  have hlen : (bs.take 2).length = 2 := by simp [h]
  exact toNat_readBits o hlen

theorem fakeSequence_of_none {bs : List UInt8} (seqn : BitVec 64)
    (h : (frames o).cut bs = none) :
    fakeSequence p o proc seqn bs = pure (seqn, Fin.last bs.length) := by
  change cutLengthFrame o 2 bs = none at h
  unfold cutLengthFrame at h
  rw [fakeSequence]
  split
  · rename_i hsize
    rw [size_packetBlock] at hsize
    have hshort : (bs.drop packetBlock.layout.size).length <
        messageSize ((leafCodec p o).readRecord packetBlock.layout bs) := by
      rw [messageSize_readRecord p o hsize, List.length_drop, size_packetBlock]
      by_contra hle
      rw [if_pos (by omega)] at h
      cases h
    exact if_pos hshort
  · rfl

theorem fakeSequence_of_some {bs f r : List UInt8} (seqn : BitVec 64)
    (h : (frames o).cut bs = some (f, r)) :
    fakeSequence p o proc seqn bs = (do
      proc seqn f
      let next ← fakeSequence p o proc (seqn + 1) r
      pure (next.1, next.2.castLE (Nat.succ_le_succ ((frames o).shrinks h).le))) := by
  obtain ⟨hle, hf, hr⟩ : 2 + announced o 2 bs ≤ bs.length ∧
      f = (bs.drop 2).take (announced o 2 bs) ∧ r = (bs.drop 2).drop (announced o 2 bs) := by
    have hcut := h
    change cutLengthFrame o 2 bs = some (f, r) at hcut
    rw [cutLengthFrame] at hcut
    split at hcut
    · rename_i hle
      cases hcut
      exact ⟨hle, rfl, List.drop_drop.symm⟩
    · cases hcut
  have hblock := messageSize_readRecord p o (show 2 ≤ bs.length by omega)
  rw [← hblock] at hf hr
  subst hf hr
  rw [fakeSequence, dif_pos (by rw [size_packetBlock]; omega)]
  refine if_neg ?_
  rw [hblock, List.length_drop, size_packetBlock]
  omega

/-- One call delivers the frames of the buffer and leaves their rest over. -/
theorem fakeSequence_eq (seqn : BitVec 64) (bs : List UInt8) :
    fakeSequence p o proc seqn bs = (do
      deliver proc (numbered seqn ((frames o).frames bs))
      pure (seqn + BitVec.ofNat 64 ((frames o).frames bs).length,
        ⟨((frames o).rest bs).length, Nat.lt_succ_of_le (Cutter.rest_suffix bs).length_le⟩)) := by
  induction bs using Cutter.cutInduction (C := frames o) generalizing seqn with
  | none bs h =>
    rw [fakeSequence_of_none p o proc seqn h]
    simp [Cutter.frames_of_none h, Cutter.rest_of_none h, numbered, Fin.last]
  | some bs f r h ih =>
    rw [fakeSequence_of_some p o proc seqn h, ih]
    simp only [Cutter.frames_of_some h, Cutter.rest_of_some h, List.length_cons,
      ← add_one_add_ofNat, numbered, deliver_cons, bind_assoc, pure_bind, Fin.castLE_mk]

/-- One call hands over the payloads of the frames at the front of the buffer, in order
and numbered on from `seqn`, and leaves over what is not long enough to be a frame. A
buffer of frames is handed over completely. -/
theorem fakeSequence_decomposes (p : Platform) (o : ByteOrder) (seqn : BitVec 64) :
    (∀ bs : List UInt8, ∃ (ps : List (List UInt8)) (t : List UInt8) (k : Fin (bs.length + 1)),
      bs = ps.flatMap (lengthFrame o 2) ++ t ∧ k.val = t.length ∧
      (t.length < 2 ∨ t.length < 2 + announced o 2 t) ∧
      (∀ q ∈ ps, q.length ≤ 65535 ∧ q <:+: bs) ∧
      (∀ i, (numbered seqn ps)[i]? = ps[i]?.map fun q => (seqn + BitVec.ofNat 64 i, q)) ∧
      ∀ {σ : Type} (proc : Processor σ), fakeSequence p o proc seqn bs = (do
        deliver proc (numbered seqn ps)
        pure (seqn + BitVec.ofNat 64 ps.length, k))) ∧
    ∀ ps : List (List UInt8), (∀ q ∈ ps, q.length ≤ 65535) →
      ∀ {σ : Type} (proc : Processor σ),
        fakeSequence p o proc seqn (ps.flatMap (lengthFrame o 2)) = (do
          deliver proc (numbered seqn ps)
          pure (seqn + BitVec.ofNat 64 ps.length, 0)) := by
  constructor
  · intro bs
    obtain ⟨hbs, hlt⟩ := (reaches_iff o (by decide)).mp (Cutter.reaches_rest (C := frames o) bs)
    have hcut : cutLengthFrame o 2 ((frames o).rest bs) = none :=
      Cutter.cut_rest (C := frames o) bs
    refine ⟨_, _, _, hbs, rfl, .inr ((cutLengthFrame_eq_none_iff o).mp hcut), ?_,
      getElem?_numbered seqn _, fun proc => fakeSequence_eq p o proc seqn bs⟩
    intro q hq
    refine ⟨Nat.le_of_lt_succ (hlt q hq), ?_⟩
    obtain ⟨before, behind, hsplit⟩ := List.append_of_mem hq
    rw [hbs, hsplit]
    exact ⟨before.flatMap (lengthFrame o 2) ++ o.bytes 2 q.length,
      behind.flatMap (lengthFrame o 2) ++ (frames o).rest bs, by simp [lengthFrame]⟩
  · intro ps hps σ proc
    have hall : ∀ q ∈ ps, q.length < 256 ^ 2 := fun q hq => Nat.lt_succ_of_le (hps q hq)
    obtain ⟨hframes, hrest⟩ := frames_flatMap o (t := []) (by decide) hall
      ((cutLengthFrame_eq_none_iff o).mpr (by simp))
    rw [List.append_nil] at hframes hrest
    have hzero : ∀ h, (⟨((frames o).rest (ps.flatMap (lengthFrame o 2))).length, h⟩ :
        Fin ((ps.flatMap (lengthFrame o 2)).length + 1)) = 0 := fun _ =>
      Fin.ext (congrArg List.length hrest)
    have hps : (frames o).frames (ps.flatMap (lengthFrame o 2)) = ps := hframes
    rw [fakeSequence_eq, hzero, hps]

/-- Two payloads, the second of them empty, and a processor that collects its calls. -/
theorem fakeSequence_decomposes_two :
    fakeSequence default .big (fun number message => modify (· ++ [(number, message)]))
        5 ([[1, 2], []].flatMap (lengthFrame .big 2)) [] =
      .ok (7, 0) [(5, [1, 2]), (6, [])] := by
  have h := (fakeSequence_decomposes default .big 5).2 [[1, 2], []] (by decide)
    (fun number message => modify (· ++ [(number, message)]))
  exact (congrFun h []).trans rfl

end Sequence

/-! ### The state a run leaves -/

/-- The state at the end of a run, an exception included. -/
def final {σ α : Type} : EStateM.Result Failure σ α → σ
  | .ok _ s | .error _ s => s

/-- The state after calls that change it by `step`. -/
def afterCalls {σ : Type} (step : BitVec 64 → List UInt8 → σ → σ)
    (calls : List (BitVec 64 × List UInt8)) (s : σ) : σ :=
  calls.foldl (fun s call => step call.1 call.2 s) s

theorem afterCalls_append {σ : Type} (step : BitVec 64 → List UInt8 → σ → σ)
    (calls calls' : List (BitVec 64 × List UInt8)) (s : σ) :
    afterCalls step (calls ++ calls') s = afterCalls step calls' (afterCalls step calls s) :=
  List.foldl_append

/-- A processor whose calls do not throw. -/
def quiet {σ : Type} (step : BitVec 64 → List UInt8 → σ → σ) : Processor σ :=
  fun seqn message s => .ok () (step seqn message s)

/-- A processor that records its calls. -/
def journal : Processor (List (BitVec 64 × List UInt8)) :=
  quiet fun seqn message made => made ++ [(seqn, message)]

theorem deliver_quiet {σ : Type} (step : BitVec 64 → List UInt8 → σ → σ)
    (calls : List (BitVec 64 × List UInt8)) (s : σ) :
    deliver (quiet step) calls s = .ok () (afterCalls step calls s) := by
  induction calls generalizing s with
  | nil => rfl
  | cons call calls ih => exact ih (step call.1 call.2 s)

/-- A processor that changes the state by `step`, whether it throws or not. -/
def Steps {σ : Type} (proc : Processor σ) (step : BitVec 64 → List UInt8 → σ → σ) : Prop :=
  ∀ seqn message s, proc seqn message s = .ok () (step seqn message s) ∨
    ∃ e, proc seqn message s = .error e (step seqn message s)

/-- A run makes all calls, or those up to the first that throws. -/
theorem Steps.deliver {σ : Type} {proc : Processor σ} {step : BitVec 64 → List UInt8 → σ → σ}
    (h : Steps proc step) (calls : List (BitVec 64 × List UInt8)) (s : σ) :
    deliver proc calls s = .ok () (afterCalls step calls s) ∨
      ∃ e k, deliver proc calls s = .error e (afterCalls step (calls.take k) s) := by
  induction calls generalizing s with
  | nil => exact .inl rfl
  | cons call calls ih =>
    rw [deliver_cons]
    simp only [bind, EStateM.bind]
    rcases h call.1 call.2 s with hcall | ⟨e, hcall⟩
    · rw [hcall]
      rcases ih (step call.1 call.2 s) with hrest | ⟨e, k, hrest⟩
      · exact .inl hrest
      · exact .inr ⟨e, k + 1, hrest⟩
    · rw [hcall]
      exact .inr ⟨e, 1, rfl⟩

/-- The framing does not touch the state of the processor. -/
theorem final_fakeSequence (p : Platform) (o : ByteOrder) {σ : Type} (proc : Processor σ)
    (seqn : BitVec 64) (bs : List UInt8) (s : σ) :
    final (fakeSequence p o proc seqn bs s) =
      final (deliver proc (numbered seqn ((frames o).frames bs)) s) := by
  rw [fakeSequence_eq]
  simp only [bind, EStateM.bind]
  cases MdPrsr.Tools.deliver proc (numbered seqn ((frames o).frames bs)) s <;> rfl

/-- A call of the framing throws what a call of the processor throws. -/
theorem fakeSequence_error_iff (p : Platform) (o : ByteOrder) {σ : Type} (proc : Processor σ)
    (seqn : BitVec 64) (bs : List UInt8) (s : σ) {e : Failure} {s' : σ} :
    fakeSequence p o proc seqn bs s = .error e s' ↔
      deliver proc (numbered seqn ((frames o).frames bs)) s = .error e s' := by
  rw [fakeSequence_eq]
  simp only [bind, EStateM.bind]
  cases MdPrsr.Tools.deliver proc (numbered seqn ((frames o).frames bs)) s with
  | ok _ s₁ => exact iff_of_false nofun nofun
  | error e₁ s₁ => simp

end MdPrsr.Tools
