import MdPrsr.Tools.Views

/-!
# The program

`run` looks at the first two bytes of a file to tell a compressed one from a raw one, and
chooses a reader by the options and a processor by its name. What the processor keeps of a
file of messages is the same in all cases: it does not matter whether the file is
compressed, how large the buffer is, as long as it can be constructed, and what the
decompressor returns at a time.
-/
namespace MdPrsr.Tools
open Wire

/-- `input_type`. -/
inductive InputType where
  | gzip
  | raw
  deriving DecidableEq

/-- `check_type`. The magic number is an integer of the host, and zero where nothing was read. -/
def checkType (host : ByteOrder) (file : List UInt8) : InputType :=
  if host.value ((file ++ [0, 0]).take 2) = 0x8b1f then .gzip else .raw

/-- The options that `run` uses, with the defaults of `common_options`. -/
structure Options where
  bufferSize : BitVec 64 := 1500
  unpackFirst : Bool := false
  run : String := "count"

/-- The processors that have a name. -/
inductive Tool where
  | count
  | frames (P : FrameProcessor)

namespace Tool

/-- The symbols of `run`. None of them is the beginning of another. -/
def symbols : List (String × Tool) :=
  [("count", .count), ("dump", .frames .messageDumper), ("hdf5", .frames .hdf5Writer),
    ("parquet", .frames .parquetWriter)]

def parse (name : String) : Option Tool := symbols.lookup name

def State : Tool → Type
  | count => Statistics
  | frames P => P.State

/-- The processor as it is constructed. -/
def fresh : (tool : Tool) → tool.State
  | count => (∅ : Statistics)
  | frames P => P.view []

def processor (p : Platform) (asserts : Bool) : (tool : Tool) → Processor tool.State
  | count => messageCounter (asFlyweight p) asserts
  | frames P => P.run p asserts

end Tool

theorem length_pos_of_gzip {host : ByteOrder} {file : List UInt8}
    (h : checkType host file = .gzip) : 0 < file.length := by
  rw [List.length_pos_iff]
  rintro rfl
  cases host <;> cases h

section Program
variable (p : Platform) (o : ByteOrder) (asserts : Bool) (reads : ReadSizes)
  (gunzip : List UInt8 → List UInt8)

/-- The reader for the file: a compressed one is unpacked to three times its size, or into
a buffer of at least 1500 bytes. -/
def chooseReading (options : Options) (file : List UInt8) : Reading :=
  if h : checkType p.host file = .gzip then
    if options.unpackFirst then
      .unpackFirst reads (Nat.mul_pos (length_pos_of_gzip h) (show 0 < 3 by decide))
    else .direct reads (Nat.zero_lt_of_lt (le_bufferSize options.bufferSize))
  else .raw

/-- What the reader reads. -/
def content (file : List UInt8) : List UInt8 :=
  if checkType p.host file = .gzip then gunzip file else file

/-- `run` for one of the processors. -/
def Tool.runFile (tool : Tool) (options : Options) (file : List UInt8) :
    EStateM.Result Failure tool.State RunLog :=
  Tools.run p o (tool.processor p asserts) (chooseReading p reads options file)
    (content p gunzip file) tool.fresh

/-- `run` for the options; an unknown name is an error of the program options. -/
def runOptions (options : Options) (file : List UInt8) :
    Except String (Σ tool : Tool, EStateM.Result Failure tool.State RunLog) :=
  match Tool.parse options.run with
  | none => .error ("unknown processor : " ++ options.run)
  | some tool => .ok ⟨tool, tool.runFile p o asserts reads gunzip options file⟩

/-! ### Telling the files apart -/

theorem value_size_ne (host o : ByteOrder) : ∀ n < 51, host.value (o.bytes 2 n) ≠ 0x8b1f := by
  cases host <;> cases o <;> decide +kernel

/-- No file of messages starts like a compressed one, on either kind of host: a message
is not as long as that. -/
theorem checkType_stream (host : ByteOrder) (ms : List Itch.AnyMessage) :
    checkType host (stream p o ms) = .raw := by
  cases ms with
  | nil => cases host <;> rfl
  | cons m ms =>
    have hlen := m.length_encoded_le p
    have htake : (stream p o (m :: ms) ++ [0, 0]).take 2 = o.bytes 2 (m.encoded p).length := by
      rw [stream_eq, List.map_cons, List.flatMap_cons, lengthFrame, List.append_assoc,
        List.append_assoc]
      exact List.take_left' (o.length_bytes 2 _)
    rw [checkType, htake, if_neg (value_size_ne host o _ (by omega))]

/-- The file has this content. A mapping that it is unpacked to gets all of it, and a buffer
that it is read into can be constructed. -/
structure Holds (options : Options) (file S : List UInt8) : Prop where
  ne_nil : file ≠ []
  content_eq : content p gunzip file = S
  unpacked : checkType p.host file = .gzip → options.unpackFirst = true →
    received reads (file.length * 3) S.length = S.length ∧
      S.length ≤ file.length * 3 + file.length * 3 / 4
  constructed : checkType p.host file = .gzip → options.unpackFirst = false →
    bufferSize options.bufferSize ≤ maxSize

theorem holds_stream (options : Options) {ms : List Itch.AnyMessage} (hms : ms ≠ []) :
    Holds p reads gunzip options (stream p o ms) (stream p o ms) := by
  have hraw := checkType_stream p o p.host ms
  refine ⟨?_, ?_, fun hgzip => ?_, fun hgzip => ?_⟩
  · obtain ⟨m, ms, rfl⟩ := List.exists_cons_of_ne_nil hms
    intro hnil
    have hlen := congrArg List.length hnil
    rw [stream_eq, List.map_cons, List.flatMap_cons, lengthFrame, List.length_append,
      List.length_append, o.length_bytes, List.length_nil] at hlen
    omega
  · rw [content, hraw, if_neg (by decide)]
  · rw [hraw] at hgzip
    cases hgzip
  · rw [hraw] at hgzip
    cases hgzip

/-! ### What the processors keep -/

theorem covered_stream (ms : List Itch.AnyMessage) :
    (frames o).frames (stream p o ms) = ms.map (Itch.AnyMessage.encoded p) ∧
      Covered o (stream p o ms) := by
  have hsmall : ∀ q ∈ ms.map (Itch.AnyMessage.encoded p), q.length < 256 ^ 2 := by
    intro q hq
    obtain ⟨m, -, rfl⟩ := List.mem_map.mp hq
    have := m.length_encoded_le p
    omega
  have hnone : cutLengthFrame o 2 [] = none := (cutLengthFrame_eq_none_iff o).mpr (by simp)
  obtain ⟨hframes, hrest⟩ := frames_flatMap o (by decide) hsmall hnone
  rw [List.append_nil, ← stream_eq] at hframes hrest
  exact ⟨hframes, covered_iff.mpr hrest⟩

/-- Every reader hands over all messages and ends without a word. -/
theorem payloads_stream {options : Options} {file : List UInt8} {ms : List Itch.AnyMessage}
    (h : Holds p reads gunzip options file (stream p o ms)) :
    (chooseReading p reads options file).payloads o (stream p o ms) =
        ms.map (Itch.AnyMessage.encoded p) ∧
      (chooseReading p reads options file).outcome o (stream p o ms) = .ok [] := by
  obtain ⟨hframes, hcovered⟩ := covered_stream p o ms
  have hwarnings := warnings_eq_nil_iff.mpr hcovered
  unfold chooseReading
  split
  · rename_i hgzip
    split
    · rename_i hfirst
      obtain ⟨hall, hfits⟩ := h.unpacked hgzip hfirst
      have houtcome : (Reading.unpackFirst reads (Nat.mul_pos (length_pos_of_gzip hgzip)
          (show 0 < 3 by decide))).outcome o (stream p o ms) = .ok [] := by
        unfold Reading.outcome
        dsimp only
        rw [hall, if_pos hfits, List.take_length, hwarnings]
      refine ⟨?_, houtcome⟩
      rw [Reading.payloads_of_ok houtcome]
      unfold Reading.handed
      dsimp only
      rw [hall, List.take_length, hframes]
    · rename_i hfirst
      have hmax := h.constructed hgzip (Bool.eq_false_of_not_eq_true hfirst)
      have hbounded := bounded_stream p o (le_bufferSize options.bufferSize) ms
      have houtcome : (Reading.direct reads (Nat.zero_lt_of_lt
          (le_bufferSize options.bufferSize))).outcome o (stream p o ms) = .ok [] := by
        refine (directOutcome_of_le hmax _).trans ?_
        rw [hbounded]
        rfl
      refine ⟨?_, houtcome⟩
      rw [Reading.payloads_of_ok houtcome, handed_direct_of_le _ _ hmax, hbounded]
  · have houtcome : Reading.raw.outcome o (stream p o ms) = .ok [] :=
      congrArg Except.ok hwarnings
    exact ⟨(Reading.payloads_of_ok houtcome).trans hframes, houtcome⟩

theorem decodeFrame_encoded (m : Itch.AnyMessage) :
    decodeFrame p (m.encoded p) = .ok (anyValue m, []) := by
  have hdecode := m.decode_encoded p []
  rw [List.append_nil] at hdecode
  exact (decodeFrame_eq_ok_iff p).mpr hdecode

/-- Every message is used and none of them stops the run. -/
theorem used_encoded (ms : List Itch.AnyMessage) :
    used p asserts (ms.map (Itch.AnyMessage.encoded p)) = ms.map anyValue ∧
      (ms.map (Itch.AnyMessage.encoded p)).findSome? (stops p asserts) = none := by
  induction ms with
  | nil => exact ⟨rfl, rfl⟩
  | cons m ms ih =>
    obtain ⟨hused, hstops⟩ := ih
    rw [List.map_cons, List.map_cons, used, List.findSome?_cons, stops, decodeFrame_encoded]
    simp only [List.isEmpty_nil, Bool.not_true, Bool.and_false, Bool.false_eq_true, if_false]
    rw [hused, hstops]
    exact ⟨rfl, rfl⟩

/-- A counter whose frames end with their messages does not throw. -/
theorem deliver_messageCounter (visit : List UInt8 → Visit) {fs : List (List UInt8)}
    (h : ∀ f ∈ fs, (visit f).rest = []) (seqn : BitVec 64) (s : Statistics) :
    deliver (messageCounter visit asserts) (numbered seqn fs) s =
      .ok () (afterCalls (count visit) (numbered seqn fs) s) := by
  induction fs generalizing seqn s with
  | nil => rfl
  | cons f fs ih =>
    obtain ⟨hf, hfs⟩ := List.forall_mem_cons.mp h
    have hcall : messageCounter visit asserts seqn f s = .ok () (count visit seqn f s) := by
      unfold messageCounter assertThat
      rw [hf]
      simp only [List.isEmpty_nil, Bool.not_true, Bool.and_false, Bool.false_eq_true, if_false]
      rfl
    rw [numbered, deliver_cons]
    simp only [bind, EStateM.bind, hcall]
    exact ih hfs (seqn + 1) _

/-- The state of a processor shows these messages: the statistics are exact, and the tables
or lines are the view of them. -/
def Tool.Shows (ms : List Itch.AnyMessage) : (tool : Tool) → tool.State → Prop
  | count => Exact (asFlyweight p) (ms.map (Itch.AnyMessage.encoded p))
  | frames P => fun s => s = P.view (ms.map anyValue)

theorem runFile_exact (options : Options) {ms : List Itch.AnyMessage} (hlen : ms.length < 2 ^ 64)
    {file : List UInt8} (h : Holds p reads gunzip options file (stream p o ms)) (tool : Tool) :
    ∃ s, tool.runFile p o asserts reads gunzip options file = .ok ⟨[], none⟩ s ∧
      tool.Shows p ms s := by
  obtain ⟨hpayloads, houtcome⟩ := payloads_stream p o reads gunzip h
  cases tool with
  | count =>
    have hwhole : ∀ f ∈ ms.map (Itch.AnyMessage.encoded p), (asFlyweight p f).rest = [] := by
      intro f hf
      obtain ⟨m, -, rfl⟩ := List.mem_map.mp hf
      rw [asFlyweight, (decodeFrame_eq_ok_iff p).mp (decodeFrame_encoded p m)]
    refine ⟨_, ?_, exact_afterCalls (typeId_asFlyweight p) (by rwa [List.length_map])⟩
    change Tools.run p o (messageCounter (asFlyweight p) asserts) _ _ ∅ = _
    rw [run, h.content_eq, Reading.read_eq, Reading.calls_eq, hpayloads, houtcome]
    simp only [bind, EStateM.bind, deliver_messageCounter asserts _ hwhole]
    rfl
  | frames P =>
    obtain ⟨hused, hstops⟩ := used_encoded p asserts ms
    refine ⟨_, ?_, rfl⟩
    change Tools.run p o (P.run p asserts) _ _ (P.view []) = _
    rw [run, h.content_eq, read_view, hpayloads, houtcome, hused, hstops]
    rfl

/-- Without a buffer the run logs the exception, and the processor is left as it was. -/
theorem runFile_of_large (options : Options) {file : List UInt8}
    (hgzip : checkType p.host file = .gzip) (hdirect : options.unpackFirst = false)
    (hlarge : maxSize < bufferSize options.bufferSize) (tool : Tool) :
    tool.runFile p o asserts reads gunzip options file =
      .ok ⟨[], some .lengthError⟩ tool.fresh := by
  have hchoice : chooseReading p reads options file =
      .direct reads (Nat.zero_lt_of_lt (le_bufferSize options.bufferSize)) := by
    rw [chooseReading, dif_pos hgzip, hdirect]
    rfl
  rw [Tool.runFile, hchoice, run, read_direct, handed_direct_of_lt _ _ hlarge,
    directOutcome_of_lt hlarge]
  rfl

/-- A compressed file is seen as one on a host with the low byte first only; a file of
messages never is. For all options and every file that holds these messages, compressed or
not, a processor that has a name ends without a warning about bytes that are left over and
without an error, and shows these messages. A buffer that is too large for a compressed
file is an error, and the processor shows nothing. -/
theorem runOptions_exact (options : Options) {ms : List Itch.AnyMessage}
    (hlen : ms.length < 2 ^ 64) :
    (∀ bytes, checkType p.host (0x1f :: 0x8b :: bytes) = .gzip ↔ p.host = .little) ∧
    (ms ≠ [] → Holds p reads gunzip options (stream p o ms) (stream p o ms)) ∧
    (∀ file, Holds p reads gunzip options file (stream p o ms) →
      ∀ tool, Tool.parse options.run = some tool →
        ∃ s, runOptions p o asserts reads gunzip options file =
            .ok ⟨tool, .ok ⟨[], none⟩ s⟩ ∧ tool.Shows p ms s) ∧
    ∀ file, checkType p.host file = .gzip → options.unpackFirst = false →
      maxSize < bufferSize options.bufferSize →
      ∀ tool, Tool.parse options.run = some tool →
        runOptions p o asserts reads gunzip options file =
          .ok ⟨tool, .ok ⟨[], some .lengthError⟩ tool.fresh⟩ := by
  refine ⟨fun bytes => ?_, holds_stream p o reads gunzip options, fun file h tool htool => ?_,
    fun file hgzip hdirect hlarge tool htool => ?_⟩
  · rw [checkType, List.cons_append, List.cons_append, List.take_succ_cons, List.take_succ_cons,
      List.take_zero]
    cases p.host <;> decide
  · obtain ⟨s, hrun, hshows⟩ := runFile_exact p o asserts reads gunzip options hlen h tool
    refine ⟨s, ?_, hshows⟩
    rw [runOptions, htool]
    dsimp only
    rw [hrun]
  · rw [runOptions, htool]
    dsimp only
    rw [runFile_of_large p o asserts reads gunzip options hgzip hdirect hlarge]

end Program

/-- One message in a compressed file, for the processor of the tables. -/
theorem runOptions_exact_startOfMarket :
    ∃ s, runOptions default .big true (.atMost 1 (by decide))
        (fun _ => stream default .big [startOfMarket]) { run := "parquet" } [0x1f, 0x8b, 8] =
      .ok ⟨.frames .parquetWriter, .ok ⟨[], none⟩ s⟩ ∧
        s = FrameProcessor.view .parquetWriter [anyValue startOfMarket] := by
  have h := runOptions_exact default .big true (.atMost 1 (by decide))
    (fun _ => stream default .big [startOfMarket]) { run := "parquet" }
    (show [startOfMarket].length < 2 ^ 64 by decide)
  exact h.2.2.1 [0x1f, 0x8b, 8] ⟨by decide, rfl, nofun, fun _ _ => by decide⟩
    (.frames .parquetWriter) rfl

end MdPrsr.Tools
