import MdPrsr.Itch.Messages
import MdPrsr.Tools.FakeSequence
import Mathlib.Data.BitVec
import Mathlib.Data.List.AList
import Mathlib.Algebra.BigOperators.Group.List.Lemmas

/-!
# Counting messages by type

`message_counter` keeps for every message type how many frames it has seen of it,
and the numbers of the first and the last of them. Decoding is left to the coder
library, which calls a visitor with a message or with an error.

The statistics of a type are a function of the positions at which its frames stand,
and every call of the counter extends these positions. `done` sums the statistics up
in whatever order the map has its entries.
-/
namespace MdPrsr.Tools
open Wire

/-- What the visitor of a frame receives, the type id of a message or an error, and
where the decoder stopped. -/
structure Visit where
  typeId : Option ℕ
  rest : List UInt8

/-- The 23 type ids. -/
def typeIds : List ℕ := Itch.messages.alternatives.map Message.typeId

/-- `message_counter::stats`. -/
structure Stats where
  n : BitVec 64
  first : BitVec 64
  last : BitVec 64
  deriving DecidableEq

/-- `message_counter::messages_`. -/
abbrev Statistics := AList fun _ : ℕ => Stats

def Statistics.record (messages : Statistics) (seqn : BitVec 64) (typeId : ℕ) : Statistics :=
  match messages.lookup typeId with
  | some st => messages.insert typeId { st with n := st.n + 1, last := seqn }
  | none => messages.insert typeId ⟨1, seqn, seqn⟩

section Counter
variable (visit : List UInt8 → Visit)

/-- What `message_counter::operator()` does to `messages_`. -/
def count (seqn : BitVec 64) (message : List UInt8) (messages : Statistics) : Statistics :=
  match (visit message).typeId with
  | some typeId => messages.record seqn typeId
  | none => messages

/-- `message_counter::operator()`. -/
def messageCounter (asserts : Bool) : Processor Statistics := fun seqn message => do
  modify (count visit seqn message)
  assertThat asserts (visit message).rest.isEmpty

theorem messageCounter_steps (asserts : Bool) :
    Steps (messageCounter visit asserts) (count visit) := by
  intro seqn message s
  by_cases hassert : (asserts && !(visit message).rest.isEmpty) = true
  · exact .inr ⟨.assertion, by simp [messageCounter, assertThat, hassert]; rfl⟩
  · exact .inl (by simp [messageCounter, assertThat, hassert]; rfl)

/-- Without the assertion no call throws. -/
theorem messageCounter_quiet : messageCounter visit false = quiet (count visit) := rfl

/-! ### Statistics from positions -/

/-- The positions, from 1 on, of the frames accepted as messages of a type. -/
def positions (c : ℕ) (payloads : List (List UInt8)) : List ℕ :=
  ((payloads.zipIdx 1).filter fun f => (visit f.1).typeId = some c).map Prod.snd

/-- The statistics of the frames at these positions. -/
def summary : List ℕ → Option Stats
  | [] => none
  | q :: qs => some ⟨BitVec.ofNat 64 (qs.length + 1), BitVec.ofNat 64 q,
      BitVec.ofNat 64 ((q :: qs).getLast (List.cons_ne_nil q qs))⟩

/-- A frame accepted as a message of this type, seen by its statistics. -/
def extended (st : Option Stats) (seqn : BitVec 64) : Stats :=
  match st with
  | some st => { st with n := st.n + 1, last := seqn }
  | none => ⟨1, seqn, seqn⟩

theorem record_eq (messages : Statistics) (seqn : BitVec 64) (c : ℕ) :
    messages.record seqn c = messages.insert c (extended (messages.lookup c) seqn) := by
  unfold Statistics.record
  cases messages.lookup c <;> rfl

theorem lookup_count (seqn : BitVec 64) (message : List UInt8) (messages : Statistics) (c : ℕ) :
    (count visit seqn message messages).lookup c =
      if (visit message).typeId = some c then some (extended (messages.lookup c) seqn)
      else messages.lookup c := by
  unfold count
  cases htype : (visit message).typeId with
  | none => simp
  | some c' =>
    simp only [Option.some.injEq, record_eq]
    split
    · rename_i heq
      rw [heq, AList.lookup_insert]
    · rename_i hne
      rw [AList.lookup_insert_ne fun heq => hne heq.symm]

theorem summary_append (qs : List ℕ) (q : ℕ) :
    summary (qs ++ [q]) = some (extended (summary qs) (BitVec.ofNat 64 q)) := by
  cases qs with
  | nil => rfl
  | cons q' qs =>
    simp [summary, extended, BitVec.ofNat_add]

theorem n_of_summary {qs : List ℕ} {st : Stats} (h : summary qs = some st) :
    st.n = BitVec.ofNat 64 qs.length := by
  cases qs with
  | nil => cases h
  | cons q qs =>
    cases h
    rfl

theorem positions_append (c : ℕ) (payloads : List (List UInt8)) (message : List UInt8) :
    positions visit c (payloads ++ [message]) = positions visit c payloads ++
      if (visit message).typeId = some c then [payloads.length + 1] else [] := by
  simp only [positions, List.zipIdx_append, List.filter_append, List.map_append]
  congr 1
  split <;> simp_all [Nat.add_comm]

/-- The statistics of every type are those of its positions, whatever came in between. -/
theorem lookup_afterCalls (payloads : List (List UInt8)) (c : ℕ) :
    (afterCalls (count visit) (numbered 1 payloads) ∅).lookup c =
      summary (positions visit c payloads) := by
  induction payloads using List.reverseRecOn with
  | nil => rfl
  | append_singleton payloads message ih =>
    have hseqn : (1 : BitVec 64) + BitVec.ofNat 64 payloads.length =
        BitVec.ofNat 64 (payloads.length + 1) := by
      rw [Nat.add_comm, BitVec.ofNat_add]
      rfl
    rw [numbered_append, afterCalls_append, numbered, numbered, hseqn, positions_append]
    change (count visit _ message _).lookup c = _
    rw [lookup_count, ih]
    split
    · rw [summary_append]
    · rw [List.append_nil]

/-! ### Positions -/

theorem length_positions (c : ℕ) (payloads : List (List UInt8)) :
    (positions visit c payloads).length =
      payloads.countP fun f => (visit f).typeId = some c := by
  rw [positions, List.length_map, ← List.countP_eq_length_filter]
  conv_rhs => rw [← List.zipIdx_map_fst 1 payloads, List.countP_map]
  rfl

theorem positions_eq_nil_iff {c : ℕ} {payloads : List (List UInt8)} :
    positions visit c payloads = [] ↔ ∀ f ∈ payloads, (visit f).typeId ≠ some c := by
  rw [← List.length_eq_zero_iff, length_positions, List.countP_eq_zero]
  simp

theorem positions_sublist (c : ℕ) (payloads : List (List UInt8)) :
    (positions visit c payloads).Sublist (List.range' 1 payloads.length) := by
  rw [← List.zipIdx_map_snd 1 payloads]
  exact List.filter_sublist.map _

theorem pairwise_positions (c : ℕ) (payloads : List (List UInt8)) :
    (positions visit c payloads).Pairwise (· < ·) :=
  (List.pairwise_lt_range').sublist (positions_sublist visit c payloads)

theorem mem_positions_bounds {c q : ℕ} {payloads : List (List UInt8)}
    (h : q ∈ positions visit c payloads) : 1 ≤ q ∧ q ≤ payloads.length := by
  have := List.mem_range'_1.mp ((positions_sublist visit c payloads).subset h)
  omega

/-- Increasing numbers leave room for each other. -/
theorem add_length_le_getLast {q : ℕ} {qs : List ℕ} (h : (q :: qs).Pairwise (· < ·)) :
    q + (q :: qs).length ≤ (q :: qs).getLast (List.cons_ne_nil q qs) + 1 := by
  induction qs generalizing q with
  | nil => simp
  | cons q' qs ih =>
    have hlt : q < q' := (List.pairwise_cons.mp h).1 q' List.mem_cons_self
    have hrest := ih (List.pairwise_cons.mp h).2
    rw [List.getLast_cons (List.cons_ne_nil q' qs)]
    simp only [List.length_cons] at hrest ⊢
    omega

end Counter

/-! ### The report -/

/-- The names of the 23 types. -/
def makeTypeName : AList fun _ : ℕ => String where
  entries := Itch.messages.alternatives.map fun m => ⟨m.typeId, m.name⟩
  nodupKeys := by rw [List.NodupKeys]; decide

/-- What `message_counter::done` logs: the number of types, those it has no name for,
a line for each of the others, the total, and the names that are left over. -/
structure Done where
  read : ℕ
  unmapped : List ℕ
  lines : List (ℕ × String × Stats)
  total : BitVec 64
  missing : AList fun _ : ℕ => String

def Done.add (done : Done) (entry : Σ _ : ℕ, Stats) : Done :=
  match done.missing.lookup entry.1 with
  | none => { done with unmapped := done.unmapped ++ [entry.1] }
  | some name =>
    { done with
      lines := done.lines ++ [(entry.1, name, entry.2)]
      total := done.total + entry.2.n
      missing := done.missing.erase entry.1 }

/-- `message_counter::done`, for the entries of `messages_` in the order of the map. -/
def done (entries : List (Σ _ : ℕ, Stats)) : Done :=
  entries.foldl Done.add ⟨entries.length, [], [], 0, makeTypeName⟩

theorem mem_makeTypeName {c : ℕ} : c ∈ makeTypeName ↔ c ∈ typeIds := by
  rw [AList.mem_keys, typeIds]
  rfl

/-- Every entry with a name of its own takes it away and adds to the total. -/
theorem foldl_add {entries : List (Σ _ : ℕ, Stats)} (hnodup : entries.NodupKeys) {d : Done}
    (hnames : ∀ c ∈ entries.keys, c ∈ d.missing) :
    (entries.foldl Done.add d).unmapped = d.unmapped ∧
      (entries.foldl Done.add d).total = d.total + (entries.map fun e => e.2.n).sum ∧
      ∀ c, c ∈ (entries.foldl Done.add d).missing ↔ c ∈ d.missing ∧ c ∉ entries.keys := by
  induction entries generalizing d with
  | nil => simp
  | cons entry entries ih =>
    obtain ⟨c, st⟩ := entry
    rw [List.nodupKeys_cons] at hnodup
    obtain ⟨name, hname⟩ := Option.isSome_iff_exists.mp
      (AList.lookup_isSome.mpr (hnames c (by simp)))
    have hadd : d.add ⟨c, st⟩ =
        { d with
          lines := d.lines ++ [(c, name, st)]
          total := d.total + st.n
          missing := d.missing.erase c } := by
      rw [Done.add, hname]
    have hrest : ∀ c' ∈ entries.keys, c' ∈ (d.add ⟨c, st⟩).missing := by
      intro c' hc'
      rw [hadd, AList.mem_erase]
      exact ⟨fun heq => hnodup.1 (heq ▸ hc'), hnames c' (by simp [hc'])⟩
    obtain ⟨hunmapped, htotal, hmissing⟩ := ih hnodup.2 hrest
    rw [List.foldl_cons, hunmapped, htotal]
    refine ⟨by rw [hadd], ?_, fun c' => ?_⟩
    · rw [hadd, List.map_cons, List.sum_cons, add_assoc]
    · rw [hmissing, hadd, AList.mem_erase, List.keys_cons, List.mem_cons]
      tauto

section Exact
variable (visit : List UInt8 → Visit)

/-- The statistics of these payloads, and the report about them. -/
structure Exact (payloads : List (List UInt8)) (messages : Statistics) : Prop where
  mem_iff : ∀ c, c ∈ messages ↔ ∃ f ∈ payloads, (visit f).typeId = some c
  stats : ∀ c st, messages.lookup c = some st →
    st.n.toNat = payloads.countP (fun f => (visit f).typeId = some c) ∧
    (positions visit c payloads).head? = some st.first.toNat ∧
    (positions visit c payloads).getLast? = some st.last.toNat ∧
    1 ≤ st.first.toNat ∧ st.first.toNat ≤ st.last.toNat ∧
    st.n.toNat ≤ st.last.toNat - st.first.toNat + 1
  done : ∀ entries, entries.Perm messages.entries →
    (done entries).unmapped = [] ∧
    (done entries).total.toNat = payloads.countP (fun f => (visit f).typeId.isSome) ∧
    ∀ c, c ∈ (done entries).missing ↔ c ∈ typeIds ∧ ∀ f ∈ payloads, (visit f).typeId ≠ some c

variable {visit}

/-- The total over any order of the map is the number of accepted frames. -/
theorem sum_count {payloads : List (List UInt8)} {keys : List ℕ} (hnodup : keys.Nodup)
    (hkeys : ∀ c, c ∈ keys ↔ ∃ f ∈ payloads, (visit f).typeId = some c) :
    (keys.map fun c => payloads.countP fun f => (visit f).typeId = some c).sum =
      payloads.countP fun f => (visit f).typeId.isSome := by
  have hperm : (keys.map some).Perm
      ((payloads.map fun f => (visit f).typeId).dedup.filter Option.isSome) := by
    rw [List.perm_ext_iff_of_nodup (hnodup.map (Option.some_injective _))
      ((List.nodup_dedup _).filter _)]
    intro x
    cases x with
    | none => simp
    | some c => simp [hkeys]
  have hsum := List.sum_map_count_dedup_filter_eq_countP Option.isSome
    (payloads.map fun f => (visit f).typeId)
  rw [← (hperm.map _).sum_eq, List.map_map, List.countP_map] at hsum
  rw [← Function.comp_def Option.isSome, ← hsum]
  congr 1
  refine List.map_congr_left fun c _ => ?_
  rw [Function.comp_apply]
  unfold List.count
  rw [List.countP_map]
  exact List.countP_congr fun f _ => by simp

theorem sum_ofNat (ns : List ℕ) :
    (ns.map (BitVec.ofNat 64)).sum = BitVec.ofNat 64 ns.sum := by
  induction ns with
  | nil => rfl
  | cons n ns ih => rw [List.map_cons, List.sum_cons, ih, List.sum_cons, BitVec.ofNat_add]

/-- The numbers that stand in the statistics of a type, as long as they do not wrap. -/
theorem bounds_of_summary {payloads : List (List UInt8)} (hlen : payloads.length < 2 ^ 64) {c : ℕ}
    {st : Stats} (h : summary (positions visit c payloads) = some st) :
    st.n.toNat = payloads.countP (fun f => (visit f).typeId = some c) ∧
    (positions visit c payloads).head? = some st.first.toNat ∧
    (positions visit c payloads).getLast? = some st.last.toNat ∧
    1 ≤ st.first.toNat ∧ st.first.toNat ≤ st.last.toNat ∧
    st.n.toNat ≤ st.last.toNat - st.first.toNat + 1 := by
  have hcount := length_positions visit c payloads
  have hpairwise := pairwise_positions visit c payloads
  have hbounds : ∀ q ∈ positions visit c payloads, 1 ≤ q ∧ q ≤ payloads.length :=
    fun q => mem_positions_bounds visit
  have hle := List.countP_le_length (p := fun f => (visit f).typeId = some c) (l := payloads)
  cases hpos : positions visit c payloads with
  | nil => simp [hpos, summary] at h
  | cons q qs =>
    rw [hpos] at h hcount hpairwise hbounds
    cases h
    have hroom := add_length_le_getLast hpairwise
    have hfirst := hbounds q List.mem_cons_self
    have hlast := hbounds _ (List.getLast_mem (List.cons_ne_nil q qs))
    rw [List.length_cons] at hcount hroom
    simp (disch := omega) only [BitVec.toNat_ofNat, Nat.mod_eq_of_lt]
    refine ⟨hcount, rfl, List.getLast?_eq_some_getLast _, hfirst.1, ?_, ?_⟩ <;> omega

section Lookup
variable {payloads : List (List UInt8)} {messages : Statistics}
  (hlookup : ∀ c, messages.lookup c = summary (positions visit c payloads))
include hlookup

theorem mem_iff_of_lookup (c : ℕ) :
    c ∈ messages ↔ ∃ f ∈ payloads, (visit f).typeId = some c := by
  rw [← not_iff_not, ← AList.lookup_eq_none, hlookup]
  have hnil : positions visit c payloads = [] ↔ ∀ f ∈ payloads, (visit f).typeId ≠ some c :=
    positions_eq_nil_iff visit
  cases hpos : positions visit c payloads <;> simp_all [summary]

/-- The counters of the entries, in the order of the entries. -/
theorem map_n_of_lookup {entries : List (Σ _ : ℕ, Stats)} (hperm : entries.Perm messages.entries) :
    entries.map (fun e => e.2.n) = (entries.keys.map fun c =>
      payloads.countP fun f => (visit f).typeId = some c).map (BitVec.ofNat 64) := by
  rw [List.keys, List.map_map, List.map_map]
  refine List.map_congr_left fun e he => ?_
  have hst := AList.mem_lookup_iff.mpr (hperm.mem_iff.mp he)
  rw [Option.mem_def, hlookup] at hst
  rw [n_of_summary hst, length_positions]
  rfl

/-- The report does not depend on the order of the map. -/
theorem done_of_lookup (hvisit : ∀ bs c, (visit bs).typeId = some c → c ∈ typeIds)
    (hlen : payloads.length < 2 ^ 64) {entries : List (Σ _ : ℕ, Stats)}
    (hperm : entries.Perm messages.entries) :
    (done entries).unmapped = [] ∧
    (done entries).total.toNat = payloads.countP (fun f => (visit f).typeId.isSome) ∧
    ∀ c, c ∈ (done entries).missing ↔
      c ∈ typeIds ∧ ∀ f ∈ payloads, (visit f).typeId ≠ some c := by
  have hnodup : entries.NodupKeys := (List.perm_nodupKeys hperm).mpr messages.nodupKeys
  have hkeys (c : ℕ) : c ∈ entries.keys ↔ ∃ f ∈ payloads, (visit f).typeId = some c := by
    have hmem : c ∈ entries.keys ↔ c ∈ messages := (hperm.map Sigma.fst).mem_iff
    exact hmem.trans (mem_iff_of_lookup hlookup c)
  have hnames : ∀ c ∈ entries.keys, c ∈ makeTypeName := by
    intro c hc
    obtain ⟨f, -, hf⟩ := (hkeys c).mp hc
    exact mem_makeTypeName.mpr (hvisit f c hf)
  obtain ⟨hunmapped, htotal, hmissing⟩ := foldl_add
    (d := ⟨entries.length, [], [], 0, makeTypeName⟩) hnodup hnames
  refine ⟨hunmapped, ?_, fun c => ?_⟩
  · rw [done, htotal, map_n_of_lookup hlookup hperm, sum_ofNat, sum_count hnodup hkeys]
    have hle := List.countP_le_length (p := fun f => (visit f).typeId.isSome) (l := payloads)
    simp (disch := omega) only [zero_add, BitVec.toNat_ofNat, Nat.mod_eq_of_lt]
  · rw [done, hmissing c, mem_makeTypeName, hkeys]
    simp

end Lookup

theorem exact_afterCalls (hvisit : ∀ bs c, (visit bs).typeId = some c → c ∈ typeIds)
    {payloads : List (List UInt8)} (hlen : payloads.length < 2 ^ 64) :
    Exact visit payloads (afterCalls (count visit) (numbered 1 payloads) ∅) := by
  have hlookup := lookup_afterCalls visit payloads
  refine ⟨mem_iff_of_lookup hlookup, fun c st hst => ?_,
    fun entries hperm => done_of_lookup hlookup hvisit hlen hperm⟩
  rw [hlookup] at hst
  exact bounds_of_summary hlen hst

/-- The statistics are exact in every state that frames numbered from 1 lead to, also
where a failed assertion ends the run; frames with errors change nothing. -/
theorem messageCounter_exact {visit : List UInt8 → Visit}
    (hvisit : ∀ bs c, (visit bs).typeId = some c → c ∈ typeIds) (asserts : Bool)
    {payloads : List (List UInt8)} (hlen : payloads.length < 2 ^ 64) :
    (∀ s, deliver (messageCounter visit asserts) (numbered 1 payloads) ∅ = .ok () s →
      Exact visit payloads s) ∧
    (∀ e s, deliver (messageCounter visit asserts) (numbered 1 payloads) ∅ = .error e s →
      asserts = true ∧ ∃ k, Exact visit (payloads.take k) s) ∧
    (∀ (p : Platform) (o : ByteOrder) (bs : List UInt8), (frames o).frames bs = payloads →
      final (fakeSequence p o (messageCounter visit asserts) 1 bs ∅) =
        final (deliver (messageCounter visit asserts) (numbered 1 payloads) ∅)) ∧
    ∀ seqn message s, (visit message).typeId = none →
      final (messageCounter visit asserts seqn message s) = s := by
  have hsteps := messageCounter_steps visit asserts
  refine ⟨?_, ?_, ?_, ?_⟩
  · intro s hs
    rcases hsteps.deliver (numbered 1 payloads) ∅ with hrun | ⟨e, k, hrun⟩
    · rw [hrun] at hs
      cases hs
      exact exact_afterCalls hvisit hlen
    · rw [hrun] at hs
      cases hs
  · intro e s hs
    constructor
    · by_contra hasserts
      rw [Bool.not_eq_true] at hasserts
      rw [hasserts, messageCounter_quiet, deliver_quiet] at hs
      cases hs
    · rcases hsteps.deliver (numbered 1 payloads) ∅ with hrun | ⟨e', k, hrun⟩
      · rw [hrun] at hs
        cases hs
      · rw [hrun, numbered_take] at hs
        cases hs
        exact ⟨k, exact_afterCalls hvisit ((List.length_take_le' k payloads).trans_lt hlen)⟩
  · rintro p o bs rfl
    exact final_fakeSequence p o _ 1 bs ∅
  · intro seqn message s hnone
    have hcount : count visit seqn message s = s := by
      unfold count
      rw [hnone]
    rcases hsteps seqn message s with hcall | ⟨e, hcall⟩ <;> rw [hcall] <;> exact hcount

end Exact

/-- The visitor of `tc::as_flyweight`: the message that can be decoded, or an error. -/
def asFlyweight (p : Platform) (bs : List UInt8) : Visit :=
  match Itch.messages.decode p bs with
  | .ok message rest => ⟨some message.1.typeId, rest⟩
  | .error _ rest => ⟨none, rest⟩

theorem typeId_asFlyweight (p : Platform) (bs : List UInt8) (c : ℕ)
    (h : (asFlyweight p bs).typeId = some c) : c ∈ typeIds := by
  unfold asFlyweight at h
  split at h
  · rename_i hdecode
    cases h
    exact List.mem_map_of_mem (Variant.mem_of_decode p hdecode)
  · cases h

/-- Two system events with an empty frame in between. -/
def systemEvents : List (List UInt8) :=
  [83 :: List.replicate 11 0, [], 83 :: List.replicate 11 0]

theorem messageCounter_exact_systemEvents :
    Exact (asFlyweight default) systemEvents
      (final (deliver (messageCounter (asFlyweight default) false) (numbered 1 systemEvents)
        ∅)) := by
  have hrun := deliver_quiet (count (asFlyweight default)) (numbered 1 systemEvents) ∅
  rw [messageCounter_quiet, hrun]
  exact (messageCounter_exact (typeId_asFlyweight default) false (by decide)).1 _ hrun

end MdPrsr.Tools
