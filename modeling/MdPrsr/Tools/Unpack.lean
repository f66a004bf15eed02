import MdPrsr.Tools.Reader

/-!
# Unpacking a file before processing it

`unpack_then_process` decompresses into a mapped file of `buffer_size` bytes, three
times the size of the compressed file. Each round asks for `buffer_size` bytes behind
what is unpacked so far; after a full round the mapping grows, but only by a quarter
of `buffer_size`. So the second round has room for a quarter of what it asks for.
The loop takes a round that got less than it asked for to be the last one.
-/
namespace MdPrsr.Tools
open Wire

/-- The bytes of a mapped file. -/
structure Mapping where
  bytes : List UInt8

namespace Mapping

def zero (size : ℕ) : Mapping := ⟨List.replicate size 0⟩

/-- A store behind the end of the mapping is an overrun. -/
def store (m : Mapping) (off : ℕ) (bs : List UInt8) : Except Failure Mapping :=
  if off + bs.length ≤ m.bytes.length then
    .ok ⟨m.bytes.take off ++ bs ++ m.bytes.drop (off + bs.length)⟩
  else .error .overrun

def resize (m : Mapping) (size : ℕ) : Mapping := ⟨(m.bytes.take size).rightpad size 0⟩

@[simp] theorem length_zero (size : ℕ) : (zero size).bytes.length = size := List.length_replicate

@[simp] theorem length_resize (m : Mapping) (size : ℕ) : (m.resize size).bytes.length = size := by
  simp [resize]

theorem store_of_lt {m : Mapping} {off : ℕ} {bs : List UInt8}
    (h : m.bytes.length < off + bs.length) : m.store off bs = .error .overrun :=
  if_neg (Nat.not_le_of_lt h)

/-- Growing keeps what was stored. -/
theorem take_resize (m : Mapping) {n size : ℕ} (hn : n ≤ m.bytes.length) (hsize : n ≤ size) :
    (m.resize size).bytes.take n = m.bytes.take n := by
  rw [resize, List.rightpad, List.take_append_of_le_length (by simp; omega), List.take_take,
    Nat.min_eq_left hsize]

/-- A store inside the mapping keeps its size and what is in front. -/
theorem store_of_le {m : Mapping} {off : ℕ} {bs : List UInt8}
    (h : off + bs.length ≤ m.bytes.length) :
    ∃ m', m.store off bs = .ok m' ∧ m'.bytes.length = m.bytes.length ∧
      m'.bytes.take (off + bs.length) = m.bytes.take off ++ bs := by
  have hoff : (m.bytes.take off ++ bs).length = off + bs.length := by simp; omega
  refine ⟨_, if_pos h, ?_, List.take_left' hoff⟩
  simp only [List.length_append, List.length_take, List.length_drop]
  omega

end Mapping

/-- Reads that return what they are asked for unless the input ends before. -/
def ReadSizes.full : ReadSizes where
  size left asked := min left asked
  le_asked := by omega
  le_left := by omega
  pos := by omega

/-- The loop of `unpack_then_process`, with `total` bytes unpacked. The first read that
returns less than it is asked for ends it. -/
def unpackFrom (reads : ReadSizes) {B : ℕ} (hB : 0 < B) (m : Mapping) (total : ℕ)
    (input : List UInt8) : Except Failure (Mapping × ℕ) :=
  if _h : input = [] then .ok (m, total) else do
    let read := reads.size input.length B
    let m ← m.store total (input.take read)
    let total := total + read
    if read < B then
      pure (m, total)
    else
      unpackFrom reads hB (m.resize (total + B / 4)) total (input.drop read)
termination_by input.length
decreasing_by
  have hlen := List.length_pos_iff.mpr _h
  have hpos := reads.pos input.length B hlen hB
  simp only [List.length_drop]
  omega

def unpack (reads : ReadSizes) {B : ℕ} (hB : 0 < B) (input : List UInt8) :
    Except Failure (Mapping × ℕ) :=
  unpackFrom reads hB (Mapping.zero B) 0 input

/-- `unpack_then_process` with a mapping of `B` bytes to begin with. -/
def unpackThenProcess (p : Platform) (o : ByteOrder) {σ : Type} (proc : Processor σ)
    (reads : ReadSizes) {B : ℕ} (hB : 0 < B) (input : List UInt8) :
    EStateM Failure σ (List Report) := do
  let unpacked ← MonadExcept.ofExcept (unpack reads hB input)
  processRaw p o proc (unpacked.1.bytes.take unpacked.2)

theorem ReadSizes.size_zero (reads : ReadSizes) (asked : ℕ) : reads.size 0 asked = 0 :=
  Nat.le_zero.mp (reads.le_left 0 asked)

/-- A chunk that does not fit is stored outside the mapping. -/
theorem unpackFrom_of_lt (reads : ReadSizes) {B : ℕ} (hB : 0 < B) {m : Mapping} {total : ℕ}
    {input : List UInt8} (hne : input ≠ [])
    (h : m.bytes.length < total + reads.size input.length B) :
    unpackFrom reads hB m total input = .error .overrun := by
  have hchunk : (input.take (reads.size input.length B)).length = reads.size input.length B :=
    List.length_take_of_le (reads.le_left _ _)
  rw [unpackFrom, dif_neg hne]
  dsimp only
  rw [Mapping.store_of_lt (by rw [hchunk]; exact h)]
  rfl

/-- A chunk that fits is stored behind the others; the loop goes on after a full one.
At the end of the input the chunk is empty. -/
theorem unpackFrom_of_le (reads : ReadSizes) {B : ℕ} (hB : 0 < B) {m : Mapping} {total : ℕ}
    {input : List UInt8} (h : total + reads.size input.length B ≤ m.bytes.length) :
    ∃ m' : Mapping, m'.bytes.length = m.bytes.length ∧
      m'.bytes.take (total + reads.size input.length B) =
        m.bytes.take total ++ input.take (reads.size input.length B) ∧
      unpackFrom reads hB m total input =
        if reads.size input.length B < B then .ok (m', total + reads.size input.length B)
        else unpackFrom reads hB (m'.resize (total + reads.size input.length B + B / 4))
          (total + reads.size input.length B) (input.drop (reads.size input.length B)) := by
  by_cases hne : input = []
  · subst hne
    refine ⟨m, rfl, ?_, ?_⟩
    · rw [List.length_nil, reads.size_zero, List.take_nil, List.append_nil]
      rfl
    · rw [unpackFrom, dif_pos rfl, List.length_nil, reads.size_zero, if_pos hB]
      rfl
  · have hchunk : (input.take (reads.size input.length B)).length = reads.size input.length B :=
      List.length_take_of_le (reads.le_left _ _)
    have hfits : total + (input.take (reads.size input.length B)).length ≤ m.bytes.length := by
      rw [hchunk]
      exact h
    obtain ⟨m', hstore, hlen, htake⟩ := Mapping.store_of_le hfits
    rw [hchunk] at htake
    refine ⟨m', hlen, htake, ?_⟩
    rw [unpackFrom, dif_neg hne]
    dsimp only
    rw [hstore]
    rfl

/-- What the first two reads return; the first has room for all it asks for, the second
for a quarter of it, and there is no third. -/
def received (reads : ReadSizes) (B left : ℕ) : ℕ :=
  if reads.size left B < B then reads.size left B else B + reads.size (left - B) B

theorem received_le (reads : ReadSizes) (B left : ℕ) : received reads B left ≤ left := by
  have hfirst := reads.le_left left B
  have hsecond := reads.le_left (left - B) B
  unfold received
  split <;> omega

theorem received_full (B left : ℕ) : received .full B left = min left (B + B) := by
  change (if min left B < B then min left B else B + min (left - B) B) = _
  split <;> omega

theorem unpack_cases (reads : ReadSizes) {B : ℕ} (hB : 0 < B) (S : List UInt8) :
    (∃ mapping, unpack reads hB S = .ok (mapping, received reads B S.length) ∧
        mapping.bytes.take (received reads B S.length) = S.take (received reads B S.length)) ∧
        received reads B S.length ≤ B + B / 4 ∨
      unpack reads hB S = .error .overrun ∧ B + B / 4 < received reads B S.length := by
  have hroom : (Mapping.zero B).bytes.length = B := Mapping.length_zero B
  have hfirst := reads.le_asked S.length B
  have hfits : 0 + reads.size S.length B ≤ (Mapping.zero B).bytes.length := by omega
  obtain ⟨m', hlen, htake, hrun⟩ := unpackFrom_of_le reads hB hfits
  rw [Nat.zero_add] at htake hrun
  rw [List.take_zero, List.nil_append] at htake
  by_cases hshort : reads.size S.length B < B
  · have hreceived : received reads B S.length = reads.size S.length B := if_pos hshort
    left
    rw [if_pos hshort] at hrun
    rw [hreceived]
    exact ⟨⟨m', hrun, htake⟩, by omega⟩
  · have hfull : reads.size S.length B = B := by omega
    have hreceived : received reads B S.length = B + reads.size (S.drop B).length B := by
      rw [List.length_drop]
      exact if_neg hshort
    rw [if_neg hshort, hfull] at hrun
    rw [hfull] at htake
    have hgrown := Mapping.length_resize m' (B + B / 4)
    have hkept : (m'.resize (B + B / 4)).bytes.take B = S.take B :=
      (m'.take_resize (by omega) (by omega)).trans htake
    rw [hreceived]
    by_cases hsecond :
        B + reads.size (S.drop B).length B ≤ (m'.resize (B + B / 4)).bytes.length
    · obtain ⟨m'', -, htake', hrun'⟩ := unpackFrom_of_le reads hB hsecond
      left
      rw [if_pos (by omega)] at hrun'
      rw [hkept, ← List.take_add] at htake'
      exact ⟨⟨m'', hrun.trans hrun', htake'⟩, by omega⟩
    · have hrest : S.drop B ≠ [] := by
        intro hnil
        rw [hnil, List.length_nil, reads.size_zero] at hsecond
        omega
      right
      exact ⟨hrun.trans (unpackFrom_of_lt reads hB hrest (by omega)), by omega⟩

/-- Reads that are not short get the whole stream, if it has room. -/
theorem unpack_full_cases {B : ℕ} (hB : 0 < B) (S : List UInt8) :
    (∃ mapping, unpack .full hB S = .ok (mapping, S.length) ∧
        mapping.bytes.take S.length = S) ∧ S.length ≤ B + B / 4 ∨
      unpack .full hB S = .error .overrun ∧ B + B / 4 < S.length := by
  have hle := received_le .full B S.length
  rcases unpack_cases .full hB S with ⟨⟨mapping, hrun, htake⟩, hfits⟩ | ⟨hrun, hlt⟩
  · have hall : received .full B S.length = S.length := by
      rw [received_full] at hfits ⊢
      omega
    rw [hall] at hrun
    rw [hall, List.take_length] at htake
    exact .inl ⟨⟨mapping, hrun, htake⟩, hall ▸ hfits⟩
  · exact .inr ⟨hrun, by omega⟩

/-- With reads that are not short, every store stays inside the mapping and the whole stream
is unpacked exactly when it is not longer than a mapping and a quarter. -/
theorem unpack_exact_iff {B : ℕ} (hB : 0 < B) (S : List UInt8) :
    (∃ mapping total, unpack .full hB S = .ok (mapping, total) ∧ total = S.length ∧
      mapping.bytes.take total = S) ↔ S.length ≤ B + B / 4 := by
  rcases unpack_full_cases hB S with ⟨⟨mapping, hrun, htake⟩, hle⟩ | ⟨hrun, hlt⟩
  · exact ⟨fun _ => hle, fun _ => ⟨mapping, S.length, hrun, rfl, htake⟩⟩
  · constructor
    · intro hexact
      obtain ⟨mapping, total, hok, -⟩ := hexact
      rw [hrun] at hok
      cases hok
    · omega

theorem unpack_exact_iff_five :
    ∃ mapping total, unpack .full (show 0 < 4 by decide) [1, 2, 3, 4, 5] =
        .ok (mapping, total) ∧
      total = 5 ∧ mapping.bytes.take total = [1, 2, 3, 4, 5] :=
  (unpack_exact_iff (show 0 < 4 by decide) [1, 2, 3, 4, 5]).mpr (by decide)

/-- A thousand zeros, which `gzip` compresses to 29 bytes: the second chunk does not fit. -/
theorem unpack_overrun :
    unpack .full (show 0 < 3 * 29 by decide) (List.replicate 1000 0) = .error .overrun ∧
      ¬ ∀ (B : ℕ) (hB : 0 < B) (S : List UInt8), ∃ mapping total,
        unpack .full hB S = .ok (mapping, total) ∧ total = S.length ∧
          mapping.bytes.take total = S := by
  rcases unpack_full_cases (show 0 < 3 * 29 by decide) (List.replicate 1000 0) with
    ⟨-, hle⟩ | ⟨hrun, -⟩
  · rw [List.length_replicate] at hle
    omega
  · refine ⟨hrun, fun h => ?_⟩
    obtain ⟨mapping, total, hok, -⟩ := h (3 * 29) (by decide) (List.replicate 1000 0)
    rw [hrun] at hok
    cases hok

/-- What fits into the mapping is processed, whether the input ends there or not. -/
theorem unpackThenProcess_of_le (p : Platform) (o : ByteOrder) {σ : Type}
    (proc : Processor σ) (reads : ReadSizes) {B : ℕ} (hB : 0 < B) {S : List UInt8}
    (h : received reads B S.length ≤ B + B / 4) :
    unpackThenProcess p o proc reads hB S =
      processRaw p o proc (S.take (received reads B S.length)) := by
  rcases unpack_cases reads hB S with ⟨⟨mapping, hrun, htake⟩, -⟩ | ⟨-, hlt⟩
  · rw [unpackThenProcess, hrun]
    change processRaw p o proc (mapping.bytes.take (received reads B S.length)) = _
    rw [htake]
  · omega

/-- More ends in an overrun before anything is processed. -/
theorem unpackThenProcess_of_lt (p : Platform) (o : ByteOrder) {σ : Type}
    (proc : Processor σ) (reads : ReadSizes) {B : ℕ} (hB : 0 < B) {S : List UInt8}
    (h : B + B / 4 < received reads B S.length) (s : σ) :
    unpackThenProcess p o proc reads hB S s = .error .overrun s := by
  rcases unpack_cases reads hB S with ⟨-, hle⟩ | ⟨hrun, -⟩
  · omega
  · rw [unpackThenProcess, hrun]
    rfl

end MdPrsr.Tools
