import MdPrsr.Wire.Record

/-!
# Decoders on a stream

A buffer may end where a stream does not. A decoder is incremental if the bytes that
arrive later do not change what it made of the others: a value stays, and so does a
failure that does not ask for more. The decoders of `Wire.Cursor` and `Wire.Record` are
incremental, and what is built from them is.

An encoding that a decoder reads back, whatever follows it, ends where it ends. So a
stream of encodings is the stream of one list of values only.
-/
namespace MdPrsr.Wire

namespace Decoder
variable {ε α β : Type} {final : ε → Prop}

/-- More bytes change nothing but failures that are not final. -/
structure Incremental (final : ε → Prop) (d : Decoder ε α) : Prop where
  ok : ∀ {bs rest : List UInt8} {a : α} (more : List UInt8), d bs = .ok a rest →
    d (bs ++ more) = .ok a (rest ++ more)
  error : ∀ {bs cur : List UInt8} {e : ε} (more : List UInt8), final e → d bs = .error e cur →
    d (bs ++ more) = .error e (cur ++ more)

theorem incremental_pure (a : α) : Incremental final (pure a : Decoder ε α) where
  ok more h := by cases h; rfl
  error more _ h := by cases h

theorem incremental_throw (e : ε) : Incremental final (throw e : Decoder ε α) where
  ok more h := by cases h
  error more _ h := by cases h; rfl

theorem incremental_demand {fault : ε} (hfault : ¬ final fault) (n : ℕ) :
    Incremental final (demand fault n) where
  ok := by
    intro bs rest a more h
    rcases Nat.lt_or_ge bs.length n with hlt | hle
    · rw [demand_of_lt fault hlt] at h
      cases h
    · rw [demand_of_le fault hle] at h
      cases h
      exact demand_of_le fault (by rw [List.length_append]; omega)
  error := by
    intro bs cur e more he h
    rcases Nat.lt_or_ge bs.length n with hlt | hle
    · rw [demand_of_lt fault hlt] at h
      cases h
      exact (hfault he).elim
    · rw [demand_of_le fault hle] at h
      cases h

theorem incremental_peek {fault : ε} (hfault : ¬ final fault) (off n : ℕ) :
    Incremental final (peek fault off n) where
  ok := by
    intro bs rest a more h
    rcases Nat.lt_or_ge bs.length (off + n) with hlt | hle
    · rw [peek_of_lt fault hlt] at h
      cases h
    · rw [peek_of_le fault hle] at h
      cases h
      rw [peek_of_le fault (by rw [List.length_append]; omega),
        List.drop_append_of_le_length (by omega),
        List.take_append_of_le_length (by rw [List.length_drop]; omega)]
  error := by
    intro bs cur e more he h
    rcases Nat.lt_or_ge bs.length (off + n) with hlt | hle
    · rw [peek_of_lt fault hlt] at h
      cases h
      exact (hfault he).elim
    · rw [peek_of_le fault hle] at h
      cases h

theorem incremental_take {fault : ε} (hfault : ¬ final fault) (n : ℕ) :
    Incremental final (take fault n) where
  ok := by
    intro bs rest a more h
    rcases Nat.lt_or_ge bs.length n with hlt | hle
    · rw [take_of_lt fault hlt] at h
      cases h
    · rw [take_of_le fault hle] at h
      cases h
      rw [take_of_le fault (by rw [List.length_append]; omega),
        List.take_append_of_le_length hle, List.drop_append_of_le_length hle]
  error := by
    intro bs cur e more he h
    rcases Nat.lt_or_ge bs.length n with hlt | hle
    · rw [take_of_lt fault hlt] at h
      cases h
      exact (hfault he).elim
    · rw [take_of_le fault hle] at h
      cases h

theorem Incremental.bind {d : Decoder ε α} {f : α → Decoder ε β} (hd : Incremental final d)
    (hf : ∀ a, Incremental final (f a)) : Incremental final (d >>= f) where
  ok := by
    intro bs rest b more h
    obtain ⟨a, mid, hfirst, hrest⟩ := exists_of_bind_ok h
    rw [bind_ok (hd.ok more hfirst)]
    exact (hf a).ok more hrest
  error := by
    intro bs cur e more he h
    cases hfirst : d bs with
    | ok a mid =>
      rw [bind_ok hfirst] at h
      rw [bind_ok (hd.ok more hfirst)]
      exact (hf a).error more he h
    | error e' mid =>
      rw [bind_error hfirst] at h
      cases h
      exact bind_error (hd.error more he hfirst)

theorem Incremental.map {d : Decoder ε α} (f : α → β) (hd : Incremental final d) :
    Incremental final (f <$> d) := by
  rw [map_eq_pure_bind]
  exact hd.bind fun a => incremental_pure (f a)

theorem Incremental.times {d : Decoder ε α} (hd : Incremental final d) (n : ℕ) :
    Incremental final (times d n) := by
  induction n with
  | zero => exact incremental_pure []
  | succ n ih => exact hd.bind fun a => ih.bind fun as => incremental_pure (a :: as)

/-! ### Streams of encodings -/

section Unique
variable {d : Decoder ε α}

/-- No encoding is the front of another one. -/
theorem Reads.unique {bs cs s t : List UInt8} {a b : α} (ha : Reads d bs a) (hb : Reads d cs b)
    (h : bs ++ s = cs ++ t) : a = b ∧ s = t := by
  have hleft := ha s
  rw [h, hb t] at hleft
  cases hleft
  exact ⟨rfl, rfl⟩

variable {enc : α → List UInt8} {as bs : List α} (has : ∀ a ∈ as, Reads d (enc a) a)
  (hbs : ∀ b ∈ bs, Reads d (enc b) b)
include has hbs

/-- As many values have the same encodings only if they are the same. -/
theorem flatMap_unique {s t : List UInt8} (hlen : as.length = bs.length)
    (h : as.flatMap enc ++ s = bs.flatMap enc ++ t) : as = bs ∧ s = t := by
  have hleft := reads_times has s
  rw [h, hlen, reads_times hbs t] at hleft
  cases hleft
  exact ⟨rfl, rfl⟩

/-- If the decoder takes nothing from an empty buffer, the encodings determine how many
they are. -/
theorem flatMap_injective (hnil : ∀ a rest, d [] ≠ .ok a rest)
    (h : as.flatMap enc = bs.flatMap enc) : as = bs := by
  have hne {a : α} (ha : Reads d (enc a) a) : enc a ≠ [] := by
    intro hempty
    have hread := ha []
    rw [hempty] at hread
    exact hnil a [] hread
  induction as generalizing bs with
  | nil =>
    cases bs with
    | nil => rfl
    | cons b bs =>
      exact (hne (hbs b List.mem_cons_self) (List.append_eq_nil_iff.mp h.symm).1).elim
  | cons a as ih =>
    have ha := has a List.mem_cons_self
    cases bs with
    | nil => exact (hne ha (List.append_eq_nil_iff.mp h).1).elim
    | cons b bs =>
      rw [List.flatMap_cons, List.flatMap_cons] at h
      obtain ⟨rfl, hrest⟩ := ha.unique (hbs b List.mem_cons_self) h
      rw [ih (fun a' ha' => has a' (List.mem_cons_of_mem _ ha'))
        (fun b' hb' => hbs b' (List.mem_cons_of_mem _ hb')) hrest]

end Unique
end Decoder

theorem LeafCodec.incremental_record {ε K : Type} [Leaves K] (C : LeafCodec K) {final : ε → Prop}
    {fault : ε} (hfault : ¬ final fault) (L : Layout K) :
    Decoder.Incremental final (C.record fault L) :=
  (Decoder.incremental_take hfault L.size).map _

end MdPrsr.Wire
