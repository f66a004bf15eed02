import Mathlib.Data.List.Basic
import Mathlib.Data.List.Forall2

/-!
# Decoders over a byte cursor

A decoder receives the bytes between its cursor and the end of the buffer and
moves the cursor forward. A failing decoder leaves the cursor where the failure
was met, as a C++ function does that takes `begin` by reference.

Two rules of composition are all that the formats built on this need: `Reads`
says which bytes a decoder turns into which value, whatever follows them, and
`Agree` compares two decoders on every buffer, failures included.
-/
namespace MdPrsr.Wire

abbrev Decoder (ε α : Type) := EStateM ε (List UInt8) α

namespace Decoder
variable {ε α β γ δ : Type}

/-- At least `n` bytes are left between the cursor and the end. -/
def demand (fault : ε) (n : ℕ) : Decoder ε Unit := fun bs =>
  if bs.length < n then .error fault bs else .ok () bs

/-- The `n` bytes behind offset `off`, without moving the cursor. -/
def peek (fault : ε) (off n : ℕ) : Decoder ε (List UInt8) := fun bs =>
  if off + n ≤ bs.length then .ok ((bs.drop off).take n) bs else .error fault bs

/-- The next `n` bytes; fewer are a `fault`. -/
def take (fault : ε) (n : ℕ) : Decoder ε (List UInt8) := fun bs =>
  if n ≤ bs.length then .ok (bs.take n) (bs.drop n) else .error fault bs

/-- `n` items, one after the other. -/
def times (d : Decoder ε α) : ℕ → Decoder ε (List α)
  | 0 => pure []
  | n + 1 => do
      let a ← d
      let as ← times d n
      pure (a :: as)

theorem bind_ok {d : Decoder ε α} {f : α → Decoder ε β} {bs rest : List UInt8} {a : α}
    (h : d bs = .ok a rest) : (d >>= f) bs = f a rest := by
  simp only [bind, EStateM.bind, h]

theorem bind_error {d : Decoder ε α} {f : α → Decoder ε β} {bs rest : List UInt8} {e : ε}
    (h : d bs = .error e rest) : (d >>= f) bs = .error e rest := by
  simp only [bind, EStateM.bind, h]

@[simp] theorem pure_apply (a : α) (bs : List UInt8) :
    (pure a : Decoder ε α) bs = .ok a bs := rfl

theorem demand_of_le (fault : ε) {n : ℕ} {bs : List UInt8} (h : n ≤ bs.length) :
    demand fault n bs = .ok () bs := if_neg (Nat.not_lt.mpr h)

theorem demand_of_lt (fault : ε) {n : ℕ} {bs : List UInt8} (h : bs.length < n) :
    demand fault n bs = .error fault bs := if_pos h

theorem peek_of_le (fault : ε) {off n : ℕ} {bs : List UInt8} (h : off + n ≤ bs.length) :
    peek fault off n bs = .ok ((bs.drop off).take n) bs := if_pos h

theorem peek_of_lt (fault : ε) {off n : ℕ} {bs : List UInt8} (h : bs.length < off + n) :
    peek fault off n bs = .error fault bs := if_neg (Nat.not_le_of_lt h)

theorem take_of_le (fault : ε) {n : ℕ} {bs : List UInt8} (h : n ≤ bs.length) :
    take fault n bs = .ok (bs.take n) (bs.drop n) := if_pos h

theorem take_of_lt (fault : ε) {n : ℕ} {bs : List UInt8} (h : bs.length < n) :
    take fault n bs = .error fault bs := if_neg (Nat.not_le_of_lt h)

/-! ### What a decoder reads -/

/-- Whatever follows `bs`, the decoder turns `bs` into `a` and stops behind it. -/
def Reads (d : Decoder ε α) (bs : List UInt8) (a : α) : Prop :=
  ∀ rest, d (bs ++ rest) = .ok a rest

theorem reads_pure (a : α) : Reads (pure a : Decoder ε α) [] a := fun _ => rfl

theorem reads_take (fault : ε) (bs : List UInt8) : Reads (take fault bs.length) bs bs := by
  intro rest
  rw [take_of_le fault (by simp)]
  simp

theorem Reads.bind {d : Decoder ε α} {f : α → Decoder ε β} {bs cs : List UInt8} {a : α} {b : β}
    (h₁ : Reads d bs a) (h₂ : Reads (f a) cs b) : Reads (d >>= f) (bs ++ cs) b := by
  intro rest
  rw [List.append_assoc, bind_ok (h₁ _)]
  exact h₂ rest

theorem Reads.map {d : Decoder ε α} {bs : List UInt8} {a : α} (f : α → β) (h : Reads d bs a) :
    Reads (f <$> d) bs (f a) := by
  intro rest
  simp only [Functor.map, EStateM.map, h rest]

theorem reads_times {d : Decoder ε α} {enc : α → List UInt8} {as : List α}
    (h : ∀ a ∈ as, Reads d (enc a) a) : Reads (times d as.length) (as.flatMap enc) as := by
  induction as with
  | nil => exact reads_pure []
  | cons a as ih =>
    have hd := h a List.mem_cons_self
    have htail := ih fun b hb => h b (List.mem_cons_of_mem a hb)
    intro rest
    rw [List.flatMap_cons, List.append_assoc, List.length_cons, times, bind_ok (hd _),
      bind_ok (htail _)]
    rfl

/-! ### Decoders that stay inside the buffer -/

/-- On success the cursor has moved forward, at most to the end. -/
def Forward (d : Decoder ε α) : Prop := ∀ bs a rest, d bs = .ok a rest → rest <:+ bs

/-- The decoder gives up with `fault`, or it stops inside the buffer. -/
def Within (fault : ε) (d : Decoder ε α) (bs : List UInt8) : Prop :=
  (∃ cur, d bs = .error fault cur) ∨ ∃ a rest, d bs = .ok a rest ∧ rest <:+ bs

theorem within_of_error {fault : ε} {d : Decoder ε α} {bs cur : List UInt8}
    (h : d bs = .error fault cur) : Within fault d bs := .inl ⟨cur, h⟩

theorem within_of_ok {fault : ε} {d : Decoder ε α} {bs rest : List UInt8} {a : α}
    (h : d bs = .ok a rest) (hrest : rest <:+ bs) : Within fault d bs := .inr ⟨a, rest, h, hrest⟩

theorem not_within_of_error {fault e : ε} (hne : e ≠ fault) {d : Decoder ε α}
    {bs cur : List UInt8} (h : d bs = .error e cur) : ¬ Within fault d bs := by
  unfold Within
  rw [h]
  intro hwithin
  rcases hwithin with ⟨cur', heq⟩ | ⟨a, rest, heq, -⟩
  · cases heq
    exact hne rfl
  · cases heq

theorem exists_of_bind_ok {d : Decoder ε α} {f : α → Decoder ε β} {bs rest : List UInt8} {b : β}
    (h : (d >>= f) bs = .ok b rest) : ∃ a mid, d bs = .ok a mid ∧ f a mid = .ok b rest := by
  cases hd : d bs with
  | ok a mid =>
    rw [bind_ok hd] at h
    exact ⟨a, mid, rfl, h⟩
  | error e mid =>
    rw [bind_error hd] at h
    cases h

theorem forward_pure (a : α) : Forward (pure a : Decoder ε α) := by
  intro bs b rest h
  cases h
  exact List.suffix_rfl

theorem forward_demand (fault : ε) (n : ℕ) : Forward (demand fault n) := by
  intro bs a rest h
  unfold demand at h
  split at h
  · cases h
  · cases h
    exact List.suffix_rfl

theorem forward_take (fault : ε) (n : ℕ) : Forward (take fault n) := by
  intro bs a rest h
  unfold take at h
  split at h
  · cases h
    exact List.drop_suffix n bs
  · cases h

theorem Forward.bind {d : Decoder ε α} {f : α → Decoder ε β} (hd : Forward d)
    (hf : ∀ a, Forward (f a)) : Forward (d >>= f) := by
  intro bs b rest h
  obtain ⟨a, mid, hfirst, hrest⟩ := exists_of_bind_ok h
  exact (hf a mid b rest hrest).trans (hd bs a mid hfirst)

theorem Forward.map {d : Decoder ε α} (f : α → β) (hd : Forward d) : Forward (f <$> d) := by
  intro bs b rest h
  simp only [Functor.map, EStateM.map] at h
  split at h
  · rename_i a mid hfirst
    cases h
    exact hd bs a rest hfirst
  · cases h

theorem Forward.times {d : Decoder ε α} (hd : Forward d) (n : ℕ) : Forward (times d n) := by
  induction n with
  | zero => exact forward_pure []
  | succ n ih => exact hd.bind fun a => ih.bind fun as => forward_pure (a :: as)

/-- After a step that stays inside, the rest decides. -/
theorem within_bind_iff (fault : ε) {d : Decoder ε α} {f : α → Decoder ε β}
    {bs mid : List UInt8} {a : α} (hd : d bs = .ok a mid) (hmid : mid <:+ bs)
    (hf : Forward (f a)) : Within fault (d >>= f) bs ↔ Within fault (f a) mid := by
  unfold Within
  rw [bind_ok hd]
  constructor
  · intro hwithin
    rcases hwithin with herror | ⟨b, rest, hok, -⟩
    · exact .inl herror
    · exact .inr ⟨b, rest, hok, hf mid b rest hok⟩
  · intro hwithin
    rcases hwithin with herror | ⟨b, rest, hok, hrest⟩
    · exact .inl herror
    · exact .inr ⟨b, rest, hok, hrest.trans hmid⟩

theorem within_bind_pure_iff (fault : ε) {d : Decoder ε α} (f : α → β) (bs : List UInt8) :
    Within fault (d >>= fun a => pure (f a)) bs ↔ Within fault d bs := by
  unfold Within
  cases hd : d bs with
  | ok a mid =>
    rw [bind_ok hd]
    simp
  | error e mid =>
    rw [bind_error hd]
    simp

/-! ### Comparing two decoders -/

/-- Both succeed at one place with related values, or both fail alike. -/
inductive Matched (R : α → β → Prop) :
    EStateM.Result ε (List UInt8) α → EStateM.Result ε (List UInt8) β → Prop
  | ok {a : α} {b : β} (rest : List UInt8) : R a b → Matched R (.ok a rest) (.ok b rest)
  | error (e : ε) (rest : List UInt8) : Matched R (.error e rest) (.error e rest)

def Agree (R : α → β → Prop) (d : Decoder ε α) (d' : Decoder ε β) : Prop :=
  ∀ bs, Matched R (d bs) (d' bs)

theorem agree_refl {R : α → α → Prop} (hR : ∀ a, R a a) (d : Decoder ε α) : Agree R d d := by
  intro bs
  cases d bs with
  | ok a rest => exact .ok rest (hR a)
  | error e rest => exact .error e rest

theorem agree_pure {R : α → β → Prop} {a : α} {b : β} (h : R a b) :
    Agree R (pure a : Decoder ε α) (pure b) := fun bs => .ok bs h

theorem Agree.bind {R : α → β → Prop} {S : γ → δ → Prop} {d : Decoder ε α} {d' : Decoder ε β}
    {f : α → Decoder ε γ} {f' : β → Decoder ε δ} (h : Agree R d d')
    (hf : ∀ a b, R a b → Agree S (f a) (f' b)) : Agree S (d >>= f) (d' >>= f') := by
  intro bs
  have hbs := h bs
  generalize hr : d bs = r, hr' : d' bs = r' at hbs
  cases hbs with
  | ok rest hab =>
    rw [bind_ok hr, bind_ok hr']
    exact hf _ _ hab rest
  | error e rest =>
    rw [bind_error hr, bind_error hr']
    exact .error e rest

theorem Agree.times {R : α → β → Prop} {d : Decoder ε α} {d' : Decoder ε β} (h : Agree R d d')
    (n : ℕ) : Agree (List.Forall₂ R) (times d n) (times d' n) := by
  induction n with
  | zero => exact agree_pure .nil
  | succ n ih =>
    exact h.bind fun a b hab => ih.bind fun as bs hs => agree_pure (.cons hab hs)

end Decoder
end MdPrsr.Wire
