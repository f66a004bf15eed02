import MdPrsr.Itch.Timestamp
import MdPrsr.Wire.Numerals
import Mathlib.Data.List.Shortlex

/-!
# Timestamps in the dump

A timestamp is printed as a clock of hours, minutes, seconds and nanoseconds where the
standard library can format one, and as its number where it cannot. The clock takes
the number for a signed one, so a timestamp of more than 63 bits is printed as a
negative time.

Either text tells all timestamps apart, and the texts of timestamps from the wire are
ordered like the timestamps.
-/
namespace MdPrsr.Itch
open Wire

/-- A `std::chrono::hh_mm_ss` of nanoseconds. -/
@[ext] structure HhMmSs where
  isNegative : Bool
  hours : ℕ
  minutes : ℕ
  seconds : ℕ
  subseconds : ℕ
  minutes_lt : minutes < 60
  seconds_lt : seconds < 60
  subseconds_lt : subseconds < 1000000000

namespace HhMmSs

/-- The nanoseconds without their sign. -/
def magnitude (t : HhMmSs) : ℕ :=
  ((t.hours * 60 + t.minutes) * 60 + t.seconds) * 1000000000 + t.subseconds

def ofMagnitude (isNegative : Bool) (n : ℕ) : HhMmSs where
  isNegative := isNegative
  hours := n / 3600000000000
  minutes := n / 60000000000 % 60
  seconds := n / 1000000000 % 60
  subseconds := n % 1000000000
  minutes_lt := Nat.mod_lt _ (by decide)
  seconds_lt := Nat.mod_lt _ (by decide)
  subseconds_lt := Nat.mod_lt _ (by decide)

/-- The least 64-bit number has no magnitude of this type. -/
def ofNanoseconds (d : BitVec 64) : Option HhMmSs :=
  if d = BitVec.intMin 64 then none else some (ofMagnitude (d.toInt < 0) d.toInt.natAbs)

/-- The fields as `%H:%M:%S` prints them: all hours, with at least two digits; the
seconds have all nine decimals. -/
def clock (t : HhMmSs) : List Char :=
  numeral 2 t.hours ++ ':' :: (numeral 2 t.minutes ++ ':' ::
    (numeral 2 t.seconds ++ '.' :: numeral 9 t.subseconds))

def text (t : HhMmSs) : List Char := (if t.isNegative then ['-'] else []) ++ t.clock

@[simp] theorem magnitude_ofMagnitude (isNegative : Bool) (n : ℕ) :
    (ofMagnitude isNegative n).magnitude = n := by
  simp only [magnitude, ofMagnitude]
  omega

theorem not_mem_clock (t : HhMmSs) : '-' ∉ t.clock := by
  have hminus (width n : ℕ) : '-' ∉ numeral width n := not_mem_numeral rfl width n
  simp [clock, hminus]

/-- The separators are no digits, so the text has the fields in one way only. -/
theorem clock_inj {t t' : HhMmSs} : t.clock = t'.clock ↔
    t.hours = t'.hours ∧ t.minutes = t'.minutes ∧ t.seconds = t'.seconds ∧
      t.subseconds = t'.subseconds := by
  have hcolon (width n : ℕ) : ':' ∉ numeral width n := not_mem_numeral rfl width n
  have hpoint (width n : ℕ) : '.' ∉ numeral width n := not_mem_numeral rfl width n
  rw [clock, clock, append_cons_inj (hcolon _ _) (hcolon _ _),
    append_cons_inj (hcolon _ _) (hcolon _ _), append_cons_inj (hpoint _ _) (hpoint _ _),
    numeral_inj, numeral_inj, numeral_inj, numeral_inj]

theorem text_injective {t t' : HhMmSs} (h : t.text = t'.text) : t = t' := by
  have hsign : t.isNegative = t'.isNegative := by
    have hmem (t : HhMmSs) : '-' ∈ t.text ↔ t.isNegative = true := by
      have hclock := t.not_mem_clock
      cases hneg : t.isNegative <;> simp [text, hneg, hclock]
    rw [Bool.eq_iff_iff, ← hmem, ← hmem, h]
  rw [text, text, hsign, List.append_cancel_left_eq, clock_inj] at h
  obtain ⟨hhours, hminutes, hseconds, hsubseconds⟩ := h
  exact HhMmSs.ext hsign hhours hminutes hseconds hsubseconds

/-! ### Clocks of two-digit hours -/

theorem length_clock {t : HhMmSs} (h : t.hours < 100) : t.clock.length = 18 := by
  have hminutes := t.minutes_lt
  have hseconds := t.seconds_lt
  have hsubseconds := t.subseconds_lt
  simp only [clock, List.length_append, List.length_cons]
  rw [length_numeral (by decide) (show t.hours < 10 ^ 2 from h),
    length_numeral (by decide) (show t.minutes < 10 ^ 2 by omega),
    length_numeral (by decide) (show t.seconds < 10 ^ 2 by omega),
    length_numeral (by decide) (show t.subseconds < 10 ^ 9 by omega)]

/-- The larger unit decides. -/
theorem clock_lt_iff {t t' : HhMmSs} (h : t.hours < 100) (h' : t'.hours < 100) :
    t.clock < t'.clock ↔ t.magnitude < t'.magnitude := by
  have hminutes := t.minutes_lt
  have hminutes' := t'.minutes_lt
  have hseconds := t.seconds_lt
  have hseconds' := t'.seconds_lt
  have hsubseconds := t.subseconds_lt
  have hsubseconds' := t'.subseconds_lt
  rw [clock, clock, numeral_cons_lt_iff (by decide) (by omega) (by omega),
    numeral_cons_lt_iff (by decide) (by omega) (by omega),
    numeral_cons_lt_iff (by decide) (by omega) (by omega),
    numeral_lt_iff (by decide) (by omega) (by omega), magnitude, magnitude]
  omega

/-! ### The clock of a 64-bit number -/

theorem ofNanoseconds_of_lt {d : BitVec 64} (h : d.toNat < 2 ^ 63) :
    ofNanoseconds d = some (ofMagnitude false d.toNat) := by
  have hvalue : d.toInt = d.toNat := BitVec.toInt_eq_toNat_of_lt (by omega)
  have hne : d ≠ BitVec.intMin 64 := by
    intro heq
    rw [heq] at h
    exact absurd h (by decide)
  have hsign : ¬ (d.toNat : ℤ) < 0 := by omega
  rw [ofNanoseconds, if_neg hne, hvalue, decide_eq_false hsign, Int.natAbs_natCast]

theorem ofNanoseconds_injective {d d' : BitVec 64} (h : ofNanoseconds d = ofNanoseconds d') :
    d = d' := by
  unfold ofNanoseconds at h
  split at h
  · rename_i hmin
    split at h
    · rename_i hmin'
      exact hmin.trans hmin'.symm
    · cases h
  · split at h
    · cases h
    · have heq := Option.some.inj h
      have hsign : decide (d.toInt < 0) = decide (d'.toInt < 0) :=
        congrArg HhMmSs.isNegative heq
      have hmagnitude := congrArg magnitude heq
      rw [magnitude_ofMagnitude, magnitude_ofMagnitude] at hmagnitude
      rw [decide_eq_decide] at hsign
      apply BitVec.eq_of_toInt_eq
      omega

end HhMmSs

/-- `formatter<timestamp_t>`, where `libFormat` tells whether `__cpp_lib_format` is defined. -/
def formatTimestamp (libFormat : Bool) (v : BitVec 64) : Option (List Char) :=
  if libFormat then (HhMmSs.ofNanoseconds v).map HhMmSs.text else some (Nat.toDigits 10 v.toNat)

theorem formatTimestamp_injective {libFormat : Bool} {v v' : BitVec 64}
    (h : formatTimestamp libFormat v = formatTimestamp libFormat v') : v = v' := by
  cases libFormat with
  | true =>
    have hinjective : Function.Injective (Option.map HhMmSs.text) :=
      Option.map_injective fun _ _ => HhMmSs.text_injective
    exact HhMmSs.ofNanoseconds_injective (hinjective h)
  | false =>
    have hvalue := congrArg (fun cs => Nat.ofDigitChars 10 cs 0) (Option.some.inj h)
    apply BitVec.eq_of_toNat_eq
    simpa using hvalue

/-- A timestamp of the wire is of less than 79 hours. -/
theorem formatTimestamp_of_wire (libFormat : Bool) (host : ByteOrder) {raw : List UInt8}
    (h : raw.length = 6) :
    formatTimestamp libFormat (decodeTimestamp host raw) = some
      (if libFormat then (HhMmSs.ofMagnitude false (ByteOrder.big.value raw)).clock
        else Nat.toDigits 10 (ByteOrder.big.value raw)) := by
  have hlt := toNat_decodeTimestamp_lt host h
  unfold formatTimestamp
  rw [HhMmSs.ofNanoseconds_of_lt (by omega), toNat_decodeTimestamp host h]
  cases libFormat <;> rfl

/-- Either text of a timestamp is the text of no other, and the texts of six bytes each, a
clock of eighteen characters or a number, are ordered like the bytes: by length and then
character by character. -/
theorem formatTimestamp_order (libFormat : Bool) (host host' : ByteOrder) :
    (∀ v v' : BitVec 64, formatTimestamp libFormat v = formatTimestamp libFormat v' → v = v') ∧
    ∀ raw raw' : List UInt8, raw.length = 6 → raw'.length = 6 → ∃ text text',
      formatTimestamp libFormat (decodeTimestamp host raw) = some text ∧
      formatTimestamp libFormat (decodeTimestamp host' raw') = some text' ∧
      (libFormat → text.length = 18 ∧ text'.length = 18) ∧
      (List.Shortlex (· < ·) text text' ↔ raw < raw') := by
  refine ⟨fun v v' => formatTimestamp_injective, fun raw raw' h h' => ?_⟩
  refine ⟨_, _, formatTimestamp_of_wire libFormat host h, formatTimestamp_of_wire libFormat host' h',
    ?_⟩
  have hlt := ByteOrder.big.value_lt raw
  have hlt' := ByteOrder.big.value_lt raw'
  rw [h] at hlt
  rw [h'] at hlt'
  rw [← ByteOrder.big_value_lt_iff (h.trans h'.symm)]
  cases libFormat with
  | false => exact ⟨nofun, List.shortlex_def.trans toDigits_lt_iff⟩
  | true =>
    have hhours : (HhMmSs.ofMagnitude false (ByteOrder.big.value raw)).hours < 100 :=
      Nat.div_lt_of_lt_mul (by omega)
    have hhours' : (HhMmSs.ofMagnitude false (ByteOrder.big.value raw')).hours < 100 :=
      Nat.div_lt_of_lt_mul (by omega)
    have hlen := HhMmSs.length_clock hhours
    have hlen' := HhMmSs.length_clock hhours'
    refine ⟨fun _ => ⟨hlen, hlen'⟩, ?_⟩
    have horder := HhMmSs.clock_lt_iff hhours hhours'
    rw [HhMmSs.magnitude_ofMagnitude, HhMmSs.magnitude_ofMagnitude] at horder
    exact (List.shortlex_iff_lex (hlen.trans hlen'.symm)).trans horder

/-- The last nanosecond of a day and the hour 24 behind it. -/
theorem formatTimestamp_order_midnight :
    ∃ text text',
      formatTimestamp true (decodeTimestamp .little [0x4e, 0x94, 0x91, 0x4e, 0xff, 0xff]) =
        some text ∧
      formatTimestamp true (decodeTimestamp .big [0x4e, 0x94, 0x91, 0x4f, 0, 0]) = some text' ∧
      List.Shortlex (· < ·) text text' := by
  obtain ⟨text, text', htext, htext', -, horder⟩ := (formatTimestamp_order true .little .big).2
    [0x4e, 0x94, 0x91, 0x4e, 0xff, 0xff] [0x4e, 0x94, 0x91, 0x4f, 0, 0] rfl rfl
  exact ⟨text, text', htext, htext', horder.mpr (by decide)⟩

example : formatTimestamp true 0x4e94914f0000 = some "24:00:00.000000000".toList := by
  decide +kernel

end MdPrsr.Itch
