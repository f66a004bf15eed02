import MdPrsr.Wire.ByteOrder

/-!
# The six-byte timestamp

`timestamp_t` is a 64-bit count of nanoseconds of which the wire carries the
six low bytes, most significant first. The coder copies these bytes to or from
offset 2 of the 64-bit object in memory and swaps that object between big-endian
and the byte order of the host, so both orders are modelled.
-/
namespace MdPrsr.Itch
open Wire

/-- The value whose object has the bytes of `v` in the opposite order. -/
def byteSwap (v : BitVec 64) : BitVec 64 :=
  BitVec.ofNat 64 (ByteOrder.big.value (ByteOrder.little.bytes 8 v.toNat))

/-- `big_to_native` and `native_to_big` are one function. -/
def bigToNative (host : ByteOrder) (v : BitVec 64) : BitVec 64 :=
  match host with
  | .little => byteSwap v
  | .big => v

/-- The object a host has in memory as these eight bytes. -/
def loadObject (host : ByteOrder) (bs : List UInt8) : BitVec 64 := BitVec.ofNat 64 (host.value bs)

def storeObject (host : ByteOrder) (v : BitVec 64) : List UInt8 := host.bytes 8 v.toNat

/-- `memcpy` of the raw bytes to offset 2 of a zero object, then the swap. -/
def decodeTimestamp (host : ByteOrder) (raw : List UInt8) : BitVec 64 :=
  bigToNative host (loadObject host ([0, 0] ++ raw))

/-- The swap, then `memcpy` of six bytes from offset 2 of the object. -/
def encodeTimestamp (host : ByteOrder) (ts : BitVec 64) : List UInt8 :=
  ((storeObject host (bigToNative host ts)).drop 2).take 6

theorem toNat_loadObject (host : ByteOrder) {bs : List UInt8} (h : bs.length = 8) :
    (loadObject host bs).toNat = host.value bs := by
  have hlt := host.value_lt bs
  rw [h] at hlt
  rw [loadObject, BitVec.toNat_ofNat]
  exact Nat.mod_eq_of_lt hlt

/-- Loading on any host and swapping reads the bytes as a big-endian integer. -/
theorem bigToNative_loadObject (host : ByteOrder) {bs : List UInt8} (h : bs.length = 8) :
    bigToNative host (loadObject host bs) = BitVec.ofNat 64 (ByteOrder.big.value bs) := by
  cases host with
  | big => rfl
  | little =>
    rw [bigToNative, byteSwap, toNat_loadObject _ h, ByteOrder.bytes_value_of_length _ h]

/-- Swapping on any host and storing writes the big-endian bytes. -/
theorem storeObject_bigToNative (host : ByteOrder) (v : BitVec 64) :
    storeObject host (bigToNative host v) = ByteOrder.big.bytes 8 v.toNat := by
  cases host with
  | big => rfl
  | little =>
    have hlen : (ByteOrder.little.bytes 8 v.toNat).length = 8 := by simp
    have hswap : (byteSwap v).toNat = ByteOrder.big.value (ByteOrder.little.bytes 8 v.toNat) :=
      toNat_loadObject .big hlen
    rw [storeObject, bigToNative, hswap]
    exact ByteOrder.bytes_value_of_length .little (by simp [ByteOrder.bytes])

theorem decodeTimestamp_eq (host : ByteOrder) {raw : List UInt8} (h : raw.length = 6) :
    decodeTimestamp host raw = BitVec.ofNat 64 (ByteOrder.big.value raw) := by
  have hzero : ByteOrder.big.value ([0, 0] ++ raw) = ByteOrder.big.value raw := by
    simp [ByteOrder.value, ByteOrder.leValue_append]
  rw [decodeTimestamp, bigToNative_loadObject host (by simp [h]), hzero]

theorem toNat_decodeTimestamp (host : ByteOrder) {raw : List UInt8} (h : raw.length = 6) :
    (decodeTimestamp host raw).toNat = ByteOrder.big.value raw := by
  have hlt := ByteOrder.big.value_lt raw
  rw [h] at hlt
  rw [decodeTimestamp_eq host h, BitVec.toNat_ofNat]
  omega

theorem encodeTimestamp_eq (host : ByteOrder) (ts : BitVec 64) :
    encodeTimestamp host ts = ByteOrder.big.bytes 6 ts.toNat := by
  have hdrop : (ByteOrder.big.bytes 8 ts.toNat).drop 2 = ByteOrder.big.bytes 6 ts.toNat := by
    have htake := ByteOrder.take_leBytes (show 6 ≤ 8 by decide) ts.toNat
    rw [ByteOrder.bytes, ByteOrder.bytes, ← htake, List.drop_reverse]
    simp
  rw [encodeTimestamp, storeObject_bigToNative, hdrop, List.take_of_length_le (by simp)]

@[simp] theorem length_encodeTimestamp (host : ByteOrder) (ts : BitVec 64) :
    (encodeTimestamp host ts).length = 6 := by
  rw [encodeTimestamp_eq, ByteOrder.length_bytes]

/-- Decoding keeps the six low bytes of what was encoded. -/
theorem toNat_decodeTimestamp_encodeTimestamp (host : ByteOrder) (ts : BitVec 64) :
    (decodeTimestamp host (encodeTimestamp host ts)).toNat = ts.toNat % 2 ^ 48 := by
  rw [decodeTimestamp_eq host (length_encodeTimestamp host ts), encodeTimestamp_eq,
    ByteOrder.value_bytes, BitVec.toNat_ofNat]
  omega

theorem decodeTimestamp_encodeTimestamp (host : ByteOrder) {ts : BitVec 64}
    (h : ts.toNat < 2 ^ 48) : decodeTimestamp host (encodeTimestamp host ts) = ts := by
  apply BitVec.eq_of_toNat_eq
  rw [toNat_decodeTimestamp_encodeTimestamp, Nat.mod_eq_of_lt h]

theorem toNat_decodeTimestamp_lt (host : ByteOrder) {raw : List UInt8} (h : raw.length = 6) :
    (decodeTimestamp host raw).toNat < 2 ^ 48 := by
  have hlt := ByteOrder.big.value_lt raw
  rw [h] at hlt
  rw [toNat_decodeTimestamp host h]
  exact hlt

theorem encodeTimestamp_decodeTimestamp (host : ByteOrder) {raw : List UInt8}
    (h : raw.length = 6) : encodeTimestamp host (decodeTimestamp host raw) = raw := by
  rw [encodeTimestamp_eq, toNat_decodeTimestamp host h, ByteOrder.bytes_value_of_length _ h]

/-! ### Host independence and order -/

theorem decodeTimestamp_host (host host' : ByteOrder) {raw : List UInt8} (h : raw.length = 6) :
    decodeTimestamp host raw = decodeTimestamp host' raw := by
  rw [decodeTimestamp_eq host h, decodeTimestamp_eq host' h]

theorem encodeTimestamp_mod (host : ByteOrder) (ts : BitVec 64) :
    encodeTimestamp host ts = ByteOrder.big.bytes 6 (ts.toNat % 2 ^ 48) := by
  rw [encodeTimestamp_eq]
  exact (ByteOrder.big.bytes_mod 6 ts.toNat).symm

/-- Hosts of either byte order write the six low bytes of a timestamp most significant
first and read each other's timestamps, and the bytes are ordered like the timestamps. -/
theorem timestamp_codec (host host' : ByteOrder) :
    (∀ ts : BitVec 64,
      encodeTimestamp host ts = ByteOrder.big.bytes 6 (ts.toNat % 2 ^ 48) ∧
      (decodeTimestamp host' (encodeTimestamp host ts)).toNat = ts.toNat % 2 ^ 48) ∧
    (∀ raw : List UInt8, raw.length = 6 →
      decodeTimestamp host raw = decodeTimestamp host' raw ∧
      encodeTimestamp host' (decodeTimestamp host raw) = raw ∧
      (decodeTimestamp host raw).toNat < 2 ^ 48) ∧
    ∀ raw raw' : List UInt8, raw.length = 6 → raw'.length = 6 →
      (raw < raw' ↔ (decodeTimestamp host raw).toNat < (decodeTimestamp host' raw').toNat) := by
  refine ⟨fun ts => ⟨encodeTimestamp_mod host ts, ?_⟩, fun raw h => ⟨?_, ?_, ?_⟩, ?_⟩
  · rw [decodeTimestamp_host host' host (length_encodeTimestamp host ts),
      toNat_decodeTimestamp_encodeTimestamp]
  · exact decodeTimestamp_host host host' h
  · rw [decodeTimestamp_host host host' h, encodeTimestamp_decodeTimestamp host' h]
  · exact toNat_decodeTimestamp_lt host h
  · intro raw raw' h h'
    rw [toNat_decodeTimestamp host h, toNat_decodeTimestamp host' h',
      ByteOrder.big_value_lt_iff (h.trans h'.symm)]

/-- One nanosecond before 256 nanoseconds, each on its own host. -/
theorem timestamp_codec_order :
    ([0, 0, 0, 0, 0, 255] : List UInt8) < [0, 0, 0, 0, 1, 0] ∧
      encodeTimestamp .big (decodeTimestamp .little [0, 0, 0, 0, 1, 0]) = [0, 0, 0, 0, 1, 0] := by
  have h := timestamp_codec .little .big
  constructor
  · exact (h.2.2 [0, 0, 0, 0, 0, 255] [0, 0, 0, 0, 1, 0] rfl rfl).mpr (by decide)
  · exact (h.2.1 [0, 0, 0, 0, 1, 0] rfl).2.1

end MdPrsr.Itch
