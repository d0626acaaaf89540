import Oxpulse.Crypto.Primitives
import Oxpulse.Foundation.InsMap

/-!
# The two filters for frames that were seen

`DedupeCache` (`dedupe.ts`) remembers a bounded number of keys, made of a channel
and a message id, and forgets the oldest one first. `BloomDedup`
(`dedup-bloom.ts`) marks bits that it computes from a message id: what was marked
is always found, and sometimes what was not.

The numbers of bits and of probes come from logarithms (`paramsFor`) and are
parameters here.
-/

namespace Oxpulse.MeshCore

open Oxpulse.Crypto

/-- A string of JavaScript is its code units. -/
abbrev JsString : Type := List UInt16

/-! ## `bytesToHex` -/

def hexDigit (d : ℕ) : UInt16 := UInt16.ofNat (if d < 10 then 48 + d else 87 + d)

def byteToHex (b : UInt8) : JsString := [hexDigit (b.toNat / 16), hexDigit (b.toNat % 16)]

def bytesToHex (bytes : Bytes) : JsString := bytes.flatMap byteToHex

theorem hexDigit_injective : ∀ d < 16, ∀ d' < 16, hexDigit d = hexDigit d' → d = d' := by
  decide

theorem byteToHex_injective {b b' : UInt8} (h : byteToHex b = byteToHex b') : b = b' := by
  have hb := b.toNat_lt
  have hb' := b'.toNat_lt
  injection h with hhigh hlow
  have hdiv := hexDigit_injective _ (by omega) _ (by omega) hhigh
  have hmod := hexDigit_injective _ (by omega) _ (by omega) (List.cons.inj hlow).1
  exact UInt8.toNat_inj.mp (by omega)

theorem length_bytesToHex (bytes : Bytes) : (bytesToHex bytes).length = 2 * bytes.length := by
  induction bytes with
  | nil => rfl
  | cons b bytes ih =>
      show (byteToHex b ++ bytesToHex bytes).length = 2 * (bytes.length + 1)
      rw [List.length_append, ih]
      show 2 + 2 * bytes.length = _
      omega

theorem bytesToHex_injective : ∀ {bytes bytes' : Bytes},
    bytesToHex bytes = bytesToHex bytes' → bytes = bytes'
  | [], [], _ => rfl
  | [], _ :: _, h => nomatch h
  | _ :: _, [], h => nomatch h
  | b :: bytes, b' :: bytes', h => by
      have happend : byteToHex b ++ bytesToHex bytes = byteToHex b' ++ bytesToHex bytes' := h
      obtain ⟨hbyte, hrest⟩ := List.append_inj happend rfl
      rw [byteToHex_injective hbyte, bytesToHex_injective hrest]

/-! ## `dedupe.ts` -/

structure DedupeCache : Type where
  capacity : ℕ
  seen : InsMap JsString Unit

namespace DedupeCache

def defaultCapacity : ℕ := 5000

def new (capacity : ℕ) : DedupeCache := ⟨capacity, .empty⟩

/-- `channelId\x00msgId`. -/
def key (channelId msgId : JsString) : JsString := channelId ++ 0 :: msgId

def hasSeen (channelId msgId : JsString) (cache : DedupeCache) : Bool :=
  cache.seen.has (key channelId msgId)

def markSeen (channelId msgId : JsString) (cache : DedupeCache) : DedupeCache :=
  let k := key channelId msgId
  let seen :=
    if cache.seen.has k then cache.seen.delete k
    else if cache.seen.size ≥ cache.capacity then
      match cache.seen.keys.head? with
      | some oldest => cache.seen.delete oldest
      | none => cache.seen
    else cache.seen
  { cache with seen := seen.set k () }

/-- Clear all entries. -/
def clear (cache : DedupeCache) : DedupeCache := { cache with seen := .empty }

theorem key_inj {c c' m m' : JsString} (hlength : c.length = c'.length)
    (h : key c m = key c' m') : c = c' ∧ m = m' := by
  obtain ⟨hc, hm⟩ := List.append_inj h hlength
  exact ⟨hc, (List.cons.inj hm).2⟩

theorem hasSeen_iff {c m : JsString} {cache : DedupeCache} :
    cache.hasSeen c m = true ↔ key c m ∈ cache.seen.keys :=
  InsMap.get?_isSome

/-- With room for another key, a new one becomes the youngest. -/
theorem keys_markSeen {c m : JsString} {cache : DedupeCache}
    (hnew : cache.hasSeen c m = false) (hroom : cache.seen.keys.length < cache.capacity) :
    (cache.markSeen c m).seen.keys = cache.seen.keys ++ [key c m] := by
  have hhas : cache.seen.has (key c m) = false := hnew
  have hsize : ¬ cache.seen.size ≥ cache.capacity := by
    unfold InsMap.keys at hroom
    rw [List.length_map] at hroom
    exact Nat.not_le.mpr hroom
  unfold markSeen
  dsimp only
  rw [hhas, if_neg Bool.false_ne_true, if_neg hsize]
  exact InsMap.keys_set_new (by rwa [← Option.not_isSome_iff_eq_none, Bool.not_eq_true])

end DedupeCache

/-! ## `dedup-bloom.ts` -/

def rotl (x : UInt32) (r : UInt32) : UInt32 := (x <<< r) ||| (x >>> (32 - r))

def mixK (k : UInt32) : UInt32 := rotl (k * 0xcc9e2d51) 15 * 0x1b873593

/-- The blocks of four code units, then those that are left. -/
def murmurBlocks : UInt32 → JsString → UInt32
  | h, a :: b :: c :: d :: rest =>
      let k := low a ||| (low b <<< 8) ||| (low c <<< 16) ||| (low d <<< 24)
      murmurBlocks (rotl (h ^^^ mixK k) 13 * 5 + 0xe6546b64) rest
  | h, tail =>
      let kTail := low (tail.getD 0 0) ^^^ (low (tail.getD 1 0) <<< 8) ^^^
        (low (tail.getD 2 0) <<< 16)
      if kTail ≠ 0 then h ^^^ mixK kTail else h
where
  low (unit : UInt16) : UInt32 := unit.toUInt32 &&& 0xff

def murmur3_32 (input : JsString) (seed : UInt32) : UInt32 :=
  let h := murmurBlocks seed input ^^^ UInt32.ofNat input.length
  let h := (h ^^^ (h >>> 16)) * 0x85ebca6b
  let h := (h ^^^ (h >>> 13)) * 0xc2b2ae35
  h ^^^ (h >>> 16)

/-- The bits fill `⌈m / 8⌉` bytes. -/
structure BloomDedup : Type where
  bits : Bytes
  m : ℕ
  k : ℕ
  m_pos : 0 < m
  length_bits : bits.length = (m + 7) / 8

namespace BloomDedup

def new (m k : ℕ) (m_pos : 0 < m) : BloomDedup where
  bits := List.replicate ((m + 7) / 8) 0
  m := m
  k := k
  m_pos := m_pos
  length_bits := List.length_replicate

/-- The bits of a message id. -/
def probes (m k : ℕ) (msgId : JsString) : List ℕ :=
  let h1 := murmur3_32 msgId 0
  let h2 := murmur3_32 msgId 0xdeadbeef
  let h2 := if h2 = 0 then 1 else h2
  (List.range k).map fun i => (h1 + UInt32.ofNat i * h2).toNat % m

def mask (bit : ℕ) : UInt8 := 1 <<< UInt8.ofNat (bit % 8)

def hasBit (bits : Bytes) (bit : ℕ) : Bool := bits.getD (bit / 8) 0 &&& mask bit ≠ 0

def setBit (bits : Bytes) (bit : ℕ) : Bytes :=
  bits.set (bit / 8) (bits.getD (bit / 8) 0 ||| mask bit)

def hasSeen (msgId : JsString) (bloom : BloomDedup) : Bool :=
  (probes bloom.m bloom.k msgId).all (hasBit bloom.bits)

theorem length_foldl_setBit (probes : List ℕ) (bits : Bytes) :
    (probes.foldl setBit bits).length = bits.length := by
  induction probes generalizing bits with
  | nil => rfl
  | cons bit probes ih =>
      rw [List.foldl_cons, ih]
      exact List.length_set

def markSeen (msgId : JsString) (bloom : BloomDedup) : BloomDedup :=
  { bloom with
    bits := (probes bloom.m bloom.k msgId).foldl setBit bloom.bits
    length_bits := by rw [length_foldl_setBit, bloom.length_bits] }

/-! ### No false negatives -/

theorem mask_ne_zero (bit : ℕ) : mask bit ≠ 0 := by
  have hall : ∀ j < 8, (1 : UInt8) <<< UInt8.ofNat j ≠ 0 := by decide
  exact hall _ (Nat.mod_lt _ (by decide))

theorem or_and (a b c : UInt8) : (a ||| b) &&& c = (a &&& c) ||| (b &&& c) :=
  UInt8.toBitVec_inj.mp (by simp [BitVec.and_or_distrib_right])

theorem hasBit_setBit_of_hasBit {bits : Bytes} {bit bit' : ℕ} (h : hasBit bits bit = true) :
    hasBit (setBit bits bit') bit = true := by
  unfold hasBit setBit at *
  rw [decide_eq_true_eq] at h ⊢
  by_cases hbyte : bit' / 8 = bit / 8
  · rw [hbyte]
    by_cases hlt : bit / 8 < bits.length
    · rw [List.getD_eq_getElem?_getD, List.getElem?_set_self hlt, Option.getD_some, or_and]
      intro hzero
      exact h (UInt8.or_eq_zero_iff.mp hzero).1
    · rwa [List.set_eq_of_length_le (Nat.not_lt.mp hlt)]
  · rw [List.getD_eq_getElem?_getD, List.getElem?_set_ne hbyte, ← List.getD_eq_getElem?_getD]
    exact h

theorem hasBit_setBit {bits : Bytes} {bit : ℕ} (hbit : bit / 8 < bits.length) :
    hasBit (setBit bits bit) bit = true := by
  unfold hasBit setBit
  rw [decide_eq_true_eq, List.getD_eq_getElem?_getD, List.getElem?_set_self hbit,
    Option.getD_some, or_and, UInt8.and_self]
  intro hzero
  exact mask_ne_zero bit (UInt8.or_eq_zero_iff.mp hzero).2

theorem hasBit_foldl {probes : List ℕ} {bits : Bytes} {bit : ℕ} (h : hasBit bits bit = true) :
    hasBit (probes.foldl setBit bits) bit = true := by
  induction probes generalizing bits with
  | nil => exact h
  | cons bit' probes ih => exact ih (hasBit_setBit_of_hasBit h)

theorem hasBit_foldl_mem {probes : List ℕ} {bits : Bytes} {bit : ℕ} (hmem : bit ∈ probes)
    (hbit : bit / 8 < bits.length) : hasBit (probes.foldl setBit bits) bit = true := by
  induction probes generalizing bits with
  | nil => exact absurd hmem List.not_mem_nil
  | cons bit' probes ih =>
      rw [List.foldl_cons]
      rcases List.mem_cons.mp hmem with rfl | hmem
      · exact hasBit_foldl (hasBit_setBit hbit)
      · refine ih hmem ?_
        unfold setBit
        rwa [List.length_set]

/-- What was seen stays seen. -/
theorem hasSeen_markSeen_of_hasSeen {bloom : BloomDedup} {msgId msgId' : JsString}
    (h : bloom.hasSeen msgId = true) : (bloom.markSeen msgId').hasSeen msgId = true := by
  unfold hasSeen at *
  rw [List.all_eq_true] at h ⊢
  exact fun bit hbit => hasBit_foldl (h bit hbit)

/-- The bits of a message id lie within the bytes of the filter. -/
theorem probe_lt (bloom : BloomDedup) (msgId : JsString) :
    ∀ bit ∈ probes bloom.m bloom.k msgId, bit / 8 < bloom.bits.length := by
  intro bit hbit
  obtain ⟨i, -, rfl⟩ := List.mem_map.mp hbit
  have hlt := Nat.mod_lt (murmur3_32 msgId 0 + UInt32.ofNat i *
    (if murmur3_32 msgId 0xdeadbeef = 0 then 1 else murmur3_32 msgId 0xdeadbeef)).toNat
    bloom.m_pos
  rw [bloom.length_bits]
  show _ % bloom.m / 8 < _
  omega

/-- **No false negative**: what is marked is seen. -/
theorem hasSeen_markSeen (bloom : BloomDedup) (msgId : JsString) :
    (bloom.markSeen msgId).hasSeen msgId = true := by
  unfold hasSeen
  rw [List.all_eq_true]
  exact fun bit hbit => hasBit_foldl_mem hbit (bloom.probe_lt msgId bit hbit)

end BloomDedup

/-- The hash of a text that other implementations agree on. -/
example : murmur3_32 ("The quick brown fox jumps over the lazy dog".toList.map
    fun c => UInt16.ofNat c.toNat) 0 = 0x2e4ff723 := by
  decide +kernel

end Oxpulse.MeshCore
