import Oxpulse.Foundation.FirstSeen
import Oxpulse.MeshCore.Dedupe
import Oxpulse.MeshCore.Geohash

/-!
# Channels

A channel (`channel.ts`) is named by the first four bytes of the BLAKE3 hash of a
geohash and a day. A device also listens to the channels of eight points around it,
which are 0.18 degrees away. A cell is 0.17578125 degrees high, so a point that is
close to the edge of its row steps over the next one (`neighbours_cover_iff`).

BLAKE3 is a library. `blake3Block` is what it is specified to be on inputs of at most
64 bytes, to evaluate the model on; the results hold for any function.
-/

namespace Oxpulse.MeshCore

open Oxpulse.Crypto

def GEOHASH_CELL_OFFSET_DEG : ℚ := 18 / 100
def CHANNEL_ID_HASH_BYTE_COUNT : ℕ := 4

/-! ## `Date` -/

/-- Milliseconds since the epoch, within the range of a valid date. -/
structure Date : Type where
  ms : ℤ
  valid : -8640000000000000 ≤ ms ∧ ms ≤ 8640000000000000

namespace Date

/-- Decimal digits, with leading zeros. -/
def decimal (width n : ℕ) : List Char :=
  ((List.range width).map fun i => Nat.digitChar (n / 10 ^ i % 10)).reverse

/-- Year, month and day of a number of days since the epoch, in the proleptic Gregorian
calendar. A year begins in March here, so that the leap day is its last one. -/
def civil (days : ℤ) : ℤ × ℕ × ℕ :=
  let z := days + 719468
  let dayOfEra := (z % 146097).toNat
  let yearOfEra :=
    (dayOfEra - dayOfEra / 1460 + dayOfEra / 36524 - dayOfEra / 146096) / 365
  let dayOfYear := dayOfEra - (365 * yearOfEra + yearOfEra / 4 - yearOfEra / 100)
  let fromMarch := (5 * dayOfYear + 2) / 153
  let day := dayOfYear - (153 * fromMarch + 2) / 5 + 1
  let month := if fromMarch < 10 then fromMarch + 3 else fromMarch - 9
  (z / 146097 * 400 + yearOfEra + (if month ≤ 2 then 1 else 0), month, day)

def yearString (year : ℤ) : List Char :=
  if 0 ≤ year ∧ year ≤ 9999 then decimal 4 year.toNat
  else (if year < 0 then '-' else '+') :: decimal 6 year.natAbs

def toISOString (date : Date) : List Char :=
  let (year, month, day) := civil (date.ms / 86400000)
  let time := (date.ms % 86400000).toNat
  yearString year ++ '-' :: decimal 2 month ++ '-' :: decimal 2 day ++
    'T' :: decimal 2 (time / 3600000) ++ ':' :: decimal 2 (time / 60000 % 60) ++
    ':' :: decimal 2 (time / 1000 % 60) ++ '.' :: decimal 3 (time % 1000) ++ ['Z']

/-- The first millisecond of 2026. -/
def sample : Date := ⟨1767225600000, by decide⟩

example : sample.toISOString = "2026-01-01T00:00:00.000Z".toList := by decide +kernel

end Date

/-! ## Channel ids -/

structure ChannelId : Type where
  hash : Bytes
  hex : JsString
  geohash : List Char
  dayUtc : List Char
deriving DecidableEq

section Channel

variable (blake3 : Bytes → Bytes)

def channelIdHash (lat lon : ℚ) (date : Date) : ChannelId :=
  let geohash := encodeGeohash lat lon GEOHASH_LENGTH
  let dayUtc := date.toISOString.take 10
  let input := textEncode (String.ofList (geohash ++ dayUtc))
  let hash := (blake3 input).take CHANNEL_ID_HASH_BYTE_COUNT
  { hash, hex := bytesToHex hash, geohash, dayUtc }

/-- `for (let d = -1; d <= 1; d++)` -/
def around : List ℚ := [-1, 0, 1]

def neighboringChannelIds (lat lon : ℚ) (date : Date) : List JsString :=
  firsts id (around.flatMap fun dLat => around.map fun dLon =>
    (channelIdHash blake3 (lat + dLat * GEOHASH_CELL_OFFSET_DEG)
      (lon + dLon * GEOHASH_CELL_OFFSET_DEG) date).hex)

end Channel

/-! ## BLAKE3 of one block -/

def BLAKE3_IV : List UInt32 :=
  [0x6a09e667, 0xbb67ae85, 0x3c6ef372, 0xa54ff53a, 0x510e527f, 0x9b05688c, 0x1f83d9ab, 0x5be0cd19]

def rotateRight (x n : UInt32) : UInt32 := x >>> n ||| x <<< (32 - n)

/-- The quarter round on the words `a b c d` of the state. -/
def mix (a b c d : ℕ) (mx my : UInt32) (v : List UInt32) : List UInt32 :=
  let va := v.getD a 0 + v.getD b 0 + mx
  let vd := rotateRight (v.getD d 0 ^^^ va) 16
  let vc := v.getD c 0 + vd
  let vb := rotateRight (v.getD b 0 ^^^ vc) 12
  let va := va + vb + my
  let vd := rotateRight (vd ^^^ va) 8
  let vc := vc + vd
  let vb := rotateRight (vb ^^^ vc) 7
  (((v.set a va).set b vb).set c vc).set d vd

def blake3Round (m : List UInt32) (v : List UInt32) : List UInt32 :=
  let w := fun i => m.getD i 0
  mix 3 4 9 14 (w 14) (w 15) <| mix 2 7 8 13 (w 12) (w 13) <|
    mix 1 6 11 12 (w 10) (w 11) <| mix 0 5 10 15 (w 8) (w 9) <|
    mix 3 7 11 15 (w 6) (w 7) <| mix 2 6 10 14 (w 4) (w 5) <|
    mix 1 5 9 13 (w 2) (w 3) <| mix 0 4 8 12 (w 0) (w 1) v

def permuted (m : List UInt32) : List UInt32 :=
  [2, 6, 3, 10, 7, 0, 4, 13, 1, 11, 12, 5, 9, 14, 15, 8].map fun i => m.getD i 0

def blake3Rounds : ℕ → List UInt32 → List UInt32 → List UInt32
  | 0, _, v => v
  | n + 1, m, v => blake3Rounds n (permuted m) (blake3Round m v)

def wordAt (bytes : Bytes) (i : ℕ) : UInt32 :=
  (bytes.getD (4 * i) 0).toUInt32 ||| (bytes.getD (4 * i + 1) 0).toUInt32 <<< 8 |||
    (bytes.getD (4 * i + 2) 0).toUInt32 <<< 16 ||| (bytes.getD (4 * i + 3) 0).toUInt32 <<< 24

def wordBytes (w : UInt32) : Bytes :=
  [w.toUInt8, (w >>> 8).toUInt8, (w >>> 16).toUInt8, (w >>> 24).toUInt8]

/-- The hash of at most 64 bytes: one block, the first, last and root one. -/
def blake3Block (input : Bytes) : Bytes :=
  let v := blake3Rounds 7 ((List.range 16).map (wordAt input))
    (BLAKE3_IV ++ BLAKE3_IV.take 4 ++ [0, 0, UInt32.ofNat input.length, 11])
  (List.range 8).flatMap fun i => wordBytes (v.getD i 0 ^^^ v.getD (i + 8) 0)

example : (channelIdHash blake3Block 0 0 .sample).hash = [0xb6, 0xe1, 0xd0, 0x07] := by
  decide +kernel

/-! ## What the nine samples reach -/

section Neighbours

variable {blake3 : Bytes → Bytes} {lat lon lat' lon' : ℚ} {date : Date}

theorem mem_neighboringChannelIds {hex : JsString} :
    hex ∈ neighboringChannelIds blake3 lat lon date ↔
      ∃ dLat ∈ around, ∃ dLon ∈ around,
        (channelIdHash blake3 (lat + dLat * GEOHASH_CELL_OFFSET_DEG)
          (lon + dLon * GEOHASH_CELL_OFFSET_DEG) date).hex = hex := by
  unfold neighboringChannelIds
  rw [mem_firsts_id, List.mem_flatMap]
  simp only [List.mem_map]

theorem exists_around {p : ℚ → Prop} : (∃ d ∈ around, p d) ↔ p (-1) ∨ p 0 ∨ p 1 := by
  simp [around]

/-- A sampled latitude is in the row of the other point. -/
theorem row_sampled_iff (hlat : |lat| ≤ 89) (hnear : |lat - lat'| ≤ GEOHASH_CELL_OFFSET_DEG) :
    (∃ dLat ∈ around, row (lat + dLat * GEOHASH_CELL_OFFSET_DEG) 10 = row lat' 10) ↔
      ¬ SteppedOver (-90) 90 10 GEOHASH_CELL_OFFSET_DEG lat lat' := by
  rw [abs_le] at hlat hnear
  have hoffset : GEOHASH_CELL_OFFSET_DEG = 18 / 100 := rfl
  rw [← sampled_iff (by norm_num) (by rw [hoffset]; linarith) (by rw [hoffset]; linarith)
    (by rw [hoffset]; norm_num) (by linarith) (by linarith), exists_around]
  unfold row
  rw [neg_one_mul, zero_mul, one_mul, add_zero, ← sub_eq_add_neg]
  simp only [eq_comm]

/-- The columns are wider than the offset. -/
theorem column_sampled (hlon : |lon| ≤ 179) (hnear : |lon - lon'| ≤ GEOHASH_CELL_OFFSET_DEG) :
    ∃ dLon ∈ around, column (lon + dLon * GEOHASH_CELL_OFFSET_DEG) 10 = column lon' 10 := by
  rw [abs_le] at hlon hnear
  have hoffset : GEOHASH_CELL_OFFSET_DEG = 18 / 100 := rfl
  have hsampled := (sampled_iff (n := 10) (show (-180 : ℚ) < 180 by norm_num)
    (show -180 ≤ lon - GEOHASH_CELL_OFFSET_DEG by rw [hoffset]; linarith)
    (show lon + GEOHASH_CELL_OFFSET_DEG < 180 by rw [hoffset]; linarith)
    (by rw [hoffset]; norm_num) (show lon - GEOHASH_CELL_OFFSET_DEG ≤ lon' by linarith)
    (by linarith)).mpr (not_steppedOver (by norm_num) (by rw [hoffset]; linarith)
      (by rw [hoffset]; linarith) (by rw [hoffset]; norm_num) (by rw [hoffset]; norm_num))
  rw [exists_around]
  unfold column
  rw [neg_one_mul, zero_mul, one_mul, add_zero, ← sub_eq_add_neg]
  simpa only [eq_comm] using hsampled

/-- The truncated hashes of the cell of the second point and of another sampled cell
are equal. -/
def Collides (blake3 : Bytes → Bytes) (lat lon lat' lon' : ℚ) (date : Date) : Prop :=
  ∃ dLat ∈ around, ∃ dLon ∈ around,
    encodeGeohash (lat + dLat * GEOHASH_CELL_OFFSET_DEG) (lon + dLon * GEOHASH_CELL_OFFSET_DEG)
        GEOHASH_LENGTH ≠ encodeGeohash lat' lon' GEOHASH_LENGTH ∧
      (channelIdHash blake3 (lat + dLat * GEOHASH_CELL_OFFSET_DEG)
        (lon + dLon * GEOHASH_CELL_OFFSET_DEG) date).hex = (channelIdHash blake3 lat' lon' date).hex

/-- **The neighbours of a point cover its surroundings** except for the points in the
next row that a sample steps over. -/
theorem neighbours_cover_iff (blake3 : Bytes → Bytes) (date : Date)
    (hlat : |lat| ≤ 89) (hlon : |lon| ≤ 179)
    (hnear : |lat - lat'| ≤ GEOHASH_CELL_OFFSET_DEG)
    (hnear' : |lon - lon'| ≤ GEOHASH_CELL_OFFSET_DEG) :
    (channelIdHash blake3 lat' lon' date).hex ∈ neighboringChannelIds blake3 lat lon date ↔
      ¬ SteppedOver (-90) 90 10 GEOHASH_CELL_OFFSET_DEG lat lat' ∨
        Collides blake3 lat lon lat' lon' date := by
  rw [mem_neighboringChannelIds, ← row_sampled_iff hlat hnear]
  constructor
  · rintro ⟨dLat, hdLat, dLon, hdLon, hhex⟩
    by_cases hgeohash : encodeGeohash (lat + dLat * GEOHASH_CELL_OFFSET_DEG)
        (lon + dLon * GEOHASH_CELL_OFFSET_DEG) GEOHASH_LENGTH =
          encodeGeohash lat' lon' GEOHASH_LENGTH
    · exact Or.inl ⟨dLat, hdLat, ((encodeGeohash_inj _ _ _ _ _).mp hgeohash).2⟩
    · exact Or.inr ⟨dLat, hdLat, dLon, hdLon, hgeohash, hhex⟩
  · rintro (⟨dLat, hdLat, hrow⟩ | ⟨dLat, hdLat, dLon, hdLon, -, hhex⟩)
    · obtain ⟨dLon, hdLon, hcolumn⟩ := column_sampled hlon hnear'
      have hgeohash := (encodeGeohash_inj _ _ _ _ GEOHASH_LENGTH).mpr ⟨hcolumn, hrow⟩
      refine ⟨dLat, hdLat, dLon, hdLon, ?_⟩
      unfold channelIdHash
      rw [hgeohash]
    · exact ⟨dLat, hdLat, dLon, hdLon, hhex⟩

end Neighbours

/-- The next row is reached from the middle of a cell. -/
theorem neighbours_cover_sample :
    (channelIdHash blake3Block (2 / 10) 0 .sample).hex ∈
      neighboringChannelIds blake3Block (1 / 10) 0 .sample := by
  refine (neighbours_cover_iff blake3Block .sample (by norm_num [abs_le]) (by norm_num)
    (by norm_num [abs_le, GEOHASH_CELL_OFFSET_DEG]) (by norm_num [GEOHASH_CELL_OFFSET_DEG])).mpr
    (Or.inl ?_)
  rw [← row_sampled_iff (by norm_num [abs_le]) (by norm_num [abs_le, GEOHASH_CELL_OFFSET_DEG])]
  exact ⟨1, by decide +kernel, by decide +kernel⟩

/-- Two points on either side of the edge between two rows, some hundred metres apart. -/
theorem edge_of_row_is_missed :
    (channelIdHash blake3Block (176 / 1000) 0 .sample).hex ∉
      neighboringChannelIds blake3Block (175 / 1000) 0 .sample := by
  decide +kernel

end Oxpulse.MeshCore
