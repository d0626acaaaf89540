import Mathlib.Data.List.Induction
import Mathlib.Data.Rat.Floor
import Oxpulse.Foundation.Bisection

/-!
# Geohashes

`encodeGeohash` (`channel.ts`) bisects the longitudes and the latitudes in turn and
makes a character of every five bits. The bits are those of the number of the
point's column and row, interleaved (`encodeGeohash_spec`); so a geohash names a
half-open cell, and the cells of a longer geohash subdivide those of a shorter one.

Coordinates are rational numbers, so that a middle is exact.
-/

namespace Oxpulse.MeshCore

def GEOHASH_LENGTH : ℕ := 4
def GEOHASH_ALPHABET : List Char := "0123456789bcdefghjkmnpqrstuvwxyz".toList

/-- The variables of the loop. -/
structure GeohashLoop : Type where
  latLo : ℚ
  latHi : ℚ
  lonLo : ℚ
  lonHi : ℚ
  geohash : List Char
  bits : ℕ
  bit : ℕ
  evenBit : Bool
deriving DecidableEq

namespace GeohashLoop

def initial : GeohashLoop where
  latLo := -90
  latHi := 90
  lonLo := -180
  lonHi := 180
  geohash := []
  bits := 0
  bit := 0
  evenBit := true

def bisectLon (lon : ℚ) (s : GeohashLoop) : GeohashLoop :=
  let (bit, lonLo, lonHi) := halve lon s.lonLo s.lonHi
  { s with bits := 2 * s.bits + bit.toNat, lonLo, lonHi }

def bisectLat (lat : ℚ) (s : GeohashLoop) : GeohashLoop :=
  let (bit, latLo, latHi) := halve lat s.latLo s.latHi
  { s with bits := 2 * s.bits + bit.toNat, latLo, latHi }

/-- One turn of the loop. -/
def step (lat lon : ℚ) (s : GeohashLoop) : GeohashLoop :=
  let s := if s.evenBit then s.bisectLon lon else s.bisectLat lat
  let s := { s with evenBit := !s.evenBit, bit := s.bit + 1 }
  if s.bit = 5 then
    { s with geohash := s.geohash ++ [GEOHASH_ALPHABET.getD s.bits '0'], bits := 0, bit := 0 }
  else s

/-- `while (geohash.length < precision)`, for at most so many turns. -/
def loop (lat lon : ℚ) (precision : ℕ) : ℕ → GeohashLoop → GeohashLoop
  | 0, s => s
  | turns + 1, s =>
      if s.geohash.length < precision then loop lat lon precision turns (s.step lat lon) else s

end GeohashLoop

/-- Five turns make a character, so the loop has ended by then (`loop_ends`). -/
def encodeGeohash (lat lon : ℚ) (precision : ℕ) : List Char :=
  (GeohashLoop.initial.loop lat lon precision (5 * precision)).geohash

example : encodeGeohash 0 0 GEOHASH_LENGTH = "s000".toList := by decide +kernel

/-! ## Reading bits -/

/-- The number with these bits, the first one highest. -/
def readBits (bits : List Bool) : ℕ := bits.foldl (fun n bit => 2 * n + bit.toNat) 0

theorem readBits_concat (bits : List Bool) (bit : Bool) :
    readBits (bits ++ [bit]) = 2 * readBits bits + bit.toNat := by
  unfold readBits
  rw [List.foldl_append]
  rfl

theorem readBits_lt (bits : List Bool) : readBits bits < 2 ^ bits.length := by
  induction bits using List.reverseRecOn with
  | nil => exact Nat.one_pos
  | append_singleton bits bit ih =>
      have hbit := bit.toNat_le
      rw [readBits_concat, List.length_append, List.length_singleton, pow_succ]
      omega

theorem readBits_injective : ∀ {bits bits' : List Bool}, bits.length = bits'.length →
    readBits bits = readBits bits' → bits = bits' := by
  intro bits
  induction bits using List.reverseRecOn with
  | nil => exact fun hlen _ => (List.eq_nil_of_length_eq_zero hlen.symm).symm
  | append_singleton bits bit ih =>
      intro bits' hlen heq
      obtain ⟨bits'', bit', rfl⟩ := List.eq_nil_or_concat' bits' |>.resolve_left (by
        rintro rfl
        simp at hlen)
      rw [List.length_append, List.length_append] at hlen
      rw [readBits_concat, readBits_concat] at heq
      have hbits : bit.toNat = bit'.toNat := by
        have := bit.toNat_le
        have := bit'.toNat_le
        omega
      have hbit : bit = bit' := by
        cases bit <;> cases bit'
        · rfl
        · cases hbits
        · cases hbits
        · rfl
      rw [ih (Nat.add_right_cancel hlen) (by omega), hbit]

/-- The character of the five bits from one on. -/
def charAt (bit : ℕ → Bool) (c : ℕ) : Char :=
  GEOHASH_ALPHABET.getD (readBits ((List.range' (5 * c) 5).map bit)) '0'

/-- The base-32 reading of a sequence of bits. -/
def base32 (bit : ℕ → Bool) (precision : ℕ) : List Char := (List.range precision).map (charAt bit)

theorem alphabet_injective : ∀ i < 32, ∀ j < 32,
    GEOHASH_ALPHABET.getD i '0' = GEOHASH_ALPHABET.getD j '0' → i = j := by
  decide +kernel

theorem base32_congr {bit bit' : ℕ → Bool} {precision : ℕ}
    (h : ∀ i < 5 * precision, bit i = bit' i) : base32 bit precision = base32 bit' precision := by
  refine List.map_congr_left fun c hc => ?_
  unfold charAt
  congr 2
  refine List.map_congr_left fun i hi => h i ?_
  rw [List.mem_range] at hc
  rw [List.mem_range'_1] at hi
  omega

/-- The characters tell the bits. -/
theorem base32_eq_iff {bit bit' : ℕ → Bool} {precision : ℕ} :
    base32 bit precision = base32 bit' precision ↔ ∀ i < 5 * precision, bit i = bit' i := by
  refine ⟨fun h i hi => ?_, base32_congr⟩
  have hchar : charAt bit (i / 5) = charAt bit' (i / 5) :=
    List.map_inj_left.mp h (i / 5) (List.mem_range.mpr (by omega))
  have hlt : ∀ f : ℕ → Bool, readBits ((List.range' (5 * (i / 5)) 5).map f) < 32 := by
    intro f
    have hlt := readBits_lt ((List.range' (5 * (i / 5)) 5).map f)
    rwa [List.length_map, List.length_range'] at hlt
  have hbits := readBits_injective (by rw [List.length_map, List.length_map])
    (alphabet_injective _ (hlt bit) _ (hlt bit') hchar)
  exact List.map_inj_left.mp hbits i (List.mem_range'_1.mpr (by omega))

/-! ## The loop -/

def column (lon : ℚ) (n : ℕ) : ℕ := slot (-180) 180 lon n

def row (lat : ℚ) (n : ℕ) : ℕ := slot (-90) 90 lat n

/-- The bits in the order in which the loop finds them. -/
def pointBit (lat lon : ℚ) (i : ℕ) : Bool :=
  if i % 2 = 0 then decide (edge (-180) 180 (i / 2 + 1) (2 * column lon (i / 2) + 1) ≤ lon)
  else decide (edge (-90) 90 (i / 2 + 1) (2 * row lat (i / 2) + 1) ≤ lat)

namespace GeohashLoop

/-- The variables after so many turns. -/
def after (lat lon : ℚ) (k : ℕ) : GeohashLoop where
  latLo := edge (-90) 90 (k / 2) (row lat (k / 2))
  latHi := edge (-90) 90 (k / 2) (row lat (k / 2) + 1)
  lonLo := edge (-180) 180 ((k + 1) / 2) (column lon ((k + 1) / 2))
  lonHi := edge (-180) 180 ((k + 1) / 2) (column lon ((k + 1) / 2) + 1)
  geohash := base32 (pointBit lat lon) (k / 5)
  bits := readBits ((List.range' (5 * (k / 5)) (k % 5)).map (pointBit lat lon))
  bit := k % 5
  evenBit := k % 2 = 0

theorem after_zero (lat lon : ℚ) : after lat lon 0 = initial := by
  have hcolumn : column lon 0 = 0 := Nat.lt_one_iff.mp (slot_lt _ _ _ _)
  have hrow : row lat 0 = 0 := Nat.lt_one_iff.mp (slot_lt _ _ _ _)
  unfold after initial edge
  simp only [Nat.zero_div, Nat.zero_add, Nat.reduceDiv, hcolumn, hrow]
  norm_num [base32, readBits]

variable {lat lon : ℚ} {k : ℕ}

/-- The bisection of a turn with its bit; the rest of the turn is `regroup`. -/
def bisect (lat lon : ℚ) (s : GeohashLoop) : GeohashLoop :=
  if s.evenBit then s.bisectLon lon else s.bisectLat lat

def regroup (s : GeohashLoop) : GeohashLoop :=
  let s := { s with evenBit := !s.evenBit, bit := s.bit + 1 }
  if s.bit = 5 then
    { s with geohash := s.geohash ++ [GEOHASH_ALPHABET.getD s.bits '0'], bits := 0, bit := 0 }
  else s

theorem step_eq (lat lon : ℚ) (s : GeohashLoop) : s.step lat lon = (s.bisect lat lon).regroup := rfl

theorem bits_succ (lat lon : ℚ) (k : ℕ) :
    readBits ((List.range' (5 * (k / 5)) (k % 5 + 1)).map (pointBit lat lon)) =
      2 * (after lat lon k).bits + (pointBit lat lon k).toNat := by
  have hk : 5 * (k / 5) + 1 * (k % 5) = k := by omega
  rw [List.range'_concat, List.map_append, List.map_singleton, readBits_concat, hk]
  rfl

/-- The interval of the turn is halved and the bit is appended. -/
theorem bisect_after (lat lon : ℚ) (k : ℕ) :
    (after lat lon k).bisect lat lon =
      { after lat lon (k + 1) with
        geohash := (after lat lon k).geohash
        bits := 2 * (after lat lon k).bits + (pointBit lat lon k).toNat
        bit := k % 5
        evenBit := k % 2 = 0 } := by
  unfold bisect
  by_cases heven : k % 2 = 0
  · have hhalf : (k + 1) / 2 = k / 2 := by omega
    have hnext : (k + 1 + 1) / 2 = k / 2 + 1 := by omega
    have hbit : pointBit lat lon k =
        decide (edge (-180) 180 (k / 2 + 1) (2 * column lon (k / 2) + 1) ≤ lon) := if_pos heven
    have hhalve := halve_edge (show (-180 : ℚ) < 180 by norm_num) lon (k / 2)
    rw [if_pos (show (after lat lon k).evenBit = true from decide_eq_true heven), hbit]
    unfold bisectLon after column
    dsimp only
    rw [hhalf, hnext, hhalve]
  · have hhalf : (k + 1) / 2 = k / 2 + 1 := by omega
    have hnext : (k + 1 + 1) / 2 = k / 2 + 1 := by omega
    have hbit : pointBit lat lon k =
        decide (edge (-90) 90 (k / 2 + 1) (2 * row lat (k / 2) + 1) ≤ lat) := if_neg heven
    have hhalve := halve_edge (show (-90 : ℚ) < 90 by norm_num) lat (k / 2)
    have hodd : ¬ (after lat lon k).evenBit = true := fun h => heven (of_decide_eq_true h)
    rw [if_neg hodd, hbit]
    unfold bisectLat after row
    dsimp only
    rw [hhalf, hnext, hhalve]

/-- **One turn.** -/
theorem step_after (lat lon : ℚ) (k : ℕ) :
    (after lat lon k).step lat lon = after lat lon (k + 1) := by
  have hbits := bits_succ lat lon k
  have hparity : (!decide (k % 2 = 0)) = decide ((k + 1) % 2 = 0) := by
    rw [← decide_not, decide_eq_decide]
    omega
  rw [step_eq, bisect_after]
  unfold regroup
  dsimp only
  by_cases hfull : k % 5 + 1 = 5
  · rw [if_pos hfull, ← hbits, hparity, hfull]
    have hdiv : (k + 1) / 5 = k / 5 + 1 := by omega
    have hmod : (k + 1) % 5 = 0 := by omega
    unfold after
    rw [hdiv, hmod, base32, base32, List.range_succ, List.map_append]
    rfl
  · rw [if_neg hfull, ← hbits, hparity]
    have hdiv : (k + 1) / 5 = k / 5 := by omega
    have hmod : (k + 1) % 5 = k % 5 + 1 := by omega
    unfold after
    rw [hdiv, hmod]

theorem loop_after (lat lon : ℚ) (precision turns : ℕ) : ∀ k, k + turns = 5 * precision →
    (after lat lon k).loop lat lon precision turns = after lat lon (5 * precision) := by
  induction turns with
  | zero =>
      intro k hk
      rw [← hk]
      rfl
  | succ turns ih =>
      intro k hk
      have hshort : (after lat lon k).geohash.length < precision := by
        show ((List.range (k / 5)).map _).length < precision
        rw [List.length_map, List.length_range]
        omega
      unfold loop
      rw [if_pos hshort, step_after]
      exact ih (k + 1) (by omega)

/-- The loop has ended when its turns are used up. -/
theorem loop_ends (lat lon : ℚ) (precision : ℕ) :
    ¬ (initial.loop lat lon precision (5 * precision)).geohash.length < precision := by
  rw [← after_zero lat lon, loop_after lat lon precision _ 0 (Nat.zero_add _)]
  show ¬ ((List.range (5 * precision / 5)).map _).length < precision
  rw [List.length_map, List.length_range]
  omega

end GeohashLoop

theorem encodeGeohash_eq (lat lon : ℚ) (precision : ℕ) :
    encodeGeohash lat lon precision = base32 (pointBit lat lon) precision := by
  unfold encodeGeohash
  rw [← GeohashLoop.after_zero lat lon,
    GeohashLoop.loop_after lat lon precision _ 0 (Nat.zero_add _)]
  show base32 (pointBit lat lon) (5 * precision / 5) = _
  rw [Nat.mul_div_cancel_left _ (by decide)]

/-! ## The cell of a point -/

/-- The number of the part of `v`, out of `2 ^ n` parts from `lo` on. -/
def clampedFloor (v lo width : ℚ) (n : ℕ) : ℤ :=
  max 0 (min ⌊(v - lo) / width * 2 ^ n⌋ (2 ^ n - 1))

/-- The bits of a column and of a row in turn, the highest ones first. -/
def interleaved (x y a b i : ℕ) : Bool :=
  if i % 2 = 0 then x.testBit (a - 1 - i / 2) else y.testBit (b - 1 - i / 2)

/-- The half-open cell in this column and row; a cell at the edge of the map takes
what lies beyond it. -/
def InCell (precision x y : ℕ) (lat lon : ℚ) : Prop :=
  let a := (5 * precision + 1) / 2
  let b := 5 * precision / 2
  ((x = 0 ∨ -180 + x * (360 / 2 ^ a) ≤ lon) ∧
    (x + 1 = 2 ^ a ∨ lon < -180 + (x + 1) * (360 / 2 ^ a))) ∧
  ((y = 0 ∨ -90 + y * (180 / 2 ^ b) ≤ lat) ∧
    (y + 1 = 2 ^ b ∨ lat < -90 + (y + 1) * (180 / 2 ^ b)))

theorem clampedFloor_eq (v : ℚ) {lo hi : ℚ} (n : ℕ) :
    (clampedFloor v lo (hi - lo) n).toNat = slot lo hi v n := by
  have hpos : 0 < 2 ^ n := Nat.two_pow_pos n
  have hfloor := Int.floor_toNat ((v - lo) / (hi - lo) * 2 ^ n)
  have hcast : ((2 ^ n : ℕ) : ℤ) = 2 ^ n := by push_cast; rfl
  unfold clampedFloor slot
  rw [← hfloor]
  omega

theorem column_eq (lon : ℚ) (n : ℕ) : (clampedFloor lon (-180) 360 n).toNat = column lon n := by
  rw [show (360 : ℚ) = 180 - -180 by norm_num]
  exact clampedFloor_eq lon n

theorem row_eq (lat : ℚ) (n : ℕ) : (clampedFloor lat (-90) 180 n).toNat = row lat n := by
  rw [show (180 : ℚ) = 90 - -90 by norm_num]
  exact clampedFloor_eq lat n

theorem inCell_iff {precision x y : ℕ} {lat lon : ℚ} (hx : x < 2 ^ ((5 * precision + 1) / 2))
    (hy : y < 2 ^ (5 * precision / 2)) :
    InCell precision x y lat lon ↔
      column lon ((5 * precision + 1) / 2) = x ∧ row lat (5 * precision / 2) = y := by
  unfold column row
  rw [slot_eq_iff (show (-180 : ℚ) < 180 by norm_num) hx,
    slot_eq_iff (show (-90 : ℚ) < 90 by norm_num) hy]
  unfold InCell edge
  rw [show (180 : ℚ) - -180 = 360 by norm_num, show (90 : ℚ) - -90 = 180 by norm_num]
  push_cast
  rfl

theorem pointBit_eq {precision i : ℕ} (lat lon : ℚ) (hi : i < 5 * precision) :
    pointBit lat lon i =
      interleaved (column lon ((5 * precision + 1) / 2)) (row lat (5 * precision / 2))
        ((5 * precision + 1) / 2) (5 * precision / 2) i := by
  unfold pointBit interleaved
  by_cases heven : i % 2 = 0
  · rw [if_pos heven, if_pos heven]
    exact (testBit_slot (show (-180 : ℚ) < 180 by norm_num) lon (by omega)).symm
  · rw [if_neg heven, if_neg heven]
    exact (testBit_slot (show (-90 : ℚ) < 90 by norm_num) lat (by omega)).symm

/-- Interleaved bits determine the column and the row. -/
theorem interleaved_inj {precision x y x' y' : ℕ} (hx : x < 2 ^ ((5 * precision + 1) / 2))
    (hx' : x' < 2 ^ ((5 * precision + 1) / 2)) (hy : y < 2 ^ (5 * precision / 2))
    (hy' : y' < 2 ^ (5 * precision / 2))
    (h : ∀ i < 5 * precision,
      interleaved x y ((5 * precision + 1) / 2) (5 * precision / 2) i =
        interleaved x' y' ((5 * precision + 1) / 2) (5 * precision / 2) i) :
    x = x' ∧ y = y' := by
  constructor
  · refine Nat.eq_of_testBit_eq fun j => ?_
    rcases Nat.lt_or_ge j ((5 * precision + 1) / 2) with hj | hj
    · have hbit := h (2 * ((5 * precision + 1) / 2 - 1 - j)) (by omega)
      unfold interleaved at hbit
      rw [if_pos (by omega), if_pos (by omega),
        show (5 * precision + 1) / 2 - 1 - 2 * ((5 * precision + 1) / 2 - 1 - j) / 2 = j by
          omega] at hbit
      exact hbit
    · have hle := Nat.pow_le_pow_right Nat.two_pos hj
      rw [Nat.testBit_lt_two_pow (hx.trans_le hle), Nat.testBit_lt_two_pow (hx'.trans_le hle)]
  · refine Nat.eq_of_testBit_eq fun j => ?_
    rcases Nat.lt_or_ge j (5 * precision / 2) with hj | hj
    · have hbit := h (2 * (5 * precision / 2 - 1 - j) + 1) (by omega)
      unfold interleaved at hbit
      rw [if_neg (by omega), if_neg (by omega),
        show 5 * precision / 2 - 1 - (2 * (5 * precision / 2 - 1 - j) + 1) / 2 = j by
          omega] at hbit
      exact hbit
    · have hle := Nat.pow_le_pow_right Nat.two_pos hj
      rw [Nat.testBit_lt_two_pow (hy.trans_le hle), Nat.testBit_lt_two_pow (hy'.trans_le hle)]

/-- Two points have one geohash if and only if they have one column and one row. -/
theorem encodeGeohash_inj (lat lon lat' lon' : ℚ) (precision : ℕ) :
    encodeGeohash lat lon precision = encodeGeohash lat' lon' precision ↔
      column lon ((5 * precision + 1) / 2) = column lon' ((5 * precision + 1) / 2) ∧
        row lat (5 * precision / 2) = row lat' (5 * precision / 2) := by
  rw [encodeGeohash_eq, encodeGeohash_eq, base32_eq_iff]
  constructor
  · intro h
    refine interleaved_inj (slot_lt _ _ _ _) (slot_lt _ _ _ _) (slot_lt _ _ _ _)
      (slot_lt _ _ _ _) fun i hi => ?_
    rw [← pointBit_eq lat lon hi, ← pointBit_eq lat' lon' hi]
    exact h i hi
  · rintro ⟨hcolumn, hrow⟩ i hi
    rw [pointBit_eq lat lon hi, pointBit_eq lat' lon' hi, hcolumn, hrow]

/-- **The geohash is the standard one.** It reads the interleaved bits of the column
and the row of the point, two points have the same one if and only if they lie in the
same half-open cell, and a longer one continues a shorter one. -/
theorem encodeGeohash_spec (lat lon : ℚ) (precision : ℕ) :
    (encodeGeohash lat lon precision =
      base32 (interleaved
        (clampedFloor lon (-180) 360 ((5 * precision + 1) / 2)).toNat
        (clampedFloor lat (-90) 180 (5 * precision / 2)).toNat
        ((5 * precision + 1) / 2) (5 * precision / 2)) precision) ∧
    (∀ lat' lon', encodeGeohash lat lon precision = encodeGeohash lat' lon' precision ↔
      ∃ x < 2 ^ ((5 * precision + 1) / 2), ∃ y < 2 ^ (5 * precision / 2),
        InCell precision x y lat lon ∧ InCell precision x y lat' lon') ∧
    encodeGeohash lat lon precision <+: encodeGeohash lat lon (precision + 1) := by
  refine ⟨?_, fun lat' lon' => ?_, ?_⟩
  · rw [encodeGeohash_eq, column_eq, row_eq]
    exact base32_congr fun i hi => pointBit_eq lat lon hi
  · rw [encodeGeohash_inj]
    constructor
    · rintro ⟨hcolumn, hrow⟩
      exact ⟨_, slot_lt _ _ _ _, _, slot_lt _ _ _ _,
        (inCell_iff (slot_lt _ _ _ _) (slot_lt _ _ _ _)).mpr ⟨rfl, rfl⟩,
        (inCell_iff (slot_lt _ _ _ _) (slot_lt _ _ _ _)).mpr ⟨hcolumn.symm, hrow.symm⟩⟩
    · rintro ⟨x, hx, y, hy, hcell, hcell'⟩
      obtain ⟨hcolumn, hrow⟩ := (inCell_iff hx hy).mp hcell
      obtain ⟨hcolumn', hrow'⟩ := (inCell_iff hx hy).mp hcell'
      exact ⟨hcolumn.trans hcolumn'.symm, hrow.trans hrow'.symm⟩
  · rw [encodeGeohash_eq, encodeGeohash_eq]
    unfold base32
    rw [List.range_succ, List.map_append]
    exact List.prefix_append _ _

end Oxpulse.MeshCore
