import Mathlib.Algebra.Order.Floor.Semiring
import Mathlib.Data.Nat.Bitwise
import Mathlib.Tactic.FieldSimp
import Mathlib.Tactic.Linarith
import Mathlib.Tactic.Ring

/-!
# Bisecting an interval

An interval is halved again and again, and each time the half that holds a point
is kept. `slot lo hi v n` is the closed form: the number of the part of `v` when
the interval is cut into `2 ^ n` equal parts, where what lies outside the interval
counts for the part at that end. A halving doubles the number and adds the bit that
tells the halves apart (`halve_edge`), so the bits of the number are those of the
bisection, the first one highest (`testBit_slot`).
-/

namespace Oxpulse

variable {K : Type*} [Field K]

/-- The bit of a halving, and the half that is kept. -/
def halve [LinearOrder K] (v lo hi : K) : Bool × K × K :=
  let mid := (lo + hi) / 2
  if mid ≤ v then (true, mid, hi) else (false, lo, mid)

/-- Where the part with this number begins. -/
def edge (lo hi : K) (n i : ℕ) : K := lo + i * ((hi - lo) / 2 ^ n)

def slot [LinearOrder K] [FloorSemiring K] (lo hi v : K) (n : ℕ) : ℕ :=
  min ⌊(v - lo) / (hi - lo) * 2 ^ n⌋₊ (2 ^ n - 1)

section Edge

variable {lo hi : K}

theorem edge_add (n i k : ℕ) :
    edge lo hi n (i + k) = edge lo hi n i + k * ((hi - lo) / 2 ^ n) := by
  unfold edge
  push_cast
  ring

variable [LinearOrder K] [IsStrictOrderedRing K]

theorem edge_succ (n i : ℕ) : edge lo hi (n + 1) (2 * i) = edge lo hi n i := by
  unfold edge
  rw [pow_succ]
  push_cast
  field_simp

/-- The middle of a part. -/
theorem edge_middle (n i : ℕ) :
    (edge lo hi n i + edge lo hi n (i + 1)) / 2 = edge lo hi (n + 1) (2 * i + 1) := by
  unfold edge
  rw [pow_succ]
  push_cast
  field_simp
  ring

theorem edge_strictMono (h : lo < hi) (n : ℕ) : StrictMono (edge lo hi n) := by
  refine strictMono_nat_of_lt_succ fun i => ?_
  have hwidth : 0 < (hi - lo) / 2 ^ n := div_pos (sub_pos.mpr h) (by positivity)
  rw [edge_add, Nat.cast_one, one_mul]
  exact lt_add_of_pos_right _ hwidth

theorem edge_le_iff (h : lo < hi) {v : K} {n i : ℕ} :
    edge lo hi n i ≤ v ↔ (i : K) ≤ (v - lo) / (hi - lo) * 2 ^ n := by
  have hpos : 0 < hi - lo := sub_pos.mpr h
  rw [div_mul_eq_mul_div, le_div_iff₀ hpos]
  unfold edge
  rw [← le_sub_iff_add_le', ← mul_div_assoc, div_le_iff₀ (by positivity)]

end Edge

section Slot

variable [LinearOrder K] [FloorSemiring K] {lo hi v : K} {n i : ℕ}

theorem slot_lt (lo hi v : K) (n : ℕ) : slot lo hi v n < 2 ^ n :=
  (min_le_right _ _).trans_lt (Nat.sub_lt (Nat.two_pow_pos n) Nat.one_pos)

variable [IsStrictOrderedRing K]

/-- **What lies in a part**: the parts are half-open, and the ones at the ends take
what is outside. -/
theorem slot_eq_iff (h : lo < hi) (hi' : i < 2 ^ n) :
    slot lo hi v n = i ↔
      (i = 0 ∨ edge lo hi n i ≤ v) ∧ (i + 1 = 2 ^ n ∨ v < edge lo hi n (i + 1)) := by
  have hlow : i ≤ ⌊(v - lo) / (hi - lo) * 2 ^ n⌋₊ ↔ i = 0 ∨ edge lo hi n i ≤ v := by
    rcases Nat.eq_zero_or_pos i with rfl | hpos
    · exact iff_of_true (Nat.zero_le _) (Or.inl rfl)
    · rw [Nat.le_floor_iff' (Nat.ne_of_gt hpos), edge_le_iff h]
      exact ⟨Or.inr, fun hor => hor.resolve_left (Nat.ne_of_gt hpos)⟩
  have hhigh : ⌊(v - lo) / (hi - lo) * 2 ^ n⌋₊ < i + 1 ↔ v < edge lo hi n (i + 1) := by
    rw [Nat.floor_lt' (Nat.succ_ne_zero i), ← not_le, ← not_le, edge_le_iff h]
  rw [← hlow, ← hhigh]
  unfold slot
  omega

/-- **One halving** doubles the number and adds the bit of the half. -/
theorem slot_succ (h : lo < hi) (v : K) (n : ℕ) :
    slot lo hi v (n + 1) = 2 * slot lo hi v n +
      if edge lo hi (n + 1) (2 * slot lo hi v n + 1) ≤ v then 1 else 0 := by
  have hlt := slot_lt lo hi v n
  obtain ⟨hlow, hhigh⟩ := (slot_eq_iff h hlt).mp rfl
  have hpow : 2 ^ (n + 1) = 2 * 2 ^ n := pow_succ' 2 n
  split
  next hmid =>
    refine (slot_eq_iff h (by omega)).mpr ⟨Or.inr hmid, ?_⟩
    rcases hhigh with hlast | hhigh
    · exact Or.inl (by omega)
    · refine Or.inr ?_
      rw [show 2 * slot lo hi v n + 1 + 1 = 2 * (slot lo hi v n + 1) by ring, edge_succ]
      exact hhigh
  next hmid =>
    refine (slot_eq_iff h (by omega)).mpr ⟨?_, Or.inr (not_le.mp hmid)⟩
    rcases hlow with hfirst | hlow
    · exact Or.inl (by rw [hfirst])
    · rw [Nat.add_zero, edge_succ]
      exact Or.inr hlow

/-- The half of a part that holds the point is a part of the finer division. -/
theorem halve_edge (h : lo < hi) (v : K) (n : ℕ) :
    halve v (edge lo hi n (slot lo hi v n)) (edge lo hi n (slot lo hi v n + 1)) =
      (decide (edge lo hi (n + 1) (2 * slot lo hi v n + 1) ≤ v),
        edge lo hi (n + 1) (slot lo hi v (n + 1)),
        edge lo hi (n + 1) (slot lo hi v (n + 1) + 1)) := by
  unfold halve
  dsimp only
  rw [slot_succ h, edge_middle]
  by_cases hmid : edge lo hi (n + 1) (2 * slot lo hi v n + 1) ≤ v
  · rw [if_pos hmid, if_pos hmid, decide_eq_true hmid,
      show 2 * slot lo hi v n + 1 + 1 = 2 * (slot lo hi v n + 1) by ring, edge_succ]
  · rw [if_neg hmid, if_neg hmid, decide_eq_false hmid, Nat.add_zero (2 * slot lo hi v n),
      edge_succ]

theorem slot_div (h : lo < hi) (v : K) (n k : ℕ) :
    slot lo hi v (n + k) / 2 ^ k = slot lo hi v n := by
  induction k with
  | zero => rw [Nat.add_zero, pow_zero, Nat.div_one]
  | succ k ih =>
      rw [pow_succ', ← Nat.div_div_eq_div_mul, ← Nat.add_assoc, slot_succ h, ← ih]
      congr 1
      split
      next => omega
      next => omega

/-- **The bits of the number are those of the bisection.** -/
theorem testBit_slot (h : lo < hi) (v : K) {m j : ℕ} (hj : j < m) :
    (slot lo hi v m).testBit (m - 1 - j) =
      decide (edge lo hi (j + 1) (2 * slot lo hi v j + 1) ≤ v) := by
  have hm : m = (j + 1) + (m - 1 - j) := by omega
  have hdiv := slot_div h v (j + 1) (m - 1 - j)
  rw [← hm] at hdiv
  rw [Nat.testBit_eq_decide_div_mod_eq, hdiv, slot_succ h]
  split
  next hmid => exact (decide_eq_true (by omega)).trans (decide_eq_true hmid).symm
  next hmid => exact (decide_eq_false (by omega)).trans (decide_eq_false hmid).symm

theorem slot_mono (h : lo < hi) {u v : K} (huv : u ≤ v) (n : ℕ) :
    slot lo hi u n ≤ slot lo hi v n := by
  have hpos : 0 < hi - lo := sub_pos.mpr h
  refine min_le_min_right _ (Nat.floor_le_floor ?_)
  gcongr

/-! ### Samples around a point -/

theorem slot_bounds (h : lo < hi) (hlow : lo ≤ v) (hhigh : v < hi) :
    edge lo hi n (slot lo hi v n) ≤ v ∧ v < edge lo hi n (slot lo hi v n + 1) := by
  have hfirst : edge lo hi n 0 = lo := by
    unfold edge
    rw [Nat.cast_zero, zero_mul, add_zero]
  have hlast : edge lo hi n (2 ^ n) = hi := by
    unfold edge
    push_cast
    field_simp
    ring
  obtain ⟨hl, hh⟩ := (slot_eq_iff h (slot_lt lo hi v n)).mp rfl
  constructor
  · rcases hl with hzero | hl
    · rw [hzero, hfirst]
      exact hlow
    · exact hl
  · rcases hh with hmax | hh
    · rw [hmax, hlast]
      exact hhigh
    · exact hh

/-- The part of `u` is next to that of `v`, and the point at distance `d` from `v` on
that side lies beyond it. -/
def SteppedOver (lo hi : K) (n : ℕ) (d v u : K) : Prop :=
  (slot lo hi u n = slot lo hi v n + 1 ∧ edge lo hi n (slot lo hi u n + 1) ≤ v + d) ∨
  (slot lo hi u n + 1 = slot lo hi v n ∧ v - d < edge lo hi n (slot lo hi u n))

/-- **Three samples reach every part within their distance**, unless one of them
steps over it. -/
theorem sampled_iff (h : lo < hi) {d u : K} (hlow : lo ≤ v - d) (hhigh : v + d < hi)
    (hwide : d < 2 * ((hi - lo) / 2 ^ n)) (hbelow : v - d ≤ u) (habove : u ≤ v + d) :
    (slot lo hi u n = slot lo hi (v - d) n ∨ slot lo hi u n = slot lo hi v n ∨
      slot lo hi u n = slot lo hi (v + d) n) ↔ ¬ SteppedOver lo hi n d v u := by
  have hd : 0 ≤ d := by linarith
  obtain ⟨hv, hv'⟩ := slot_bounds (n := n) h (by linarith) (show v < hi by linarith)
  obtain ⟨hs, hs'⟩ := slot_bounds (n := n) h hlow (by linarith)
  obtain ⟨hn, hn'⟩ := slot_bounds (n := n) h (by linarith) hhigh
  have hsv := slot_mono h (show v - d ≤ v by linarith) n
  have hvn := slot_mono h (show v ≤ v + d by linarith) n
  have hsu := slot_mono h hbelow n
  have hun := slot_mono h habove n
  have hmono := (edge_strictMono h n).monotone
  constructor
  · rintro hsample (⟨hnext, hbeyond⟩ | ⟨hnext, hbeyond⟩)
    · have heq : slot lo hi u n = slot lo hi (v + d) n := by omega
      rw [heq] at hbeyond
      exact absurd hn' (not_lt.mpr hbeyond)
    · have heq : slot lo hi u n = slot lo hi (v - d) n := by omega
      rw [heq] at hbeyond
      exact absurd hs (not_le.mpr hbeyond)
  · intro hnot
    rcases lt_trichotomy (slot lo hi u n) (slot lo hi v n) with hlt | heq | hgt
    · -- the sample below is at most one part further
      refine Or.inl (le_antisymm (le_of_not_gt fun hfar => hnot (Or.inr ?_)) hsu)
      have hnext : slot lo hi u n + 1 = slot lo hi v n := by
        by_contra hne
        have hle := hmono (show slot lo hi (v - d) n + 1 + 2 ≤ slot lo hi v n by omega)
        rw [edge_add] at hle
        push_cast at hle
        linarith
      exact ⟨hnext, hs'.trans_le (hmono hfar)⟩
    · exact Or.inr (Or.inl heq)
    · refine Or.inr (Or.inr (le_antisymm hun (le_of_not_gt fun hfar => hnot (Or.inl ?_))))
      have hnext : slot lo hi u n = slot lo hi v n + 1 := by
        by_contra hne
        have hle := hmono (show slot lo hi v n + 1 + 2 ≤ slot lo hi (v + d) n by omega)
        rw [edge_add] at hle
        push_cast at hle
        linarith
      exact ⟨hnext, (hmono hfar).trans hn⟩

/-- Where the distance is at most a width, no sample steps over a part. -/
theorem not_steppedOver (h : lo < hi) {d u : K} (hlow : lo ≤ v - d) (hhigh : v + d < hi)
    (hwide : d ≤ (hi - lo) / 2 ^ n) (hd : 0 ≤ d) : ¬ SteppedOver lo hi n d v u := by
  obtain ⟨hv, hv'⟩ := slot_bounds (n := n) h (show lo ≤ v by linarith) (by linarith)
  rintro (⟨hnext, hbeyond⟩ | ⟨hnext, hbeyond⟩)
  · rw [hnext, edge_add _ (slot lo hi v n + 1)] at hbeyond
    push_cast at hbeyond
    linarith
  · rw [← hnext, edge_add] at hv
    push_cast at hv
    linarith

end Slot

end Oxpulse
