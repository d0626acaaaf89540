import Mathlib.Data.Finset.Insert
import Mathlib.Data.Int.Basic
import Mathlib.Data.Nat.Bitwise
import Mathlib.Order.Bounds.Basic
import Oxpulse.Crypto.Primitives

/-!
# The replay bitmap

`ReplayWindow` of `session-ratchet.ts`: `highest` is the highest committed
counter (`-1` before the first one), bit `i` of `bitmap` records that
`highest - i` was committed. A counter is *spent* when `canAccept` refuses it;
`commit` spends its counter and spent counters stay spent.
-/

namespace Oxpulse.Crypto

def REPLAY_WINDOW_SIZE : ℕ := 64

structure ReplayWindow : Type where
  highest : ℤ
  bitmap : ℕ
deriving DecidableEq, Repr

namespace ReplayWindow

def new : ReplayWindow := ⟨-1, 0⟩

def canAccept (w : ReplayWindow) (counter : ℤ) : Bool :=
  if counter < 0 then false
  else if w.highest < 0 then true
  else if counter > w.highest then true
  else
    let offset := w.highest - counter
    if offset ≥ REPLAY_WINDOW_SIZE then false
    else w.bitmap &&& (1 <<< offset.toNat) == 0

def commit (w : ReplayWindow) (counter : ℤ) : ReplayWindow :=
  if w.highest < 0 then ⟨counter, 1⟩
  else if counter > w.highest then
    let shift := counter - w.highest
    let bitmap :=
      if shift ≥ REPLAY_WINDOW_SIZE then 1 else (w.bitmap <<< shift.toNat) ||| 1
    ⟨counter, bitmap &&& ((1 <<< REPLAY_WINDOW_SIZE) - 1)⟩
  else
    let offset := w.highest - counter
    ⟨w.highest, w.bitmap ||| (1 <<< offset.toNat)⟩

/-- The window refuses the counter. -/
def Spent (w : ReplayWindow) (counter : ℤ) : Prop := w.canAccept counter = false

instance (w : ReplayWindow) (c : ℤ) : Decidable (w.Spent c) :=
  inferInstanceAs (Decidable (_ = _))

theorem and_shiftLeft_eq_zero (b i : ℕ) :
    (b &&& (1 <<< i) == 0) = !b.testBit i := by
  rw [Nat.one_shiftLeft, Nat.and_two_pow]
  cases b.testBit i <;> simp

/-- What `canAccept` admits, read off the bits. -/
theorem canAccept_iff {w : ReplayWindow} {c : ℤ} :
    w.canAccept c = true ↔
      0 ≤ c ∧ (w.highest < 0 ∨ w.highest < c ∨
        (w.highest - c < 64 ∧ w.bitmap.testBit (w.highest - c).toNat = false)) := by
  unfold canAccept
  by_cases hc : c < 0
  · rw [if_pos hc]
    simp only [Bool.false_eq_true, false_iff]
    omega
  rw [if_neg hc]
  by_cases hh : w.highest < 0
  · rw [if_pos hh]
    exact iff_of_true rfl ⟨by omega, Or.inl hh⟩
  rw [if_neg hh]
  by_cases hgt : c > w.highest
  · rw [if_pos hgt]
    exact iff_of_true rfl ⟨by omega, Or.inr (Or.inl hgt)⟩
  rw [if_neg hgt]
  simp only [REPLAY_WINDOW_SIZE, Nat.cast_ofNat, and_shiftLeft_eq_zero]
  by_cases hoff : w.highest - c ≥ 64
  · rw [if_pos hoff]
    simp only [Bool.false_eq_true, false_iff]
    omega
  · rw [if_neg hoff, Bool.not_eq_true']
    constructor
    · intro hb
      exact ⟨by omega, Or.inr (Or.inr ⟨by omega, hb⟩)⟩
    · rintro ⟨-, h | h | ⟨-, hb⟩⟩
      · omega
      · omega
      · exact hb

theorem spent_iff {w : ReplayWindow} {c : ℤ} :
    w.Spent c ↔ 0 ≤ c →
      0 ≤ w.highest ∧ c ≤ w.highest ∧
        (w.highest - c < 64 → w.bitmap.testBit (w.highest - c).toNat = true) := by
  rw [Spent, ← Bool.not_eq_true, canAccept_iff]
  constructor
  · intro h hc
    refine ⟨by_contra fun hn => h ⟨hc, by omega⟩, by_contra fun hn => h ⟨hc, by omega⟩, ?_⟩
    intro hw
    cases hb : w.bitmap.testBit (w.highest - c).toNat with
    | true => rfl
    | false => exact absurd ⟨hc, Or.inr (Or.inr ⟨hw, hb⟩)⟩ h
  · rintro h ⟨hc, hcase⟩
    obtain ⟨h0, hle, hbit⟩ := h hc
    rcases hcase with h' | h' | ⟨hw, hb⟩
    · omega
    · omega
    · rw [hbit hw] at hb
      exact Bool.noConfusion hb

theorem commit_highest {w : ReplayWindow} {c : ℤ} (hc : 0 ≤ c) :
    (w.commit c).highest = max w.highest c := by
  unfold commit
  split
  · simp only
    omega
  · split <;> simp only <;> omega

/-- The bits of the window after a commit, for counters inside it. -/
theorem commit_testBit {w : ReplayWindow} {c : ℤ} (hc : 0 ≤ c) (hh : 0 ≤ w.highest)
    {x : ℤ} (hx : x ≤ max w.highest c) (hw : max w.highest c - x < 64) :
    (w.commit c).bitmap.testBit (max w.highest c - x).toNat = true ↔
      x = c ∨ (x ≤ w.highest ∧ w.bitmap.testBit (w.highest - x).toNat = true) := by
  unfold commit
  rw [if_neg (by omega)]
  by_cases hgt : c > w.highest
  · rw [if_pos hgt]
    have hmax : max w.highest c = c := by omega
    rw [hmax] at hx hw ⊢
    have hmask : (c - x).toNat < 64 := by omega
    have hmask' : ((1 <<< REPLAY_WINDOW_SIZE) - 1).testBit (c - x).toNat = true := by
      rw [Nat.one_shiftLeft, Nat.testBit_two_pow_sub_one]
      exact decide_eq_true hmask
    simp only [Nat.testBit_and, hmask', Bool.and_true]
    by_cases hs : c - w.highest ≥ (REPLAY_WINDOW_SIZE : ℤ)
    · rw [if_pos hs, Nat.testBit_one_eq_true_iff_self_eq_zero]
      simp only [REPLAY_WINDOW_SIZE, Nat.cast_ofNat] at hs
      constructor
      · intro h
        exact Or.inl (by omega)
      · rintro (rfl | ⟨h, -⟩)
        · simp
        · omega
    · rw [if_neg hs, Nat.testBit_or, Nat.testBit_shiftLeft, Bool.or_eq_true,
        Bool.and_eq_true, Nat.testBit_one_eq_true_iff_self_eq_zero, decide_eq_true_eq]
      constructor
      · rintro (⟨hle, hb⟩ | h)
        · refine Or.inr ⟨by omega, ?_⟩
          rwa [show (w.highest - x).toNat = (c - x).toNat - (c - w.highest).toNat by omega]
        · exact Or.inl (by omega)
      · rintro (rfl | ⟨hle, hb⟩)
        · exact Or.inr (by simp)
        · refine Or.inl ⟨by omega, ?_⟩
          rwa [show (c - x).toNat - (c - w.highest).toNat = (w.highest - x).toNat by omega]
  · rw [if_neg hgt]
    have hmax : max w.highest c = w.highest := by omega
    rw [hmax] at hx hw ⊢
    simp only [Nat.testBit_or, Nat.one_shiftLeft, Nat.testBit_two_pow, Bool.or_eq_true,
      decide_eq_true_eq]
    constructor
    · rintro (h | h)
      · exact Or.inr ⟨hx, h⟩
      · exact Or.inl (by omega)
    · rintro (rfl | ⟨-, h⟩)
      · exact Or.inr rfl
      · exact Or.inl h

/-- A committed counter is spent. -/
theorem commit_spent {w : ReplayWindow} {c : ℤ} (hc : 0 ≤ c) : (w.commit c).Spent c := by
  rw [spent_iff, commit_highest hc]
  intro _
  refine ⟨by omega, by omega, fun hw => ?_⟩
  by_cases hh : 0 ≤ w.highest
  · exact (commit_testBit hc hh (by omega) hw).mpr (Or.inl rfl)
  · have hmax : max w.highest c = c := by omega
    simp [commit, show w.highest < 0 by omega, hmax]

/-- A spent counter stays spent, whatever is committed after it. -/
theorem Spent.commit {w : ReplayWindow} {x c : ℤ} (h : w.Spent x) (hc : 0 ≤ c) :
    (w.commit c).Spent x := by
  rw [spent_iff] at h ⊢
  rw [commit_highest hc]
  intro hx
  obtain ⟨h0, hle, hbit⟩ := h hx
  refine ⟨by omega, by omega, fun hw => ?_⟩
  exact (commit_testBit hc h0 (by omega) hw).mpr (Or.inr ⟨hle, hbit (by omega)⟩)

/-! ## The filter

An abstract once-only filter remembers every counter it accepted. The bitmap
stands for the part of that set that a later call can still ask for. -/

/-- Check and commit in one step: the window after it, and whether the counter was
accepted. -/
def checkAndAccept (w : ReplayWindow) (counter : ℤ) : ReplayWindow × Bool :=
  if w.canAccept counter then (w.commit counter, true) else (w, false)

/-- The window after a sequence of calls, with the counters that were accepted. -/
def acceptAll (counters : List ℤ) : ReplayWindow × Finset ℤ :=
  counters.foldl
    (fun s c => ((s.1.checkAndAccept c).1, if (s.1.checkAndAccept c).2 then insert c s.2 else s.2))
    (new, ∅)

/-- What a filter admits that remembers everything: a counter it has not accepted, not
64 or more below one that it has. -/
def Admits (accepted : Finset ℤ) (c : ℤ) : Prop :=
  0 ≤ c ∧ c ∉ accepted ∧ ∀ m ∈ accepted, m - 64 < c

/-- **The bitmap tracks the accepted counters.** -/
structure Tracks (w : ReplayWindow) (accepted : Finset ℤ) : Prop where
  nonneg : ∀ x ∈ accepted, 0 ≤ x
  unset : w.highest < 0 → w.bitmap = 0 ∧ accepted = ∅
  highest : 0 ≤ w.highest → IsGreatest (accepted : Set ℤ) w.highest
  below : w.bitmap < 2 ^ 64
  bits : 0 ≤ w.highest → ∀ x, x ≤ w.highest → w.highest - x < 64 →
    (w.bitmap.testBit (w.highest - x).toNat = true ↔ x ∈ accepted)

theorem tracks_new : Tracks new ∅ := by
  constructor
  · intro x hx
    simp at hx
  · exact fun _ => ⟨rfl, rfl⟩
  · intro h
    exact absurd h (by decide)
  · exact Nat.two_pow_pos 64
  · intro h
    exact absurd h (by decide)

section Tracks

variable {w : ReplayWindow} {accepted : Finset ℤ} {c : ℤ}

theorem Tracks.canAccept_iff (h : Tracks w accepted) :
    w.canAccept c = true ↔ Admits accepted c := by
  rw [ReplayWindow.canAccept_iff, Admits]
  by_cases hh : w.highest < 0
  · rw [(h.unset hh).2]
    simp [hh]
  · have hgreatest := h.highest (by omega)
    have hmem : w.highest ∈ accepted := hgreatest.1
    have hle : ∀ m ∈ accepted, m ≤ w.highest := fun m hm => hgreatest.2 hm
    constructor
    · rintro ⟨hc, hneg | hgt | ⟨hw, hbit⟩⟩
      · exact absurd hneg hh
      · refine ⟨hc, fun hin => ?_, fun m hm => ?_⟩
        · exact absurd (hle c hin) (by omega)
        · have := hle m hm
          omega
      · refine ⟨hc, fun hin => ?_, fun m hm => ?_⟩
        · rw [(h.bits (by omega) c (hle c hin) hw).mpr hin] at hbit
          cases hbit
        · have := hle m hm
          omega
    · rintro ⟨hc, hnot, hwindow⟩
      have hw := hwindow _ hmem
      refine ⟨hc, ?_⟩
      by_cases hgt : w.highest < c
      · exact Or.inr (Or.inl hgt)
      · refine Or.inr (Or.inr ⟨by omega, ?_⟩)
        rw [← Bool.not_eq_true, h.bits (by omega) c (by omega) (by omega)]
        exact hnot

theorem commit_bitmap_lt (hbelow : w.bitmap < 2 ^ 64)
    (hw : c ≤ w.highest → w.highest - c < 64) : (w.commit c).bitmap < 2 ^ 64 := by
  unfold commit
  split
  · exact Nat.one_lt_two_pow (by decide)
  split
  · exact Nat.and_lt_two_pow _ (by decide)
  · apply Nat.or_lt_two_pow hbelow
    rw [Nat.one_shiftLeft]
    exact Nat.pow_lt_pow_right (by decide) (by omega)

/-- A counter that is accepted is committed and remembered. -/
theorem Tracks.commit (h : Tracks w accepted) (hc : Admits accepted c) :
    Tracks (w.commit c) (insert c accepted) := by
  have hpos := hc.1
  have hmax := commit_highest (w := w) hpos
  have hle : ∀ x ∈ accepted, x ≤ w.highest := by
    intro x hx
    by_contra hlt
    by_cases hh : w.highest < 0
    · rw [(h.unset hh).2] at hx
      simp at hx
    · exact hlt ((h.highest (by omega)).2 hx)
  constructor
  · intro x hx
    rcases Finset.mem_insert.mp hx with rfl | hx
    · exact hpos
    · exact h.nonneg x hx
  · intro hneg
    omega
  · rintro -
    rw [hmax]
    constructor
    · by_cases hgt : w.highest < c
      · rw [max_eq_right hgt.le]
        simp
      · rw [max_eq_left (by omega)]
        simpa using Or.inr (h.highest (by omega)).1
    · intro x hx
      simp only [Finset.coe_insert, Set.mem_insert_iff, Finset.mem_coe] at hx
      rcases hx with rfl | hx
      · exact le_max_right _ _
      · exact (hle x hx).trans (le_max_left _ _)
  · refine commit_bitmap_lt h.below fun hcle => ?_
    have := hc.2.2 _ (h.highest (by omega)).1
    omega
  · intro _ x hx hw
    rw [hmax] at hx hw ⊢
    rw [Finset.mem_insert]
    by_cases hh : w.highest < 0
    · have hcommit : w.commit c = ⟨c, 1⟩ := by
        unfold ReplayWindow.commit
        rw [if_pos hh]
      rw [hcommit, (h.unset hh).2]
      have hmaxc : max w.highest c = c := by omega
      rw [hmaxc] at hx ⊢
      simp only [Nat.testBit_one_eq_true_iff_self_eq_zero, Finset.notMem_empty, or_false]
      omega
    · rw [commit_testBit hpos (by omega) hx hw]
      constructor
      · rintro (rfl | ⟨hxle, hbit⟩)
        · exact Or.inl rfl
        · exact Or.inr ((h.bits (by omega) x hxle (by omega)).mp hbit)
      · rintro (rfl | hin)
        · exact Or.inl rfl
        · have hxle := hle x hin
          exact Or.inr ⟨hxle, (h.bits (by omega) x hxle (by omega)).mpr hin⟩

theorem Tracks.step (h : Tracks w accepted) :
    Tracks (w.checkAndAccept c).1
      (if (w.checkAndAccept c).2 then insert c accepted else accepted) := by
  unfold checkAndAccept
  cases hcan : w.canAccept c with
  | true => exact h.commit (h.canAccept_iff.mp hcan)
  | false => exact h

end Tracks

theorem acceptAll_tracks (counters : List ℤ) :
    Tracks (acceptAll counters).1 (acceptAll counters).2 := by
  induction counters using List.reverseRecOn with
  | nil => exact tracks_new
  | append_singleton counters c ih =>
      unfold acceptAll at ih ⊢
      rw [List.foldl_append]
      exact ih.step

/-- **Exactly a once-only filter, 64 counters wide.** After any sequence of calls, the next
one accepts its counter if and only if the counter is not negative, was not accepted
before and is above the highest accepted one less 64; and the bitmap has the bits of
the accepted counters in the window, and no other. -/
theorem checkAndAccept_exact (counters : List ℤ) (c : ℤ) :
    (((acceptAll counters).1.checkAndAccept c).2 = true ↔
      0 ≤ c ∧ c ∉ (acceptAll counters).2 ∧
        ((acceptAll counters).2 = ∅ ∨
          ∃ m, IsGreatest ((acceptAll counters).2 : Set ℤ) m ∧ m - 64 < c)) ∧
    (acceptAll counters).1.bitmap < 2 ^ 64 ∧
    ∀ i : ℕ, (acceptAll counters).1.bitmap.testBit i = true ↔
      i < 64 ∧ ∃ m, IsGreatest ((acceptAll counters).2 : Set ℤ) m ∧
        m - (i : ℤ) ∈ (acceptAll counters).2 := by
  have h := acceptAll_tracks counters
  generalize (acceptAll counters).1 = w at h ⊢
  generalize (acceptAll counters).2 = accepted at h ⊢
  refine ⟨?_, h.below, fun i => ?_⟩
  · have hresult : (w.checkAndAccept c).2 = w.canAccept c := by
      unfold checkAndAccept
      cases w.canAccept c with
      | true => rfl
      | false => rfl
    rw [hresult, h.canAccept_iff, Admits]
    refine and_congr_right fun _ => and_congr_right fun _ => ?_
    by_cases hh : w.highest < 0
    · rw [(h.unset hh).2]
      simp
    · have hgreatest := h.highest (by omega)
      constructor
      · exact fun hwindow => Or.inr ⟨w.highest, hgreatest, hwindow _ hgreatest.1⟩
      · rintro (rfl | ⟨m, hm, hlt⟩) x hx
        · simp at hx
        · have := hm.2 hx
          omega
  · by_cases hh : w.highest < 0
    · rw [(h.unset hh).1, (h.unset hh).2]
      simp [IsGreatest]
    · have hgreatest := h.highest (by omega)
      by_cases hi : i < 64
      · have hbit := h.bits (by omega) (w.highest - i) (by omega) (by omega)
        rw [show (w.highest - (w.highest - (i : ℤ))).toNat = i by omega] at hbit
        rw [hbit]
        constructor
        · exact fun hin => ⟨hi, w.highest, hgreatest, hin⟩
        · rintro ⟨-, m, hm, hin⟩
          rwa [hm.unique hgreatest] at hin
      · have hzero : w.bitmap.testBit i = false :=
          Nat.testBit_lt_two_pow (lt_of_lt_of_le h.below
            (Nat.pow_le_pow_right (by decide) (by omega)))
        rw [hzero]
        simp [hi]

/-- A jump over the window, a late counter at its edge, and the two that are refused. -/
example : ((acceptAll [0, 70, 7]).1.checkAndAccept 6).2 = false ∧
    ((acceptAll [0, 70, 7]).1.checkAndAccept 7).2 = false ∧
    ((acceptAll [0, 70]).1.checkAndAccept 7).2 = true := by
  decide

end ReplayWindow

end Oxpulse.Crypto
