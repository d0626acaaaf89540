import Mathlib.Data.Nat.Basic
import Mathlib.Order.Monotone.Defs
import Oxpulse.Foundation.InsMap

/-!
# Retry windows that grow

A table of retry windows: for each key the time before which nothing is tried
again, and how many failures led to it. Each failure sets a new window, from the
moment of the failure and as long as the count says; success forgets the key;
windows that are over may be dropped, one at a time or all at once.

If the delays do not shrink with the count, no operation but `forget` shortens a
window that is still running (`Keeps`), and the two maps have the same keys
(`Sound.keys`): what a window was set to is at most what the present count would
set now.
-/

namespace Oxpulse

universe u

structure RetryTable (κ : Type u) : Type u where
  retryAt : InsMap κ ℕ
  counts : InsMap κ ℕ

namespace RetryTable

variable {κ : Type u} [DecidableEq κ]

/-- How often it failed since it was last forgotten. -/
def count (k : κ) (t : RetryTable κ) : ℕ := (t.counts.get? k).getD 0

def empty : RetryTable κ := ⟨.empty, .empty⟩

def fail (delay : ℕ → ℕ) (now : ℕ) (k : κ) (t : RetryTable κ) : RetryTable κ where
  retryAt := t.retryAt.set k (now + delay (t.count k))
  counts := t.counts.set k (t.count k + 1)

def forget (k : κ) (t : RetryTable κ) : RetryTable κ := ⟨t.retryAt.delete k, t.counts.delete k⟩

/-- Forget the key unless its window is running. -/
def expire (now : ℕ) (k : κ) (t : RetryTable κ) : RetryTable κ :=
  if (t.retryAt.get? k).getD 0 > now then t else t.forget k

/-- Forget every key whose window is over. -/
def prune (now : ℕ) (t : RetryTable κ) : RetryTable κ where
  retryAt := t.retryAt.filter fun _ r => decide (now < r)
  counts := t.counts.filter fun k _ =>
    match t.retryAt.get? k with
    | some r => decide (now < r)
    | none => true

/-- What the operations keep. -/
structure Sound (delay : ℕ → ℕ) (now : ℕ) (t : RetryTable κ) : Prop where
  armed : ∀ k r, t.retryAt.get? k = some r →
    ∃ c, t.counts.get? k = some (c + 1) ∧ r ≤ now + delay c
  counted : ∀ k c, t.counts.get? k = some c → ∃ r, t.retryAt.get? k = some r

/-- A running window of the key is not shortened. -/
def Keeps (now : ℕ) (k : κ) (t t' : RetryTable κ) : Prop :=
  ∀ r, t.retryAt.get? k = some r → now < r → ∃ r', t'.retryAt.get? k = some r' ∧ r ≤ r'

section Operations

variable {delay : ℕ → ℕ} {now now' : ℕ} {k k' : κ} {t t' t'' : RetryTable κ}

theorem Keeps.refl (now : ℕ) (k : κ) (t : RetryTable κ) : Keeps now k t t :=
  fun r hr _ => ⟨r, hr, le_refl r⟩

theorem Keeps.trans (h : Keeps now k t t') (h' : Keeps now k t' t'') : Keeps now k t t'' := by
  intro r hr hnow
  obtain ⟨r₁, hr₁, hle₁⟩ := h r hr hnow
  obtain ⟨r₂, hr₂, hle₂⟩ := h' r₁ hr₁ (hnow.trans_le hle₁)
  exact ⟨r₂, hr₂, hle₁.trans hle₂⟩

/-- **The two maps have the same keys.** -/
theorem Sound.keys (h : Sound delay now t) (k : κ) : t.retryAt.has k = t.counts.has k := by
  unfold InsMap.has
  rw [Bool.eq_iff_iff, Option.isSome_iff_exists, Option.isSome_iff_exists]
  constructor
  · rintro ⟨r, hr⟩
    obtain ⟨c, hc, -⟩ := h.armed k r hr
    exact ⟨c + 1, hc⟩
  · rintro ⟨c, hc⟩
    exact h.counted k c hc

theorem sound_empty : Sound delay now (empty : RetryTable κ) where
  armed := fun k r hr => by
    rw [show (empty : RetryTable κ).retryAt.get? k = none from rfl] at hr
    cases hr
  counted := fun k c hc => by
    rw [show (empty : RetryTable κ).counts.get? k = none from rfl] at hc
    cases hc

/-- Time passes. -/
theorem Sound.later (h : Sound delay now t) (hnow : now ≤ now') : Sound delay now' t where
  armed := by
    intro k r hr
    obtain ⟨c, hc, hle⟩ := h.armed k r hr
    exact ⟨c, hc, by omega⟩
  counted := h.counted

theorem Sound.fail (h : Sound delay now t) (k : κ) : Sound delay now (t.fail delay now k) where
  armed := by
    intro k' r hr
    unfold RetryTable.fail at hr ⊢
    rw [InsMap.get?_set] at hr ⊢
    split at hr
    next heq =>
      cases hr
      exact ⟨t.count k, if_pos heq, le_refl _⟩
    next hne =>
      rw [if_neg hne]
      exact h.armed k' r hr
  counted := by
    intro k' c hc
    unfold RetryTable.fail at hc ⊢
    rw [InsMap.get?_set] at hc ⊢
    split at hc
    next heq => exact ⟨_, if_pos heq⟩
    next hne =>
      rw [if_neg hne]
      exact h.counted k' c hc

/-- **A failure prolongs the window**: the count has grown since it was set. -/
theorem Sound.keeps_fail (h : Sound delay now t) (hdelay : Monotone delay) (k k' : κ) :
    Keeps now k' t (t.fail delay now k) := by
  intro r hr _
  unfold RetryTable.fail
  rw [InsMap.get?_set]
  split
  next heq =>
    subst heq
    obtain ⟨c, hc, hle⟩ := h.armed k r hr
    have hcount : t.count k = c + 1 := by
      unfold count
      rw [hc]
      rfl
    have hgrow : delay c ≤ delay (t.count k) := hdelay (by omega)
    exact ⟨_, rfl, by omega⟩
  next => exact ⟨r, hr, le_refl r⟩

theorem Sound.forget (h : Sound delay now t) (k : κ) : Sound delay now (t.forget k) where
  armed := by
    intro k' r hr
    unfold RetryTable.forget at hr ⊢
    rw [InsMap.get?_delete] at hr ⊢
    split at hr
    · cases hr
    next hne =>
      rw [if_neg hne]
      exact h.armed k' r hr
  counted := by
    intro k' c hc
    unfold RetryTable.forget at hc ⊢
    rw [InsMap.get?_delete] at hc ⊢
    split at hc
    · cases hc
    next hne =>
      rw [if_neg hne]
      exact h.counted k' c hc

theorem keeps_forget (hne : k ≠ k') : Keeps now k' t (t.forget k) :=
  fun r hr _ => ⟨r, (InsMap.get?_delete_ne _ hne).trans hr, le_refl r⟩

theorem Sound.expire (h : Sound delay now t) (k : κ) : Sound delay now (t.expire now k) := by
  unfold RetryTable.expire
  split
  · exact h
  · exact h.forget k

/-- Only a window that is over is dropped. -/
theorem keeps_expire (k k' : κ) : Keeps now k' t (t.expire now k) := by
  intro r hr hnow
  unfold RetryTable.expire
  split
  · exact ⟨r, hr, le_refl r⟩
  next hover =>
    refine keeps_forget ?_ r hr hnow
    rintro rfl
    rw [hr] at hover
    exact hover hnow

theorem Sound.prune (h : Sound delay now t) : Sound delay now (t.prune now) where
  armed := by
    intro k r hr
    unfold RetryTable.prune at hr ⊢
    obtain ⟨hget, hrun⟩ := InsMap.get?_filter_eq_some.mp hr
    obtain ⟨c, hc, hle⟩ := h.armed k r hget
    refine ⟨c, InsMap.get?_filter_eq_some.mpr ⟨hc, ?_⟩, hle⟩
    rw [hget]
    exact hrun
  counted := by
    intro k c hc
    unfold RetryTable.prune at hc ⊢
    obtain ⟨hget, hrun⟩ := InsMap.get?_filter_eq_some.mp hc
    obtain ⟨r, hr⟩ := h.counted k c hget
    rw [hr] at hrun
    exact ⟨r, InsMap.get?_filter_eq_some.mpr ⟨hr, hrun⟩⟩

theorem keeps_prune (k : κ) : Keeps now k t (t.prune now) :=
  fun r hr hnow => ⟨r, InsMap.get?_filter_eq_some.mpr ⟨hr, decide_eq_true hnow⟩, le_refl r⟩

end Operations

end RetryTable

end Oxpulse
