import Mathlib.Data.List.Basic

/-!
# The timers of the host

`setTimeout`, `setInterval`, `clearTimeout` and `clearInterval`: the timers that
are pending, each with its handle and its callback. Handles are numbered, so no
two are equal. Which of the pending timers fires next is left to the host.
-/

namespace Oxpulse.HostTimers

universe u

/-- The pending timers, in the order they were set, and the next handle. -/
structure Timers (κ : Type u) : Type u where
  pending : List (ℕ × κ)
  next : ℕ

namespace Timers

variable {κ : Type u}

def empty : Timers κ := ⟨[], 0⟩

/-- Sets a timer; its handle is `next`. -/
def set (callback : κ) (t : Timers κ) : Timers κ :=
  ⟨t.pending ++ [(t.next, callback)], t.next + 1⟩

/-- Does nothing for a handle that is not pending. -/
def clear (handle : ℕ) (t : Timers κ) : Timers κ :=
  ⟨t.pending.filter fun timer => timer.1 ≠ handle, t.next⟩

/-- `clear` of a variable that may be `undefined`. -/
def clearSome (handle : Option ℕ) (t : Timers κ) : Timers κ :=
  match handle with
  | none => t
  | some handle => t.clear handle

/-- The callback of a pending timer. -/
def callback? (handle : ℕ) (t : Timers κ) : Option κ :=
  (t.pending.find? fun timer => timer.1 = handle).map Prod.snd

variable {t : Timers κ} {h : ℕ} {c : κ}

@[simp]
theorem pending_set : (t.set c).pending = t.pending ++ [(t.next, c)] := rfl

@[simp]
theorem pending_empty : (empty : Timers κ).pending = [] := rfl

/-- Clearing the only timer. -/
theorem pending_clear_single (hp : t.pending = [(h, c)]) : (t.clear h).pending = [] := by
  simp [clear, hp]

theorem mem_of_callback? (hc : t.callback? h = some c) : (h, c) ∈ t.pending := by
  obtain ⟨timer, hfind, rfl⟩ := Option.map_eq_some_iff.mp hc
  have hh : timer.1 = h := by simpa using List.find?_some hfind
  rw [← hh]
  exact List.mem_of_find?_eq_some hfind

theorem callback?_single (hp : t.pending = [(h, c)]) : t.callback? h = some c := by
  simp [callback?, hp]

end Timers

end Oxpulse.HostTimers
