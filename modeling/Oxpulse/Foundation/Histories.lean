import Mathlib.Logic.Function.Basic

/-!
# Histories

What a property of runs requires of every event, after what came before it, it requires
of the events of every part of the run.
-/

namespace Oxpulse.Histories

universe u

variable {α : Type u} {P : List α → α → Prop} {l l' : List α}

theorem each_left (h : ∀ pre a post, l ++ l' = pre ++ a :: post → P pre a) :
    ∀ pre a post, l = pre ++ a :: post → P pre a := by
  rintro pre a post rfl
  apply h pre a (post ++ l')
  rw [List.append_assoc, List.cons_append]

theorem each_right (h : ∀ pre a post, l ++ l' = pre ++ a :: post → P pre a) :
    ∀ pre a post, l' = pre ++ a :: post → P (l ++ pre) a := by
  rintro pre a post rfl
  apply h (l ++ pre) a post
  rw [List.append_assoc]

end Oxpulse.Histories
