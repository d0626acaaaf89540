import Mathlib.Data.List.Basic

/-!
# Texts with a separator

Two lists put together with a separator between them. Where one side cannot hold
the separator the two are read back; else they are known up to where the separator
is (`joined_eq_iff`).
-/

namespace Oxpulse.Separator

universe u

variable {α : Type u} {sep : α} {a b x y : List α}

/-- Cut at the first separator. -/
theorem first_inj (ha : sep ∉ a) (hb : sep ∉ b) (h : a ++ sep :: x = b ++ sep :: y) :
    a = b ∧ x = y := by
  rcases List.append_eq_append_iff.mp h with ⟨l, rfl, hl⟩ | ⟨l, rfl, hl⟩
  · cases l with
    | nil =>
        cases hl
        exact ⟨(List.append_nil a).symm, rfl⟩
    | cons d l =>
        cases hl
        exact absurd (List.mem_append_right a List.mem_cons_self) hb
  · cases l with
    | nil =>
        cases hl
        exact ⟨List.append_nil b, rfl⟩
    | cons d l =>
        cases hl
        exact absurd (List.mem_append_right b List.mem_cons_self) ha

/-- Cut at the last separator. -/
theorem last_inj (hx : sep ∉ x) (hy : sep ∉ y) (h : a ++ sep :: x = b ++ sep :: y) :
    a = b ∧ x = y := by
  have hreverse : x.reverse ++ sep :: a.reverse = y.reverse ++ sep :: b.reverse := by
    have hboth := congrArg List.reverse h
    simpa using hboth
  obtain ⟨hxy, hab⟩ := first_inj (fun hmem => hx (List.mem_reverse.mp hmem))
    (fun hmem => hy (List.mem_reverse.mp hmem)) hreverse
  exact ⟨List.reverse_injective hab, List.reverse_injective hxy⟩

/-- The separator of the first pair is within the first field of the second. -/
def Shifts (sep : α) (p q : List α × List α) : Prop :=
  ∃ between, q.1 = p.1 ++ sep :: between ∧ p.2 = between ++ sep :: q.2

theorem joined_eq_iff : a ++ sep :: x = b ++ sep :: y ↔
    (a = b ∧ x = y) ∨ Shifts sep (a, x) (b, y) ∨ Shifts sep (b, y) (a, x) := by
  constructor
  · intro h
    rcases List.append_eq_append_iff.mp h with ⟨l, rfl, hl⟩ | ⟨l, rfl, hl⟩
    · cases l with
      | nil =>
          cases hl
          exact Or.inl ⟨(List.append_nil a).symm, rfl⟩
      | cons d l =>
          cases hl
          exact Or.inr (Or.inl ⟨l, rfl, rfl⟩)
    · cases l with
      | nil =>
          cases hl
          exact Or.inl ⟨List.append_nil b, rfl⟩
      | cons d l =>
          cases hl
          exact Or.inr (Or.inr ⟨l, rfl, rfl⟩)
  · rintro (⟨rfl, rfl⟩ | ⟨between, hfirst, hsecond⟩ | ⟨between, hfirst, hsecond⟩)
    · rfl
    · dsimp only at hfirst hsecond
      rw [hfirst, hsecond, List.append_assoc, List.cons_append]
    · dsimp only at hfirst hsecond
      rw [hfirst, hsecond, List.append_assoc, List.cons_append]

theorem Shifts.first_ne {p q : List α × List α} (h : Shifts sep p q) : p.1 ≠ q.1 := by
  obtain ⟨between, hfirst, -⟩ := h
  intro heq
  have hlength := congrArg List.length (heq.trans hfirst)
  rw [List.length_append, List.length_cons] at hlength
  omega

end Oxpulse.Separator
