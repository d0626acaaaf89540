import Mathlib.Data.List.Basic

/-!
# Iterating over a set that changes

A `Set` keeps its elements in slots, in the order of insertion; a deleted element
leaves an empty slot, and slots are never taken away while an iteration is under
way. `for (const a of set)` goes over the slots by their index and sees what its
body does to the set. If the body throws for no element, every element that is in
the set in the end was visited (`forOf_visits`), and the iteration ends if the
slots that the body may add are bounded (`forOf_ends`).
-/

namespace Oxpulse.LiveSet

universe u v w

variable {α : Type u} {σ : Type v} {ε : Type w}

/-- The slots, in the order of insertion. -/
abbrev Slots (α : Type u) : Type u := List (Option α)

namespace Slots

variable [DecidableEq α]

def add (a : α) (s : Slots α) : Slots α := if some a ∈ s then s else s ++ [some a]

def delete (a : α) (s : Slots α) : Slots α := s.map fun slot => if slot = some a then none else slot

end Slots

/-- `for (const a of set) body(a)`, from a slot on: what the body does to the
state, which holds the set. -/
def forOf (slots : σ → Slots α) (body : α → σ → σ × Except ε Unit) :
    ℕ → ℕ → σ → Option (σ × Except ε Unit)
  | 0, _, _ => none
  | fuel + 1, i, s =>
      match (slots s)[i]? with
      | none => some (s, .ok ())
      | some none => forOf slots body fuel (i + 1) s
      | some (some a) =>
          match body a s with
          | (s', .ok ()) => forOf slots body fuel (i + 1) s'
          | (s', .error e) => some (s', .error e)

/-- What may happen to the slots: an element that was not in its slot before is
in a new one. -/
structure Grows (s s' : Slots α) : Prop where
  length : s.length ≤ s'.length
  old : ∀ (k : ℕ) (a : α), s'[k]? = some (some a) → s[k]? = some (some a) ∨ s.length ≤ k

theorem Grows.refl (s : Slots α) : Grows s s := ⟨Nat.le_refl _, fun _ _ h => Or.inl h⟩

theorem Grows.trans {s s' s'' : Slots α} (h : Grows s s') (h' : Grows s' s'') : Grows s s'' := by
  refine ⟨Nat.le_trans h.length h'.length, fun k a hk => ?_⟩
  rcases h'.old k a hk with hmid | hnew
  · exact h.old k a hmid
  · exact Or.inr (Nat.le_trans h.length hnew)

section Changes

variable [DecidableEq α]

theorem grows_add (a : α) (s : Slots α) : Grows s (s.add a) := by
  unfold Slots.add
  split
  · exact .refl s
  · refine ⟨?_, fun k b hk => ?_⟩
    · rw [List.length_append]
      exact Nat.le_add_right _ _
    · rcases Nat.lt_or_ge k s.length with hlt | hge
      · rw [List.getElem?_append_left hlt] at hk
        exact Or.inl hk
      · exact Or.inr hge

theorem grows_delete (a : α) (s : Slots α) : Grows s (s.delete a) := by
  unfold Slots.delete
  refine ⟨Nat.le_of_eq (List.length_map _).symm, fun k b hk => Or.inl ?_⟩
  rw [List.getElem?_map, Option.map_eq_some_iff] at hk
  obtain ⟨slot, hslot, hb⟩ := hk
  split at hb
  · cases hb
  · rw [hslot, hb]

theorem length_add_le (a : α) (s : Slots α) : (s.add a).length ≤ s.length + 1 := by
  unfold Slots.add
  split
  · exact Nat.le_succ _
  · rw [List.length_append]
    exact Nat.le_refl _

theorem length_delete (a : α) (s : Slots α) : (s.delete a).length = s.length := List.length_map _

end Changes

/-! ## Every element is visited -/

section Walks

variable {slots : σ → Slots α} {body : α → σ → σ × Except ε Unit}

/-- What the body does for an element, and keeps, where the invariant holds. -/
structure Visits (slots : σ → Slots α) (body : α → σ → σ × Except ε Unit) (Inv : σ → Prop)
    (Visited : α → σ → Prop) : Prop where
  returns : ∀ a s, (body a s).2 = .ok ()
  grows : ∀ a s, Grows (slots s) (slots (body a s).1)
  invariant : ∀ a s, Inv s → Inv (body a s).1
  visits : ∀ a s, Inv s → Visited a (body a s).1
  keeps : ∀ a b s, Visited a s → Visited a (body b s).1

/-- The slots before the index are done with. -/
def Passed (slots : σ → Slots α) (Visited : α → σ → Prop) (i : ℕ) (s : σ) : Prop :=
  ∀ k a, k < i → (slots s)[k]? = some (some a) → Visited a s

variable {Inv : σ → Prop} {Visited : α → σ → Prop}

theorem Visits.passed (h : Visits slots body Inv Visited) {i : ℕ} {s : σ} {a : α} (hs : Inv s)
    (ha : (slots s)[i]? = some (some a)) (hpassed : Passed slots Visited i s) :
    Passed slots Visited (i + 1) (body a s).1 := by
  intro k b hk hb
  have hi : i < (slots s).length := (List.getElem?_eq_some_iff.mp ha).1
  rcases (h.grows a s).old k b hb with hold | hnew
  · rcases Nat.lt_or_eq_of_le (Nat.le_of_lt_succ hk) with hlt | rfl
    · exact h.keeps b a s (hpassed k b hlt hold)
    · rw [ha] at hold
      cases hold
      exact h.visits a s hs
  · omega

/-- **Every element that is in the set in the end was visited.** -/
theorem forOf_visits (h : Visits slots body Inv Visited) (fuel : ℕ) :
    ∀ (i : ℕ) (s s' : σ) (x : Except ε Unit), Inv s → Passed slots Visited i s →
      forOf slots body fuel i s = some (s', x) →
      x = .ok () ∧ Inv s' ∧ ∀ a, some a ∈ slots s' → Visited a s' := by
  induction fuel with
  | zero =>
      intro i s s' x _ _ hrun
      cases hrun
  | succ fuel ih =>
      intro i s s' x hs hpassed hrun
      unfold forOf at hrun
      cases hslot : (slots s)[i]? with
      | none =>
          simp only [hslot] at hrun
          cases hrun
          refine ⟨rfl, hs, fun a ha => ?_⟩
          obtain ⟨k, hk⟩ := List.mem_iff_getElem?.mp ha
          have hlt : k < (slots s).length := (List.getElem?_eq_some_iff.mp hk).1
          exact hpassed k a (Nat.lt_of_lt_of_le hlt (List.getElem?_eq_none_iff.mp hslot)) hk
      | some slot =>
          cases slot with
          | none =>
              simp only [hslot] at hrun
              refine ih (i + 1) s s' x hs (fun k a hk ha => ?_) hrun
              rcases Nat.lt_or_eq_of_le (Nat.le_of_lt_succ hk) with hlt | rfl
              · exact hpassed k a hlt ha
              · rw [hslot] at ha
                cases ha
          | some a =>
              have hreturns := h.returns a s
              have hs₁ := h.invariant a s hs
              have hnext := h.passed hs hslot hpassed
              simp only [hslot] at hrun
              cases hbody : body a s with
              | mk s₁ y =>
                  rw [hbody] at hreturns hs₁ hnext hrun
                  cases hreturns
                  exact ih (i + 1) s₁ s' x hs₁ hnext hrun

/-- **The iteration ends**, with so much fuel as there is room for slots. -/
theorem forOf_ends {room : σ → ℕ} (hroom : ∀ s, (slots s).length ≤ room s)
    (hbody : ∀ a s, room (body a s).1 ≤ room s) (fuel : ℕ) :
    ∀ (i : ℕ) (s : σ), 0 < fuel → room s < i + fuel → (forOf slots body fuel i s).isSome := by
  induction fuel with
  | zero => exact fun i s hfuel _ => absurd hfuel (Nat.lt_irrefl 0)
  | succ fuel ih =>
      intro i s _ hfuel
      unfold forOf
      cases hslot : (slots s)[i]? with
      | none => rfl
      | some slot =>
          have hi : i < (slots s).length := (List.getElem?_eq_some_iff.mp hslot).1
          have hlength := hroom s
          cases slot with
          | none => exact ih (i + 1) s (by omega) (by omega)
          | some a =>
              have hle : room (body a s).1 ≤ room s := hbody a s
              dsimp only
              split
              next s₁ hrun =>
                rw [hrun] at hle
                dsimp only at hle
                exact ih (i + 1) s₁ (by omega) (by omega)
              next => rfl

end Walks

end Oxpulse.LiveSet
