import Mathlib.Data.List.Basic

/-!
# Labelled traces

A step that does several things is cut into labelled actions, with moves between
them that nobody observes (`Observed.Trace`). What is true of each action that
the trace lists, and of the unobserved moves, is true of the step.
-/

namespace Oxpulse

universe u v

/-- What is not observed, and what the labels do. -/
structure Observed (σ : Type u) (β : Type v) : Type (max u v) where
  Quiet : σ → σ → Prop
  act : β → σ → σ
  refl : ∀ s, Quiet s s
  trans : ∀ a b c, Quiet a b → Quiet b c → Quiet a c

namespace Observed

variable {σ : Type u} {β : Type v} (O : Observed σ β)

/-- The actions on the way from one state to another, each with the state that it
finds and in which it may occur (`fits`). -/
inductive Trace (fits : σ → β → Prop) : List (σ × β) → σ → σ → Prop where
  | quiet (s s' : σ) : O.Quiet s s' → Trace fits [] s s'
  | act (s s₁ s' : σ) (b : β) (l : List (σ × β)) : O.Quiet s s₁ → fits s₁ b →
      Trace fits l (O.act b s₁) s' → Trace fits ((s₁, b) :: l) s s'

variable {O} {fits : σ → β → Prop} {l l' : List (σ × β)} {s s' s'' : σ}

theorem Trace.nil (s : σ) : O.Trace fits [] s s := .quiet s s (O.refl s)

theorem Trace.single {b : β} (h : fits s b) : O.Trace fits [(s, b)] s (O.act b s) :=
  .act s s _ b [] (O.refl s) h (.nil _)

theorem Trace.precede (hq : O.Quiet s s') (h : O.Trace fits l s' s'') : O.Trace fits l s s'' := by
  cases h with
  | quiet _ _ hq' => exact .quiet s s'' (O.trans _ _ _ hq hq')
  | act _ s₁ _ b l hq' hfits hrest => exact .act s s₁ s'' b l (O.trans _ _ _ hq hq') hfits hrest

theorem Trace.append (h : O.Trace fits l s s') (h' : O.Trace fits l' s' s'') :
    O.Trace fits (l ++ l') s s'' := by
  induction h with
  | quiet s s' hq => exact h'.precede hq
  | act s s₁ s' b l hq hfits _ ih => exact .act s s₁ s'' b _ hq hfits (ih h')

theorem Trace.mono {fits' : σ → β → Prop} (hfits : ∀ s b, fits s b → fits' s b)
    (h : O.Trace fits l s s') : O.Trace fits' l s s' := by
  induction h with
  | quiet s s' hq => exact .quiet s s' hq
  | act s s₁ s' b l hq hb _ ih => exact .act s s₁ s' b l hq (hfits s₁ b hb) ih

/-- What comes before and after a listed action. -/
theorem Trace.split {x : σ × β} (h : O.Trace fits l s s') (hx : x ∈ l) :
    fits x.1 x.2 ∧ ∃ front back, (∀ y ∈ front, y ∈ l) ∧ (∀ y ∈ back, y ∈ l) ∧
      O.Trace fits front s x.1 ∧ O.Trace fits back (O.act x.2 x.1) s' := by
  induction h with
  | quiet => exact absurd hx List.not_mem_nil
  | act s s₁ s' b l hq hfits hrest ih =>
      rcases List.mem_cons.mp hx with rfl | hx
      · exact ⟨hfits, [], l, fun y hy => absurd hy List.not_mem_nil,
          fun y hy => List.mem_cons_of_mem _ hy, .quiet s s₁ hq, hrest⟩
      · obtain ⟨hfits', front, back, hfront, hback, hto, hfrom⟩ := ih hx
        refine ⟨hfits', (s₁, b) :: front, back, fun y hy => ?_,
          fun y hy => List.mem_cons_of_mem _ (hback y hy), .act s s₁ _ b front hq hfits hto, hfrom⟩
        rcases List.mem_cons.mp hy with rfl | hy
        · exact List.mem_cons_self
        · exact List.mem_cons_of_mem _ (hfront y hy)

/-- **From the actions to the step**: what is transitive and true of the
unobserved moves and of each listed action is true of the step. -/
theorem Trace.related {R : σ → σ → Prop} (h : O.Trace fits l s s')
    (htrans : ∀ a b c, R a b → R b c → R a c) (hquiet : ∀ a b, O.Quiet a b → R a b)
    (hact : ∀ x ∈ l, fits x.1 x.2 → R x.1 (O.act x.2 x.1)) : R s s' := by
  induction h with
  | quiet s s' hq => exact hquiet s s' hq
  | act s s₁ s' b l hq hfits _ ih =>
      have hfirst : R s (O.act b s₁) :=
        htrans _ _ _ (hquiet s s₁ hq) (hact (s₁, b) List.mem_cons_self hfits)
      exact htrans _ _ _ hfirst (ih fun x hx => hact x (List.mem_cons_of_mem _ hx))

end Observed

end Oxpulse
