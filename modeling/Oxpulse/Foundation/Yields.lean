import Oxpulse.Foundation.Interleaving

/-!
# What a computation may settle with

As long as a property of the state is kept, at the suspensions by the others and in the
segments by the computation itself, the computation settles with a result of a certain
kind. Such a fact needs no relation between states, so it is found by following the
text of the computation, and can be added to any triple (`Triple.yields`).
-/

namespace Oxpulse.Coroutine

universe u

variable {ρ σ ε α β : Type u} {K : σ → Prop} {R G : σ → σ → Prop} {Q : σ → Except ε α → Prop}
  {V V' : Except ε α → Prop} {Vβ : Except ε β → Prop}

namespace Outcome

/-- The invariant need not be relied on where the others keep it. -/
theorem Sat.forget (stable : ∀ s s', K s → R s s' → K s') :
    ∀ {o : Outcome ρ σ ε α} {s₀ : σ}, o.Sat K R G Q s₀ → o.Sat (fun _ => True) R G Q s₀
  | .ret _ _, _, h => h
  | .throw _ _, _, h => h
  | .await _ _, _, ⟨hK, hG, hk⟩ =>
      ⟨trivial, hG, fun r s' _ hR => (hk r s' (stable _ _ hK hR) hR).forget stable⟩

end Outcome

namespace Co

/-- Entered and resumed in `K`, the computation stays in `K` and settles in `V`. -/
def Yields (K : σ → Prop) (V : Except ε α → Prop) (co : Co ρ σ ε α) : Prop :=
  ∀ s, K s → (co s).Sat K (fun _ _ => True) (fun _ _ => True) (fun s x => K s ∧ V x) s

theorem Yields.mono {co : Co ρ σ ε α} (h : Yields K V co) (hV : ∀ x, V x → V' x) :
    Yields K V' co :=
  fun s hs => (h s hs).mono (fun _ _ _ => trivial) fun _ x hx => ⟨hx.1, hV x hx.2⟩

theorem yields_value {a : α} (h : V (.ok a)) : Yields K V (pure a : Co ρ σ ε α) :=
  fun _ hs => ⟨trivial, hs, h⟩

theorem yields_throw {e : ε} (h : V (.error e)) : Yields K V (throw e : Co ρ σ ε α) :=
  fun _ hs => ⟨trivial, hs, h⟩

theorem Yields.bind {co : Co ρ σ ε α} {f : α → Co ρ σ ε β} (h : Yields K V co)
    (hok : ∀ a, V (.ok a) → Yields K Vβ (f a)) (herr : ∀ e, V (.error e) → Vβ (.error e)) :
    Yields K Vβ (co >>= f) := by
  intro s hs
  refine (h s hs).bind (fun _ _ _ => trivial) (fun _ _ _ _ _ => trivial) ?_ ?_
  · rintro s a ⟨hs, ha⟩
    exact hok a ha s hs
  · rintro s e ⟨hs, he⟩
    exact ⟨hs, herr e he⟩

theorem Yields.attempt_bind {co : Co ρ σ ε α} {f : Except ε α → Co ρ σ ε β} (h : Yields K V co)
    (hf : ∀ x, V x → Yields K Vβ (f x)) : Yields K Vβ (Co.attempt co >>= f) := by
  intro s hs
  refine (h s hs).attempt_bind (fun _ _ _ _ _ => trivial) ?_
  rintro s x ⟨hs, hx⟩
  exact hf x hx s hs

theorem yields_suspend {f : ρ → Co ρ σ ε β} (h : ∀ r, Yields K Vβ (f r)) :
    Yields K Vβ (Co.suspend >>= f) :=
  fun _ hs => ⟨hs, trivial, fun r s' hs' _ => h r s' hs'⟩

theorem yields_read {f : σ → Co ρ σ ε β} (h : ∀ s, K s → Yields K Vβ (f s)) :
    Yields K Vβ (get >>= f) :=
  fun s hs => h s hs s hs

theorem yields_modify {f : σ → σ} {co : Co ρ σ ε β} (hf : ∀ s, K s → K (f s))
    (h : Yields K Vβ co) : Yields K Vβ (modify f >>= fun _ => co) :=
  fun s hs => (h (f s) (hf s hs)).precede fun _ _ => trivial

/-- **Into a triple.** -/
theorem Triple.yields {co : Co ρ σ ε α} {s : σ} (h : Triple R G Q co s) (hco : Yields K V co)
    (stable : ∀ s s', K s → R s s' → K s') (hs : K s) :
    Triple R G (fun s x => Q s x ∧ V x) co s := by
  have hboth := (Outcome.Sat.and h (hco s hs)).rely fun s s' (hR : R s s') => ⟨hR, trivial⟩
  simp only [true_and, and_true] at hboth
  exact (hboth.forget stable).mono (fun _ _ hG => hG) fun _ _ hx => ⟨hx.1, hx.2.2⟩

end Co

end Oxpulse.Coroutine
