import Oxpulse.Foundation.Coroutine

/-!
# Where a coroutine pauses

Played alone, a coroutine pauses in a few states only. A lens that is lawful in those is
enough to play a coroutine over a component (`Pauses.run_zoom`), also where it is not lawful
in others.
-/

namespace Oxpulse.Coroutine

universe u

variable {ρ σ τ ε α β : Type u}

namespace Outcome

/-- It holds wherever the outcome, played with this reply, suspends. -/
def Pauses (I : σ → Prop) (r : ρ) : Outcome ρ σ ε α → Prop
  | ret _ _ => True
  | throw _ _ => True
  | await s k => I s ∧ (k r s).Pauses I r

variable {I : σ → Prop} {r : ρ}

theorem pauses_true (r : ρ) (o : Outcome ρ σ ε α) : o.Pauses (fun _ => True) r := by
  induction o with
  | ret s a => trivial
  | throw s e => trivial
  | await s k ih => exact ⟨trivial, ih r s⟩

theorem Pauses.bind {o : Outcome ρ σ ε α} {f : α → σ → Outcome ρ σ ε β} (h : o.Pauses I r)
    (hf : ∀ s a, o.run r = (s, .ok a) → (f a s).Pauses I r) : (o.bind f).Pauses I r := by
  induction o with
  | ret s a => exact hf s a rfl
  | throw s e => trivial
  | await s k ih => exact ⟨h.1, ih r s h.2 hf⟩

theorem Pauses.later {o : Outcome ρ σ ε α} (h : o.Pauses I r) (hend : I (o.run r).1) :
    o.later.Pauses I r := by
  induction o with
  | ret s a => exact ⟨hend, trivial⟩
  | throw s e => exact ⟨hend, trivial⟩
  | await s k ih => exact ⟨h.1, ih r s h.2 hend⟩

theorem Pauses.attempt {o : Outcome ρ σ ε α} (h : o.Pauses I r) : o.attempt.Pauses I r := by
  induction o with
  | ret s a => trivial
  | throw s e => trivial
  | await s k ih => exact ⟨h.1, ih r s h.2⟩

theorem pauses_zoom {get : τ → σ} {put : σ → τ → τ} {J : τ → Prop}
    (hJ : ∀ s t, J t → J (put s t)) (r : ρ) (o : Outcome ρ σ ε α) {t : τ} (ht : J t) :
    (o.zoom get put t).Pauses J r := by
  induction o generalizing t with
  | ret s a => trivial
  | throw s e => trivial
  | await s k ih => exact ⟨hJ s t ht, ih r _ (hJ s t ht)⟩

/-- Alone, a coroutine over a component is the component's run, if the lens is lawful
where it pauses. -/
theorem Pauses.run_zoom {get : τ → σ} {put : σ → τ → τ} {t₀ : τ}
    (hget : ∀ s, I s → get (put s t₀) = s)
    (hput : ∀ s s', I s' → put s (put s' t₀) = put s t₀) {o : Outcome ρ σ ε α}
    (h : o.Pauses I r) :
    (o.zoom get put t₀).run r = (put (o.run r).1 t₀, (o.run r).2) := by
  suffices hgeneral : ∀ t, (∀ s, put s t = put s t₀) →
      (o.zoom get put t).run r = (put (o.run r).1 t₀, (o.run r).2) from hgeneral t₀ fun _ => rfl
  induction o with
  | ret s a =>
      intro t ht
      exact Prod.ext (ht s) rfl
  | throw s e =>
      intro t ht
      exact Prod.ext (ht s) rfl
  | await s k ih =>
      intro t ht
      show ((k r (get (put s t))).zoom get put (put s t)).run r = _
      rw [ht s, hget s h.1]
      exact ih r s h.2 (put s t₀) fun s' => hput s' s h.1

end Outcome

namespace Co

/-- It holds wherever the coroutine, played from `s` with this reply, suspends. -/
def Pauses (I : σ → Prop) (r : ρ) (m : Co ρ σ ε α) (s : σ) : Prop := (m s).Pauses I r

variable {I : σ → Prop} {r : ρ} {s : σ}

theorem Pauses.value {a : α} : Pauses I r (pure a : Co ρ σ ε α) s := trivial

theorem Pauses.bind {m : Co ρ σ ε α} {f : α → Co ρ σ ε β} (h : m.Pauses I r s)
    (hf : ∀ s' a, m.run r s = (s', .ok a) → (f a).Pauses I r s') : (m >>= f).Pauses I r s :=
  Outcome.Pauses.bind h hf

theorem Pauses.assign_bind {f : σ → σ} {m : PUnit → Co ρ σ ε β}
    (h : (m ⟨⟩).Pauses I r (f s)) : Pauses I r (modify f >>= m) s :=
  h

theorem Pauses.await {m : Co ρ σ ε α} (h : m.Pauses I r s) (hend : I (m.run r s).1) :
    (await m).Pauses I r s :=
  Outcome.Pauses.later h hend

theorem Pauses.attempt {m : Co ρ σ ε α} (h : m.Pauses I r s) : (attempt m).Pauses I r s :=
  Outcome.Pauses.attempt h

theorem Pauses.ofExcept (x : Except ε α) : Pauses I r (ofExcept x : Co ρ σ ε α) s := by
  cases x with
  | ok a => trivial
  | error e => trivial

theorem Pauses.run_zoom {get : τ → σ} {put : σ → τ → τ} {t : τ}
    (hget : ∀ s, I s → get (put s t) = s) (hput : ∀ s s', I s' → put s (put s' t) = put s t)
    {m : Co ρ σ ε α} (h : m.Pauses I r (get t)) :
    (zoom get put m).run r t = (put (m.run r (get t)).1 t, (m.run r (get t)).2) :=
  Outcome.Pauses.run_zoom hget hput h

end Co

end Oxpulse.Coroutine
