import Oxpulse.Foundation.Interleaving

/-!
# What a computation leaves alone

A computation preserves a property of the state when every segment that is entered
in it leaves it, whatever happens between the segments as long as the property is
kept there. Then it may run among any others that do (`Preserves.sat`).
-/

namespace Oxpulse.Coroutine

universe u

variable {ρ σ ε α β : Type u} {K : σ → Prop}

/-- The property holds where the outcome suspends and where it settles. -/
def Outcome.Stays (K : σ → Prop) : Outcome ρ σ ε α → Prop
  | .ret s _ => K s
  | .throw s _ => K s
  | .await s k => K s ∧ ∀ r s', K s' → Outcome.Stays K (k r s')

namespace Outcome

theorem Stays.bind {f : α → σ → Outcome ρ σ ε β} (hf : ∀ a s, K s → (f a s).Stays K) :
    ∀ {o : Outcome ρ σ ε α}, o.Stays K → (o.bind f).Stays K
  | .ret s a, h => hf a s h
  | .throw _ _, h => h
  | .await _ _, ⟨hs, hk⟩ => ⟨hs, fun r s' hs' => (hk r s' hs').bind hf⟩

theorem Stays.attempt : ∀ {o : Outcome ρ σ ε α}, o.Stays K → o.attempt.Stays K
  | .ret _ _, h => h
  | .throw _ _, h => h
  | .await _ _, ⟨hs, hk⟩ => ⟨hs, fun r s' hs' => (hk r s' hs').attempt⟩

theorem Stays.later : ∀ {o : Outcome ρ σ ε α}, o.Stays K → o.later.Stays K
  | .ret _ _, h => ⟨h, fun _ _ h' => h'⟩
  | .throw _ _, h => ⟨h, fun _ _ h' => h'⟩
  | .await _ _, ⟨hs, hk⟩ => ⟨hs, fun r s' hs' => (hk r s' hs').later⟩

theorem Stays.sat : ∀ {o : Outcome ρ σ ε α}, o.Stays K → ∀ s₀ : σ,
    o.Sat K (fun _ _ => True) (fun _ _ => True) (fun s _ => K s) s₀
  | .ret _ _, h, _ => ⟨trivial, h⟩
  | .throw _ _, h, _ => ⟨trivial, h⟩
  | .await _ _, ⟨hs, hk⟩, _ => ⟨hs, trivial, fun r s' hs' _ => (hk r s' hs').sat s'⟩

/-- What every segment keeps stays. -/
theorem Sat.stays {G : σ → σ → Prop} {Q : σ → Except ε α → Prop}
    (hG : ∀ s s', K s → G s s' → K s') : ∀ {o : Outcome ρ σ ε α} {s₀ : σ}, K s₀ →
      o.Sat (fun _ => True) (fun _ _ => True) G Q s₀ → o.Stays K
  | .ret _ _, _, hs, ⟨h, _⟩ => hG _ _ hs h
  | .throw _ _, _, hs, ⟨h, _⟩ => hG _ _ hs h
  | .await _ _, _, hs, ⟨_, h, hk⟩ =>
      ⟨hG _ _ hs h, fun r s' hs' => (hk r s' trivial trivial).stays hG hs'⟩

end Outcome

namespace Co

/-- Every segment that is entered in `K` leaves `K`. -/
def Preserves (K : σ → Prop) (co : Co ρ σ ε α) : Prop := ∀ s, K s → (co s).Stays K

theorem Preserves.sat {co : Co ρ σ ε α} (h : Preserves K co) {s : σ} (hs : K s) :
    (co s).Sat K (fun _ _ => True) (fun _ _ => True) (fun s _ => K s) s :=
  (h s hs).sat s

theorem preserves_value (a : α) : Preserves K (pure a : Co ρ σ ε α) := fun _ hs => hs

theorem preserves_throw (e : ε) : Preserves K (throw e : Co ρ σ ε α) := fun _ hs => hs

theorem preserves_suspend : Preserves K (Co.suspend : Co ρ σ ε ρ) :=
  fun _ hs => ⟨hs, fun _ _ hs' => hs'⟩

theorem preserves_modify {f : σ → σ} (hf : ∀ s, K s → K (f s)) :
    Preserves K (modify f : Co ρ σ ε PUnit) := hf

theorem preserves_ofExcept (x : Except ε α) : Preserves K (Co.ofExcept x : Co ρ σ ε α) := by
  cases x with
  | ok a => exact preserves_value a
  | error e => exact preserves_throw e

theorem Preserves.bind {co : Co ρ σ ε α} {f : α → Co ρ σ ε β} (h : Preserves K co)
    (hf : ∀ a, Preserves K (f a)) : Preserves K (co >>= f) :=
  fun s hs => (h s hs).bind hf

/-- What is read of the state decides how to go on. -/
theorem preserves_read {f : σ → Co ρ σ ε α} (hf : ∀ s, Preserves K (f s)) :
    Preserves K (get >>= f) :=
  fun s hs => hf s s hs

theorem Preserves.attempt {co : Co ρ σ ε α} (h : Preserves K co) : Preserves K (Co.attempt co) :=
  fun s hs => (h s hs).attempt

theorem Preserves.await {co : Co ρ σ ε α} (h : Preserves K co) : Preserves K (Co.await co) :=
  fun s hs => (h s hs).later

theorem preserves_ite {c : Prop} [Decidable c] {co co' : Co ρ σ ε α} (h : Preserves K co)
    (h' : Preserves K co') : Preserves K (if c then co else co') := by
  split
  · exact h
  · exact h'

end Co

end Oxpulse.Coroutine
