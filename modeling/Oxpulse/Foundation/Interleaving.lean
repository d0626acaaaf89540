import Mathlib.Data.List.Basic
import Mathlib.Data.List.Induction
import Oxpulse.Foundation.Coroutine
import Oxpulse.Foundation.Histories

/-!
# Interleaved coroutines

A `Pool` is a shared state with every call that was ever started over it: a
call is pending at a suspension point or settled with its result. A `Move`
starts a call — its first segment runs at once — or resumes a pending one with
a reply. A list of moves is a schedule, and a theorem about every list of moves
is a theorem about every interleaving at the suspension points.

The rule for such theorems is rely-guarantee. `Outcome.Sat I R G Q` says that
each segment takes the state along the guarantee `G`, suspends in states of the
invariant `I` and leaves `Q` when the call settles; at a suspension it may rely
on `I` and on the state having moved along `R`. When every call gives what the
others rely on, `exec_sound` carries all of it through any schedule.
-/

namespace Oxpulse.Coroutine

universe u

variable {ι ρ σ τ ε α β : Type u}

/-! ## Rely-guarantee triples -/

/-- Every segment of the outcome, entered from `s₀`, moves the state along `G`;
it suspends in `I`, relies on `I` and `R` when it is resumed, and settling
leaves `Q`. -/
def Outcome.Sat (I : σ → Prop) (R G : σ → σ → Prop) (Q : σ → Except ε α → Prop) :
    σ → Outcome ρ σ ε α → Prop
  | s₀, .ret s a => G s₀ s ∧ Q s (.ok a)
  | s₀, .throw s e => G s₀ s ∧ Q s (.error e)
  | s₀, .await s k =>
      I s ∧ G s₀ s ∧ ∀ r s', I s' → R s s' → Outcome.Sat I R G Q s' (k r s')

namespace Outcome

variable {I : σ → Prop} {R G : σ → σ → Prop} {Q Q' : σ → Except ε α → Prop}

theorem Sat.guarantee {o : Outcome ρ σ ε α} {s₀ : σ} (h : o.Sat I R G Q s₀) :
    G s₀ o.state := by
  cases o with
  | ret s a => exact h.1
  | throw s e => exact h.1
  | await s k => exact h.2.1

/-- A call that runs alone leaves its postcondition. -/
theorem Sat.run (hrefl : ∀ s, R s s) (r : ρ) : ∀ {o : Outcome ρ σ ε α} {s₀ : σ},
    o.Sat I R G Q s₀ → Q (o.run r).1 (o.run r).2
  | .ret _ _, _, h => h.2
  | .throw _ _, _, h => h.2
  | .await s _, _, ⟨hI, _, hk⟩ => (hk r s hI (hrefl s)).run hrefl r

/-- **Consequence.** -/
theorem Sat.mono {G' : σ → σ → Prop} (hG : ∀ s s', G s s' → G' s s')
    (hQ : ∀ s x, Q s x → Q' s x) :
    ∀ {o : Outcome ρ σ ε α} {s₀ : σ}, o.Sat I R G Q s₀ → o.Sat I R G' Q' s₀
  | .ret _ _, _, ⟨hGs, hQs⟩ => ⟨hG _ _ hGs, hQ _ _ hQs⟩
  | .throw _ _, _, ⟨hGs, hQs⟩ => ⟨hG _ _ hGs, hQ _ _ hQs⟩
  | .await _ _, _, ⟨hI, hGs, hk⟩ =>
      ⟨hI, hG _ _ hGs, fun r s' hI' hR' => (hk r s' hI' hR').mono hG hQ⟩

theorem sat_true : ∀ (o : Outcome ρ σ ε α) (s₀ : σ),
    o.Sat (fun _ => True) (fun _ _ => True) (fun _ _ => True) (fun _ _ => True) s₀
  | .ret _ _, _ => ⟨trivial, trivial⟩
  | .throw _ _, _ => ⟨trivial, trivial⟩
  | .await _ k, _ => ⟨trivial, trivial, fun r s' _ _ => sat_true (k r s') s'⟩

/-- The invariant becomes a part of what is kept and relied on. -/
theorem Sat.internal (hQI : ∀ s x, Q s x → I s) :
    ∀ {o : Outcome ρ σ ε α} {s₀ : σ}, o.Sat I R G Q s₀ →
      o.Sat (fun _ => True) (fun s s' => I s → I s' ∧ R s s') (fun s s' => I s' ∧ G s s') Q s₀
  | .ret _ _, _, ⟨hG, hQ⟩ => ⟨⟨hQI _ _ hQ, hG⟩, hQ⟩
  | .throw _ _, _, ⟨hG, hQ⟩ => ⟨⟨hQI _ _ hQ, hG⟩, hQ⟩
  | .await _ _, _, ⟨hI, hG, hk⟩ =>
      ⟨trivial, ⟨hI, hG⟩, fun r s' _ hR =>
        (hk r s' (hR hI).1 (hR hI).2).internal hQI⟩

/-- Two triples of one outcome hold together. -/
theorem Sat.and {I' : σ → Prop} {R' G' : σ → σ → Prop} :
    ∀ {o : Outcome ρ σ ε α} {s₀ : σ}, o.Sat I R G Q s₀ → o.Sat I' R' G' Q' s₀ →
      o.Sat (fun s => I s ∧ I' s) (fun s s' => R s s' ∧ R' s s')
        (fun s s' => G s s' ∧ G' s s') (fun s x => Q s x ∧ Q' s x) s₀
  | .ret _ _, _, ⟨hG, hQ⟩, ⟨hG', hQ'⟩ => ⟨⟨hG, hG'⟩, hQ, hQ'⟩
  | .throw _ _, _, ⟨hG, hQ⟩, ⟨hG', hQ'⟩ => ⟨⟨hG, hG'⟩, hQ, hQ'⟩
  | .await _ _, _, ⟨hI, hG, hk⟩, ⟨hI', hG', hk'⟩ =>
      ⟨⟨hI, hI'⟩, ⟨hG, hG'⟩, fun r s' hIs hRs =>
        (hk r s' hIs.1 hRs.1).and (hk' r s' hIs.2 hRs.2)⟩

/-- The others may give more than is relied on. -/
theorem Sat.rely {R' : σ → σ → Prop} (hR : ∀ s s', R' s s' → R s s') :
    ∀ {o : Outcome ρ σ ε α} {s₀ : σ}, o.Sat I R G Q s₀ → o.Sat I R' G Q s₀
  | .ret _ _, _, h => h
  | .throw _ _, _, h => h
  | .await _ _, _, ⟨hI, hG, hk⟩ =>
      ⟨hI, hG, fun r s' hI' hR' => (hk r s' hI' (hR _ _ hR')).rely hR⟩

/-- A fact that the others keep holds again when the call is resumed. -/
theorem Sat.assume {U : σ → Prop} (stable : ∀ s s', U s → R s s' → U s') :
    ∀ {o : Outcome ρ σ ε α} {s₀ : σ},
      o.Sat (fun s => I s ∧ U s) R G Q s₀ → o.Sat I R G Q s₀
  | .ret _ _, _, h => h
  | .throw _ _, _, h => h
  | .await _ _, _, ⟨⟨hI, hU⟩, hG, hk⟩ =>
      ⟨hI, hG, fun r s' hI' hR' =>
        (hk r s' ⟨hI', stable _ _ hU hR'⟩ hR').assume stable⟩

/-- What every segment and the others keep holds at each suspension and when the call
settles. -/
theorem Sat.keeps (K : σ → Prop) (hG : ∀ s s', K s → G s s' → K s')
    (hR : ∀ s s', K s → R s s' → K s') :
    ∀ {o : Outcome ρ σ ε α} {s₀ : σ}, K s₀ → o.Sat I R G Q s₀ →
      o.Sat (fun s => I s ∧ K s) R G (fun s x => K s ∧ Q s x) s₀
  | .ret _ _, _, hs₀, ⟨hGs, hQ⟩ => ⟨hGs, hG _ _ hs₀ hGs, hQ⟩
  | .throw _ _, _, hs₀, ⟨hGs, hQ⟩ => ⟨hGs, hG _ _ hs₀ hGs, hQ⟩
  | .await _ _, _, hs₀, ⟨hI, hGs, hk⟩ =>
      ⟨⟨hI, hG _ _ hs₀ hGs⟩, hGs, fun r s' hI' hR' =>
        (hk r s' hI'.1 hR').keeps K hG hR (hR _ _ (hG _ _ hs₀ hGs) hR')⟩

/-- The part of the segment before `s₁` is absorbed. -/
theorem Sat.precede {o : Outcome ρ σ ε α} {s₀ s₁ : σ} (absorb : ∀ s, G s₁ s → G s₀ s)
    (h : o.Sat I R G Q s₁) : o.Sat I R G Q s₀ := by
  cases o with
  | ret s a => exact ⟨absorb s h.1, h.2⟩
  | throw s e => exact ⟨absorb s h.1, h.2⟩
  | await s k => exact ⟨h.1, absorb s h.2.1, h.2.2⟩

/-- What follows the first part goes on in its last segment, which began in `s₁`. -/
theorem Sat.proceed {G' : σ → σ → Prop} (weaken : ∀ a b, G' a b → G a b)
    {Qβ : σ → Except ε β → Prop} {f : α → σ → Outcome ρ σ ε β}
    (hok : ∀ s₁ s a, G' s₁ s → Q s (.ok a) → (f a s).Sat I R G Qβ s₁)
    (herr : ∀ s e, Q s (.error e) → Qβ s (.error e)) :
    ∀ {o : Outcome ρ σ ε α} {s₀ : σ}, o.Sat I R G' Q s₀ → (o.bind f).Sat I R G Qβ s₀
  | .ret s a, s₀, ⟨hG, hQ⟩ => hok s₀ s a hG hQ
  | .throw s e, _, ⟨hG, hQ⟩ => ⟨weaken _ _ hG, herr s e hQ⟩
  | .await _ _, _, ⟨hI, hG, hk⟩ =>
      ⟨hI, weaken _ _ hG, fun r s' hI' hR' => (hk r s' hI' hR').proceed weaken hok herr⟩

/-- **Sequencing.** What the first part leaves is where the second one starts,
in the same segment: the guarantee of the first part is absorbed by the one of
the whole. -/
theorem Sat.bind {G' : σ → σ → Prop} (weaken : ∀ a b, G' a b → G a b)
    (absorb : ∀ a b c, G' a b → G b c → G a c)
    {Qβ : σ → Except ε β → Prop} {f : α → σ → Outcome ρ σ ε β}
    (hok : ∀ s a, Q s (.ok a) → (f a s).Sat I R G Qβ s)
    (herr : ∀ s e, Q s (.error e) → Qβ s (.error e)) {o : Outcome ρ σ ε α} {s₀ : σ}
    (h : o.Sat I R G' Q s₀) : (o.bind f).Sat I R G Qβ s₀ :=
  h.proceed weaken (fun s₁ s a hG hQ => (hok s a hQ).precede fun s' => absorb s₁ s s' hG) herr

/-- **Awaiting.** The result is seen after one more suspension, so it has to be
stable. -/
theorem Sat.later (refl : ∀ s, G s s) (hQI : ∀ s x, Q s x → I s)
    (stable : ∀ s s' x, Q s x → I s' → R s s' → Q s' x) :
    ∀ {o : Outcome ρ σ ε α} {s₀ : σ}, o.Sat I R G Q s₀ → o.later.Sat I R G Q s₀
  | .ret s _, _, ⟨hG, hQ⟩ =>
      ⟨hQI s _ hQ, hG, fun _ s' hI' hR' => ⟨refl s', stable s s' _ hQ hI' hR'⟩⟩
  | .throw s _, _, ⟨hG, hQ⟩ =>
      ⟨hQI s _ hQ, hG, fun _ s' hI' hR' => ⟨refl s', stable s s' _ hQ hI' hR'⟩⟩
  | .await _ _, _, ⟨hI, hG, hk⟩ =>
      ⟨hI, hG, fun r s' hI' hR' => (hk r s' hI' hR').later refl hQI stable⟩

/-- **Exceptions as values.** -/
theorem Sat.attempt {Q'' : σ → Except ε (Except ε α) → Prop}
    (hQ : ∀ s x, Q s x → Q'' s (.ok x)) :
    ∀ {o : Outcome ρ σ ε α} {s₀ : σ}, o.Sat I R G Q s₀ → o.attempt.Sat I R G Q'' s₀
  | .ret s a, _, ⟨hG, hQs⟩ => ⟨hG, hQ s (.ok a) hQs⟩
  | .throw s e, _, ⟨hG, hQs⟩ => ⟨hG, hQ s (.error e) hQs⟩
  | .await _ _, _, ⟨hI, hG, hk⟩ =>
      ⟨hI, hG, fun r s' hI' hR' => (hk r s' hI' hR').attempt hQ⟩

/-- What follows sees the result as a value, in the same segment. -/
theorem Sat.attempt_bind (absorb : ∀ a b c, G a b → G b c → G a c)
    {Qβ : σ → Except ε β → Prop} {f : Except ε α → σ → Outcome ρ σ ε β}
    (hf : ∀ s x, Q s x → (f x s).Sat I R G Qβ s) {o : Outcome ρ σ ε α} {s₀ : σ}
    (h : o.Sat I R G Q s₀) : (o.attempt.bind f).Sat I R G Qβ s₀ := by
  have hattempt : o.attempt.Sat I R G
      (fun s (x : Except ε (Except ε α)) => ∃ y, x = .ok y ∧ Q s y) s₀ :=
    h.attempt fun _ x hQ => ⟨x, rfl, hQ⟩
  refine hattempt.bind (fun _ _ h => h) absorb ?_ ?_
  · rintro s x ⟨y, hy, hQ⟩
    cases hy
    exact hf s x hQ
  · rintro s e ⟨y, hy, -⟩
    cases hy

/-- **What follows an await starts a segment of its own**, so its guarantee need
not absorb the one of the awaited call. -/
theorem Sat.await_bind (refl : ∀ s, G s s) (hQI : ∀ s x, Q s x → I s)
    (stable : ∀ s s' x, Q s x → I s' → R s s' → Q s' x)
    {Qβ : σ → Except ε β → Prop} {f : Except ε α → σ → Outcome ρ σ ε β}
    (hf : ∀ s x, Q s x → (f x s).Sat I R G Qβ s) :
    ∀ {o : Outcome ρ σ ε α} {s₀ : σ}, o.Sat I R G Q s₀ →
      (o.later.attempt.bind f).Sat I R G Qβ s₀
  | .ret s a, _, ⟨hG, hQ⟩ =>
      ⟨hQI s _ hQ, hG, fun _ s' hI' hR' => hf s' (.ok a) (stable s s' _ hQ hI' hR')⟩
  | .throw s e, _, ⟨hG, hQ⟩ =>
      ⟨hQI s _ hQ, hG, fun _ s' hI' hR' => hf s' (.error e) (stable s s' _ hQ hI' hR')⟩
  | .await _ _, _, ⟨hI, hG, hk⟩ =>
      ⟨hI, hG, fun r s' hI' hR' => (hk r s' hI' hR').await_bind refl hQI stable hf⟩

theorem Sat.later_bind (refl : ∀ s, G s s) (hQI : ∀ s x, Q s x → I s)
    (stable : ∀ s s' x, Q s x → I s' → R s s' → Q s' x)
    {Qβ : σ → Except ε β → Prop} {f : α → σ → Outcome ρ σ ε β}
    (hok : ∀ s a, Q s (.ok a) → (f a s).Sat I R G Qβ s)
    (herr : ∀ s e, Q s (.error e) → Qβ s (.error e)) {o : Outcome ρ σ ε α} {s₀ : σ}
    (h : o.Sat I R G Q s₀) : (o.later.bind f).Sat I R G Qβ s₀ := by
  rw [bind_eq_attempt]
  refine h.await_bind refl hQI stable fun s x hQ => ?_
  cases x with
  | ok a => exact hok s a hQ
  | error e => exact ⟨refl s, herr s e hQ⟩

/-- **Components.** A triple over a component is one over the state that holds
it, when the invariant and the relations of the whole restrict to it. -/
theorem Sat.zoom {get : τ → σ} {put : σ → τ → τ} {I' : τ → Prop} {R' G' : τ → τ → Prop}
    {Q' : τ → Except ε α → Prop}
    (hI : ∀ t s, I' t → G (get t) s → I s → I' (put s t))
    (hR : ∀ t s t', I' t → G (get t) s → I' t' → R' (put s t) t' → I (get t') ∧ R s (get t'))
    (hG : ∀ t s, I' t → G (get t) s → G' t (put s t))
    (hQ : ∀ t s x, I' t → G (get t) s → Q s x → Q' (put s t) x) :
    ∀ {o : Outcome ρ σ ε α} {t : τ}, I' t → o.Sat I R G Q (get t) →
      (o.zoom get put t).Sat I' R' G' Q' t
  | .ret s a, t, ht, ⟨hGs, hQs⟩ => ⟨hG t s ht hGs, hQ t s _ ht hGs hQs⟩
  | .throw s e, t, ht, ⟨hGs, hQs⟩ => ⟨hG t s ht hGs, hQ t s _ ht hGs hQs⟩
  | .await s _, t, ht, ⟨hIs, hGs, hk⟩ => by
      refine ⟨hI t s ht hGs hIs, hG t s ht hGs, fun r t' ht' hR' => ?_⟩
      obtain ⟨hIt, hRt⟩ := hR t s t' ht hGs ht' hR'
      exact (hk r _ hIt hRt).zoom hI hR hG hQ ht'

end Outcome

/-! ## Triples of coroutines -/

/-- The coroutine from `s`: its segments keep `G`, it relies on `R`, and it
leaves `Q`. -/
def Co.Triple (R G : σ → σ → Prop) (Q : σ → Except ε α → Prop) (co : Co ρ σ ε α) (s : σ) : Prop :=
  (co s).Sat (fun _ => True) R G Q s

namespace Co

variable {R G : σ → σ → Prop} {Q : σ → Except ε α → Prop} {Qβ : σ → Except ε β → Prop} {s : σ}

theorem Triple.value (refl : ∀ s, G s s) {a : α} (h : Q s (.ok a)) :
    Triple R G Q (pure a : Co ρ σ ε α) s :=
  ⟨refl s, h⟩

theorem Triple.raise (refl : ∀ s, G s s) {e : ε} (h : Q s (.error e)) :
    Triple R G Q (throw e : Co ρ σ ε α) s :=
  ⟨refl s, h⟩

theorem Triple.ofExcept (refl : ∀ s, G s s) {x : Except ε α} (h : Q s x) :
    Triple R G Q (Co.ofExcept x : Co ρ σ ε α) s := by
  cases x with
  | ok a => exact Triple.value refl h
  | error e => exact Triple.raise refl h

theorem Triple.assign {Q : σ → Except ε PUnit → Prop} {f : σ → σ} (hf : G s (f s))
    (h : Q (f s) (.ok ⟨⟩)) : Triple R G Q (modify f : Co ρ σ ε PUnit) s :=
  ⟨hf, h⟩

theorem Triple.mono {Q' : σ → Except ε α → Prop} {co : Co ρ σ ε α} (h : Triple R G Q co s)
    (hQ : ∀ s x, Q s x → Q' s x) : Triple R G Q' co s :=
  Outcome.Sat.mono (fun _ _ hG => hG) hQ h

theorem Triple.bind (trans : ∀ a b c, G a b → G b c → G a c) {co : Co ρ σ ε α}
    {f : α → Co ρ σ ε β} (h : Triple R G Q co s)
    (hok : ∀ s' a, Q s' (.ok a) → Triple R G Qβ (f a) s')
    (herr : ∀ s' e, Q s' (.error e) → Qβ s' (.error e)) : Triple R G Qβ (co >>= f) s :=
  Outcome.Sat.bind (fun _ _ h => h) trans hok herr h

/-- The assignments before a suspension are part of the segment. -/
theorem Triple.assign_bind (trans : ∀ a b c, G a b → G b c → G a c) {f : σ → σ}
    {co : PUnit → Co ρ σ ε α} (hf : G s (f s)) (h : Triple R G Q (co ⟨⟩) (f s)) :
    Triple R G Q (modify f >>= co) s :=
  Outcome.Sat.precede (fun s' h' => trans s (f s) s' hf h') h

theorem Triple.await (refl : ∀ s, G s s) (stable : ∀ s s' x, Q s x → R s s' → Q s' x)
    {co : Co ρ σ ε α} (h : Triple R G Q co s) : Triple R G Q (Co.await co) s :=
  Outcome.Sat.later refl (fun _ _ _ => trivial) (fun s s' x hQ _ => stable s s' x hQ) h

/-- `try { co } catch ...`: what follows sees the result as a value. -/
theorem Triple.attempt_bind (trans : ∀ a b c, G a b → G b c → G a c) {co : Co ρ σ ε α}
    {f : Except ε α → Co ρ σ ε β} (h : Triple R G Q co s)
    (hf : ∀ s' x, Q s' x → Triple R G Qβ (f x) s') :
    Triple R G Qβ (Co.attempt co >>= f) s :=
  Outcome.Sat.attempt_bind trans hf h

end Co

/-! ## Computations that end -/

/-- Whatever the replies are and whatever the others do, the computation ends
after at most so many suspensions. -/
def Outcome.EndsIn : ℕ → Outcome ρ σ ε α → Prop
  | _, .ret _ _ => True
  | _, .throw _ _ => True
  | 0, .await _ _ => False
  | n + 1, .await _ k => ∀ r s, Outcome.EndsIn n (k r s)

namespace Outcome

@[simp] theorem endsIn_ret {n : ℕ} {s : σ} {a : α} :
    EndsIn n (.ret s a : Outcome ρ σ ε α) := by
  cases n <;> trivial

@[simp] theorem endsIn_throw {n : ℕ} {s : σ} {e : ε} :
    EndsIn n (.throw s e : Outcome ρ σ ε α) := by
  cases n <;> trivial

theorem EndsIn.mono {m n : ℕ} (hmn : m ≤ n) {o : Outcome ρ σ ε α} (h : o.EndsIn m) :
    o.EndsIn n := by
  induction o generalizing m n with
  | ret s a => exact endsIn_ret
  | throw s e => exact endsIn_throw
  | await s k ih =>
      cases m with
      | zero => cases h
      | succ m =>
          cases n with
          | zero => cases hmn
          | succ n => exact fun r s' => ih r s' (Nat.le_of_succ_le_succ hmn) (h r s')

theorem EndsIn.bind {f : α → σ → Outcome ρ σ ε β} {m n : ℕ} (hf : ∀ a s, (f a s).EndsIn n)
    {o : Outcome ρ σ ε α} (h : o.EndsIn m) : (o.bind f).EndsIn (m + n) := by
  induction o generalizing m with
  | ret s a => exact (hf a s).mono (Nat.le_add_left n m)
  | throw s e => exact endsIn_throw
  | await s k ih =>
      cases m with
      | zero => cases h
      | succ m =>
          rw [Nat.succ_add]
          exact fun r s' => ih r s' (h r s')

theorem EndsIn.attempt {n : ℕ} {o : Outcome ρ σ ε α} (h : o.EndsIn n) : o.attempt.EndsIn n := by
  induction o generalizing n with
  | ret s a => exact endsIn_ret
  | throw s e => exact endsIn_ret
  | await s k ih =>
      cases n with
      | zero => cases h
      | succ n => exact fun r s' => ih r s' (h r s')

end Outcome

/-- The coroutine ends after at most so many suspensions. -/
def Co.EndsIn (n : ℕ) (co : Co ρ σ ε α) : Prop := ∀ s, (co s).EndsIn n

namespace Co

theorem EndsIn.value {n : ℕ} (a : α) : EndsIn n (pure a : Co ρ σ ε α) :=
  fun _ => Outcome.endsIn_ret

theorem EndsIn.ofExcept {n : ℕ} (x : Except ε α) : EndsIn n (Co.ofExcept x : Co ρ σ ε α) := by
  intro s
  cases x with
  | ok a => exact Outcome.endsIn_ret
  | error e => exact Outcome.endsIn_throw

theorem EndsIn.assign (f : σ → σ) : EndsIn 0 (modify f : Co ρ σ ε PUnit) :=
  fun _ => trivial

theorem EndsIn.suspend : EndsIn 1 (Co.suspend : Co ρ σ ε ρ) :=
  fun _ _ _ => trivial

theorem EndsIn.mono {m n : ℕ} (hmn : m ≤ n) {co : Co ρ σ ε α} (h : co.EndsIn m) : co.EndsIn n :=
  fun s => (h s).mono hmn

theorem EndsIn.bind {m n : ℕ} {co : Co ρ σ ε α} {f : α → Co ρ σ ε β} (h : co.EndsIn m)
    (hf : ∀ a, (f a).EndsIn n) : (co >>= f).EndsIn (m + n) :=
  fun s => (h s).bind hf

theorem EndsIn.attempt {n : ℕ} {co : Co ρ σ ε α} (h : co.EndsIn n) : (Co.attempt co).EndsIn n :=
  fun s => (h s).attempt

theorem EndsIn.read {n : ℕ} {f : σ → Co ρ σ ε α} (h : ∀ s, (f s).EndsIn n) :
    (get >>= f).EndsIn n :=
  fun s => h s s

end Co

/-! ## Pools and schedules -/

/-- A call waits at a suspension point or has settled. -/
inductive Status (ρ σ ε α : Type u) : Type u where
  | pending (k : ρ → σ → Outcome ρ σ ε α)
  | settled (r : Except ε α)

/-- The result of a call that resolved. -/
def Status.value? : Status ρ σ ε α → Option α
  | .settled (.ok a) => some a
  | _ => none

theorem Status.value?_eq_some {st : Status ρ σ ε α} {a : α} :
    st.value? = some a ↔ st = .settled (.ok a) := by
  constructor
  · intro h
    cases st with
    | pending k => cases h
    | settled r =>
        cases r with
        | error e => cases h
        | ok b => cases h; rfl
  · rintro rfl
    rfl

def Status.isPending : Status ρ σ ε α → Bool
  | .pending _ => true
  | .settled _ => false

theorem Status.exists_settled {st : Status ρ σ ε α} (h : st.isPending = false) :
    ∃ r, st = .settled r := by
  cases st with
  | pending k => cases h
  | settled r => exact ⟨r, rfl⟩

/-- A started call: what it was called with and how far it got. -/
structure Call (ι ρ σ ε α : Type u) : Type u where
  arg : ι
  status : Status ρ σ ε α

/-- The shared state and every call started over it, in starting order. -/
structure Pool (ι ρ σ ε α : Type u) : Type u where
  shared : σ
  calls : List (Call ι ρ σ ε α)

/-- One choice of the scheduler. -/
inductive Move (ι ρ : Type u) : Type u where
  | start (arg : ι)
  | resume (i : ℕ) (r : ρ)

/-- What a schedule starts, in order. -/
def starts : List (Move ι ρ) → List ι
  | [] => []
  | .start a :: ms => a :: starts ms
  | .resume _ _ :: ms => starts ms

theorem starts_append (ms ms' : List (Move ι ρ)) :
    starts (ms ++ ms') = starts ms ++ starts ms' := by
  induction ms with
  | nil => rfl
  | cons mv ms ih =>
      cases mv with
      | start a => exact congrArg (List.cons a) ih
      | resume i r => exact ih

/-- A start is told apart by how many were before it. -/
theorem starts_split_unique {pre pre' post post' : List (Move ι ρ)} {a a' : ι}
    (heq : pre ++ .start a :: post = pre' ++ .start a' :: post')
    (hlen : (starts pre).length = (starts pre').length) : pre = pre' := by
  induction pre generalizing pre' with
  | nil =>
      cases pre' with
      | nil => rfl
      | cons mv pre' =>
          cases heq
          cases hlen
  | cons mv pre ih =>
      cases pre' with
      | nil =>
          cases heq
          cases hlen
      | cons mv' pre' =>
          rw [List.cons_append, List.cons_append, List.cons.injEq] at heq
          obtain ⟨rfl, htail⟩ := heq
          cases mv with
          | start b => rw [ih htail (Nat.succ.inj hlen)]
          | resume i r => rw [ih htail hlen]

/-- How a call stands after a segment that ended in this outcome. -/
def Outcome.status : Outcome ρ σ ε α → Status ρ σ ε α
  | .ret _ a => .settled (.ok a)
  | .throw _ e => .settled (.error e)
  | .await _ k => .pending k

/-- A call over a component, seen from the state that holds it. -/
def Status.zoom (get : τ → σ) (put : σ → τ → τ) : Status ρ σ ε α → Status ρ τ ε α
  | .pending k => .pending fun r t => (k r (get t)).zoom get put t
  | .settled x => .settled x

theorem Outcome.state_zoom {get : τ → σ} {put : σ → τ → τ} (o : Outcome ρ σ ε α) (t : τ) :
    (o.zoom get put t).state = put o.state t := by
  cases o <;> rfl

theorem Outcome.status_zoom {get : τ → σ} {put : σ → τ → τ} (o : Outcome ρ σ ε α) (t : τ) :
    (o.zoom get put t).status = o.status.zoom get put := by
  cases o <;> rfl

namespace Pool

/-- No call was started yet. -/
def fresh (s : σ) : Pool ι ρ σ ε α := ⟨s, []⟩

/-- Start a call: its first segment runs at once. -/
def start (body : ι → Co ρ σ ε α) (p : Pool ι ρ σ ε α) (a : ι) : Pool ι ρ σ ε α :=
  ⟨(body a p.shared).state, p.calls ++ [⟨a, (body a p.shared).status⟩]⟩

/-- Resume call `i` with a reply; nothing happens when it is not pending. -/
def resume (p : Pool ι ρ σ ε α) (i : ℕ) (r : ρ) : Pool ι ρ σ ε α :=
  match p.calls[i]? with
  | some ⟨a, .pending k⟩ =>
      ⟨(k r p.shared).state, p.calls.set i ⟨a, (k r p.shared).status⟩⟩
  | _ => p

def step (body : ι → Co ρ σ ε α) (p : Pool ι ρ σ ε α) : Move ι ρ → Pool ι ρ σ ε α
  | .start a => p.start body a
  | .resume i r => p.resume i r

/-- Play a schedule. -/
def exec (body : ι → Co ρ σ ε α) (p : Pool ι ρ σ ε α) (ms : List (Move ι ρ)) :
    Pool ι ρ σ ε α :=
  ms.foldl (step body) p

variable {body : ι → Co ρ σ ε α} {p : Pool ι ρ σ ε α}

@[simp] theorem exec_nil : p.exec body [] = p := rfl

theorem exec_concat (ms : List (Move ι ρ)) (m : Move ι ρ) :
    p.exec body (ms ++ [m]) = (p.exec body ms).step body m := by
  simp [exec]

theorem exec_append (ms ms' : List (Move ι ρ)) :
    p.exec body (ms ++ ms') = (p.exec body ms).exec body ms' := by
  simp [exec]

/-- Only the status of a call ever changes. -/
theorem map_arg_set {calls : List (Call ι ρ σ ε α)} {i : ℕ} {a : ι} {st st' : Status ρ σ ε α}
    (hi : calls[i]? = some ⟨a, st⟩) :
    (calls.set i ⟨a, st'⟩).map Call.arg = calls.map Call.arg := by
  obtain ⟨hlt, hget⟩ := List.getElem?_eq_some_iff.mp hi
  have hlt' : i < (calls.map Call.arg).length := by
    rw [List.length_map]
    exact hlt
  have harg : a = (calls.map Call.arg)[i] := by
    rw [List.getElem_map, hget]
  rw [List.map_set]
  show (calls.map Call.arg).set i a = _
  rw [harg]
  exact List.set_getElem_self _

/-- Resuming a call that is not pending changes nothing. -/
theorem resume_cases (p : Pool ι ρ σ ε α) (i : ℕ) (r : ρ) :
    p.resume i r = p ∨
      ∃ a k, p.calls[i]? = some ⟨a, .pending k⟩ ∧
        p.resume i r =
          ⟨(k r p.shared).state, p.calls.set i ⟨a, (k r p.shared).status⟩⟩ := by
  unfold resume
  split
  · next a k h => exact Or.inr ⟨a, k, h, rfl⟩
  · exact Or.inl rfl

theorem resume_of_pending {i : ℕ} {a : ι} {k : ρ → σ → Outcome ρ σ ε α}
    (h : p.calls[i]? = some ⟨a, .pending k⟩) (r : ρ) :
    p.resume i r =
      ⟨(k r p.shared).state, p.calls.set i ⟨a, (k r p.shared).status⟩⟩ := by
  simp only [resume, h]

theorem resume_args (p : Pool ι ρ σ ε α) (i : ℕ) (r : ρ) :
    (p.resume i r).calls.map Call.arg = p.calls.map Call.arg := by
  rcases resume_cases p i r with h | ⟨a, k, hi, h⟩
  · rw [h]
  · rw [h]
    exact map_arg_set hi

/-- A schedule starts its calls in order and drops none. -/
theorem exec_args : ∀ (ms : List (Move ι ρ)) (p : Pool ι ρ σ ε α),
    (p.exec body ms).calls.map Call.arg = p.calls.map Call.arg ++ starts ms
  | [], p => (List.append_nil _).symm
  | .start a :: ms, p => by
      show ((p.start body a).exec body ms).calls.map Call.arg = _
      rw [exec_args ms, show (p.start body a).calls = p.calls ++ [_] from rfl, List.map_append,
        List.append_assoc]
      rfl
  | .resume i r :: ms, p => by
      show ((p.resume i r).exec body ms).calls.map Call.arg = _
      rw [exec_args ms, resume_args]
      rfl

/-- There is a call for each start. -/
theorem exec_length {s : σ} (ms : List (Move ι ρ)) :
    ((fresh s).exec body ms).calls.length = (starts ms).length := by
  have hargs : ((fresh s).exec body ms).calls.map Call.arg = starts ms := exec_args ms (fresh s)
  rw [← hargs, List.length_map]

/-- A call that resolved, by its place among the starts. -/
theorem exec_resolved {s : σ} {ms : List (Move ι ρ)} {i : ℕ} {a : ι} {b : α}
    (hstart : (starts ms)[i]? = some a)
    (hvalue : (((fresh s).exec body ms).calls[i]?.bind fun c => c.status.value?) = some b) :
    ((fresh s).exec body ms).calls[i]? = some ⟨a, .settled (.ok b)⟩ := by
  have hargs : ((fresh s).exec body ms).calls.map Call.arg = _ := exec_args ms (fresh s)
  obtain ⟨c, hc, hstatus⟩ := Option.bind_eq_some_iff.mp hvalue
  have harg : (((fresh s).exec body ms).calls.map Call.arg)[i]? = some c.arg := by
    rw [List.getElem?_map, hc]
    rfl
  rw [hargs, show (fresh s : Pool ι ρ σ ε α).calls = [] from rfl, List.map_nil, List.nil_append,
    hstart] at harg
  cases harg
  rw [hc, ← Status.value?_eq_some.mp hstatus]

/-- A call that has settled stays as it is. -/
theorem resume_settled {i j : ℕ} {a : ι} {x : Except ε α}
    (hj : p.calls[j]? = some ⟨a, .settled x⟩) (r : ρ) :
    (p.resume i r).calls[j]? = some ⟨a, .settled x⟩ := by
  rcases resume_cases p i r with h | ⟨b, k, hi, h⟩
  · rw [h]
    exact hj
  · rw [h]
    have hne : i ≠ j := by
      rintro rfl
      rw [hi] at hj
      cases hj
    exact (List.getElem?_set_ne hne).trans hj

theorem exec_settled {j : ℕ} {a : ι} {x : Except ε α} (hj : p.calls[j]? = some ⟨a, .settled x⟩)
    (ms : List (Move ι ρ)) : (p.exec body ms).calls[j]? = some ⟨a, .settled x⟩ := by
  induction ms using List.reverseRecOn with
  | nil => exact hj
  | append_singleton ms m ih =>
      rw [exec_concat]
      cases m with
      | start b => exact (List.getElem?_append_left (List.getElem?_eq_some_iff.mp ih).1).trans ih
      | resume i r => exact resume_settled ih r

/-! ## Running alone is a schedule -/

/-- A call that just ended this segment can be resumed to its end. -/
theorem exists_exec_replicate (body : ι → Co ρ σ ε α) (r : ρ) (i : ℕ) (a : ι) :
    ∀ (o : Outcome ρ σ ε α) (p : Pool ι ρ σ ε α),
      p.calls[i]? = some ⟨a, o.status⟩ → p.shared = o.state →
      ∃ k, (p.exec body (List.replicate k (.resume i r))).shared = (o.run r).1 ∧
        (p.exec body (List.replicate k (.resume i r))).calls[i]? =
          some ⟨a, .settled (o.run r).2⟩ := by
  intro o
  induction o with
  | ret s b =>
      intro p hi hs
      exact ⟨0, hs, hi⟩
  | throw s e =>
      intro p hi hs
      exact ⟨0, hs, hi⟩
  | await s k ih =>
      intro p hi hs
      have hstep := resume_of_pending hi r
      have hlt : i < p.calls.length := (List.getElem?_eq_some_iff.mp hi).1
      have hshared : p.shared = s := hs
      obtain ⟨k, hrun, hcall⟩ := ih r s (p.resume i r)
        (by rw [hstep, hshared, List.getElem?_set_self hlt]) (by rw [hstep, hshared])
      exact ⟨k + 1, hrun, hcall⟩

/-- **A call that runs alone is one of the schedules.** -/
theorem exists_exec_run (r : ρ) (p : Pool ι ρ σ ε α) (a : ι) :
    ∃ ms, (p.exec body (.start a :: ms)).shared = ((body a).run r p.shared).1 ∧
      (p.exec body (.start a :: ms)).calls[p.calls.length]? =
        some ⟨a, .settled ((body a).run r p.shared).2⟩ := by
  obtain ⟨k, hrun, hcall⟩ := exists_exec_replicate body r p.calls.length a (body a p.shared)
    (p.start body a) List.getElem?_concat_length rfl
  exact ⟨_, hrun, hcall⟩

/-! ## The steps of a schedule -/

theorem concat_cases {δ : Type u} {l : List δ} {b c : δ} {i : ℕ} (h : (l ++ [b])[i]? = some c) :
    (i < l.length ∧ l[i]? = some c) ∨ (i = l.length ∧ c = b) := by
  rcases Nat.lt_trichotomy i l.length with hlt | heq | hgt
  · rw [List.getElem?_append_left hlt] at h
    exact Or.inl ⟨hlt, h⟩
  · subst heq
    rw [List.getElem?_concat_length] at h
    cases h
    exact Or.inr ⟨rfl, rfl⟩
  · rw [List.getElem?_eq_none (by rw [List.length_append]; exact hgt)] at h
    cases h

theorem concat_ne {δ : Type u} {l : List δ} {b : δ} {i : ℕ} (hne : l.length ≠ i) :
    (l ++ [b])[i]? = l[i]? := by
  rcases Nat.lt_or_gt_of_ne hne with hlt | hgt
  · rw [List.getElem?_eq_none (Nat.le_of_lt hlt)]
    refine List.getElem?_eq_none ?_
    rw [List.length_append]
    exact hlt
  · exact List.getElem?_append_left hgt

theorem set_cases {δ : Type u} {l : List δ} {b c : δ} {i j : ℕ} (h : (l.set i b)[j]? = some c) :
    (i ≠ j ∧ l[j]? = some c) ∨ (i = j ∧ c = b) := by
  rw [List.getElem?_set] at h
  split at h
  next heq =>
    split at h
    · cases h
      exact Or.inr ⟨heq, rfl⟩
    · cases h
  next hne => exact Or.inl ⟨hne, h⟩

/-! ## Calls that end -/

/-- The call has settled when it is resumed so many times. -/
def EndsAfter (n : ℕ) : Status ρ σ ε α → Prop
  | .settled _ => True
  | .pending k => ∃ m, n = m + 1 ∧ ∀ r s, (k r s).EndsIn m

theorem endsAfter_status {n : ℕ} {o : Outcome ρ σ ε α} (h : o.EndsIn n) :
    EndsAfter n o.status := by
  cases o with
  | ret s a => trivial
  | throw s e => trivial
  | await s k =>
      cases n with
      | zero => cases h
      | succ m => exact ⟨m, rfl, h⟩

/-- The move resumes this call. -/
def resumes (i : ℕ) : Move ι ρ → Bool
  | .start _ => false
  | .resume j _ => j = i

theorem resume_ne {i j : ℕ} (h : j ≠ i) (r : ρ) : (p.resume j r).calls[i]? = p.calls[i]? := by
  rcases resume_cases p j r with hr | ⟨a, k, -, hr⟩
  · rw [hr]
  · rw [hr]
    exact List.getElem?_set_ne h

/-- Every resumption of a call takes it one suspension further. -/
theorem endsAfter_exec {i n : ℕ} {a : ι} {st : Status ρ σ ε α} (hi : p.calls[i]? = some ⟨a, st⟩)
    (hst : EndsAfter n st) (ms : List (Move ι ρ)) :
    ∃ st', (p.exec body ms).calls[i]? = some ⟨a, st'⟩ ∧
      EndsAfter (n - ms.countP (resumes i)) st' := by
  induction ms using List.reverseRecOn with
  | nil => exact ⟨st, hi, hst⟩
  | append_singleton ms mv ih =>
      obtain ⟨st', hi', hst'⟩ := ih
      have hlt := (List.getElem?_eq_some_iff.mp hi').1
      rw [exec_concat, List.countP_append, List.countP_singleton]
      cases mv with
      | start b =>
          refine ⟨st', ?_, hst'⟩
          show ((p.exec body ms).calls ++ [_])[i]? = _
          rw [List.getElem?_append_left hlt, hi']
      | resume j r =>
          by_cases hji : j = i
          · subst hji
            rw [if_pos (by simp [resumes])]
            cases st' with
            | settled x =>
                refine ⟨.settled x, ?_, trivial⟩
                rcases resume_cases (p.exec body ms) j r with h | ⟨b, k, hj, -⟩
                · rw [show (p.exec body ms).step body (.resume j r) = _ from h, hi']
                · rw [hi'] at hj
                  cases hj
            | pending k =>
                obtain ⟨m, hm, hk⟩ := hst'
                refine ⟨(k r (p.exec body ms).shared).status, ?_, ?_⟩
                · rw [show (p.exec body ms).step body (.resume j r) = _ from resume_of_pending hi' r]
                  exact List.getElem?_set_self hlt
                · rw [Nat.sub_add_eq, hm]
                  exact endsAfter_status (hk _ _)
          · rw [if_neg (by simpa [resumes] using hji)]
            exact ⟨st', (resume_ne hji r).trans hi', hst'⟩

/-- **A call that ends after `n` suspensions has settled after `n` resumptions.** -/
theorem exec_settles {n : ℕ} {s : σ} {pre post : List (Move ι ρ)} {a : ι}
    (hends : ∀ s', (body a s').EndsIn n)
    (hcount : n ≤ post.countP (resumes (starts pre).length)) :
    ∃ x, ((fresh s).exec body (pre ++ .start a :: post)).calls[(starts pre).length]? =
      some ⟨a, .settled x⟩ := by
  have hlength : ((fresh s).exec body pre).calls.length = (starts pre).length := exec_length pre
  have hstart : (((fresh s).exec body pre).start body a).calls[(starts pre).length]? =
      some ⟨a, (body a ((fresh s).exec body pre).shared).status⟩ := by
    rw [← hlength]
    exact List.getElem?_concat_length
  rw [exec_append]
  obtain ⟨st, hst, hends'⟩ := endsAfter_exec hstart (endsAfter_status (hends _)) post
  rw [Nat.sub_eq_zero_of_le hcount] at hends'
  cases st with
  | settled x => exact ⟨x, hst⟩
  | pending k =>
      obtain ⟨m, hm, -⟩ := hends'
      cases hm

/-! ## The steps that satisfy a relation -/

/-- Each step of the schedule, from one shared state to the next, satisfies `L`. -/
def Each (body : ι → Co ρ σ ε α) (p : Pool ι ρ σ ε α) (L : Move ι ρ → σ → σ → Prop)
    (ms : List (Move ι ρ)) : Prop :=
  ∀ pre m post, ms = pre ++ m :: post →
    L m (p.exec body pre).shared ((p.exec body pre).step body m).shared

theorem Each.init {L : Move ι ρ → σ → σ → Prop} {ms : List (Move ι ρ)} {m : Move ι ρ}
    (h : Each body p L (ms ++ [m])) : Each body p L ms :=
  Histories.each_left h

theorem Each.last {L : Move ι ρ → σ → σ → Prop} {ms : List (Move ι ρ)} {m : Move ι ρ}
    (h : Each body p L (ms ++ [m])) :
    L m (p.exec body ms).shared ((p.exec body ms).step body m).shared :=
  h ms m [] rfl

theorem Each.prefix {L : Move ι ρ → σ → σ → Prop} {ms ms' : List (Move ι ρ)}
    (h : Each body p L (ms ++ ms')) : Each body p L ms :=
  Histories.each_left h

theorem Each.cons {L : Move ι ρ → σ → σ → Prop} {m : Move ι ρ} {ms : List (Move ι ρ)}
    (hm : L m p.shared (p.step body m).shared) (hms : Each body (p.step body m) L ms) :
    Each body p L (m :: ms) := by
  intro pre m' post heq
  cases pre with
  | nil =>
      cases heq
      exact hm
  | cons m₀ pre =>
      obtain ⟨rfl, hrest⟩ := List.cons.inj heq
      exact hms pre m' post hrest

/-- Play a schedule and test each step. -/
def checks (body : ι → Co ρ σ ε α) (test : Move ι ρ → σ → σ → Bool) :
    Pool ι ρ σ ε α → List (Move ι ρ) → Bool
  | _, [] => true
  | p, m :: ms =>
      test m p.shared (p.step body m).shared && checks body test (p.step body m) ms

theorem Each.of_checks {L : Move ι ρ → σ → σ → Prop} {test : Move ι ρ → σ → σ → Bool}
    (htest : ∀ m s s', test m s s' = true → L m s s') {ms : List (Move ι ρ)}
    (h : checks body test p ms = true) : Each body p L ms := by
  induction ms generalizing p with
  | nil =>
      intro pre m post heq
      cases pre with
      | nil => cases heq
      | cons m₀ pre => cases heq
  | cons m ms ih =>
      rw [checks, Bool.and_eq_true] at h
      exact Each.cons (htest _ _ _ h.1) (ih h.2)

/-! ## The segments of one call -/

/-- Each segment that is left of the call keeps `G`. -/
def Gives (G : σ → σ → Prop) : Status ρ σ ε α → Prop
  | .settled _ => True
  | .pending k =>
      ∀ r s, (k r s).Sat (fun _ => True) (fun _ _ => True) G (fun _ _ => True) s

theorem gives_status {G : σ → σ → Prop} {o : Outcome ρ σ ε α} {s₀ : σ}
    (h : o.Sat (fun _ => True) (fun _ _ => True) G (fun _ _ => True) s₀) : Gives G o.status := by
  cases o with
  | ret s a => trivial
  | throw s e => trivial
  | await s k => exact fun r s' => h.2.2 r s' trivial trivial

theorem gives_exec (body : ι → Co ρ σ ε α) {G : σ → σ → Prop} {i : ℕ} {a : ι} {st : Status ρ σ ε α}
    (hi : p.calls[i]? = some ⟨a, st⟩) (hst : Gives G st) (ms : List (Move ι ρ)) :
    ∃ st', (p.exec body ms).calls[i]? = some ⟨a, st'⟩ ∧ Gives G st' := by
  induction ms using List.reverseRecOn with
  | nil => exact ⟨st, hi, hst⟩
  | append_singleton ms mv ih =>
      obtain ⟨st', hi', hst'⟩ := ih
      have hlt := (List.getElem?_eq_some_iff.mp hi').1
      rw [exec_concat]
      cases mv with
      | start b =>
          refine ⟨st', ?_, hst'⟩
          show ((p.exec body ms).calls ++ [_])[i]? = _
          rw [List.getElem?_append_left hlt, hi']
      | resume j r =>
          by_cases hji : j = i
          · subst hji
            rcases resume_cases (p.exec body ms) j r with h | ⟨b, k, hj, h⟩
            · rw [show (p.exec body ms).step body (.resume j r) = _ from h]
              exact ⟨st', hi', hst'⟩
            · rw [hi'] at hj
              cases hj
              rw [show (p.exec body ms).step body (.resume j r) = _ from h]
              exact ⟨_, List.getElem?_set_self hlt, gives_status (hst' _ _)⟩
          · exact ⟨st', (resume_ne hji r).trans hi', hst'⟩

/-- **Whatever the others do**, each step of a call is one of its segments. -/
theorem each_own {G : σ → σ → Prop} (refl : ∀ s, G s s) {i : ℕ} {a : ι} {st : Status ρ σ ε α}
    (hi : p.calls[i]? = some ⟨a, st⟩) (hst : Gives G st) (ms : List (Move ι ρ)) :
    Each body p (fun mv s s' => resumes i mv = true → G s s') ms := by
  intro pre mv post _ hmv
  obtain ⟨st', hi', hst'⟩ := gives_exec body hi hst pre
  cases mv with
  | start b => cases hmv
  | resume j r =>
      have hji : j = i := by simpa [resumes] using hmv
      subst hji
      rcases resume_cases (p.exec body pre) j r with h | ⟨b, k, hj, h⟩
      · rw [show (p.exec body pre).step body (.resume j r) = _ from h]
        exact refl _
      · rw [hi'] at hj
        cases hj
        rw [show (p.exec body pre).step body (.resume j r) = _ from h]
        exact (hst' _ _).guarantee

/-! ## The rule for schedules -/

/-- What the calls of a pool owe each other. A new call may first take the state
along its entry `E`; its segments keep the guarantee `G` and it relies on `R`.
`C k` says that `k` calls were started, and `L` is what is known of each step of
the schedule. -/
structure Compatible (C : ℕ → σ → Prop) (L : Move ι ρ → σ → σ → Prop)
    (E G : ℕ → ι → σ → σ → Prop) (R : ℕ → σ → σ → Prop) : Prop where
  refl : ∀ i s, R i s s
  trans : ∀ i a b c, R i a b → R i b c → R i a c
  start : ∀ i j a s s₀ s', j < i → C i s → E i a s s₀ → G i a s₀ s' → L (.start a) s s' → R j s s'
  resume : ∀ i j a r s s', i ≠ j → G i a s s' → L (.resume i r) s s' → R j s s'
  enters : ∀ i a s s₀ s', C i s → E i a s s₀ → G i a s₀ s' → C (i + 1) s'
  counts : ∀ k i a s s', i < k → C k s → G i a s s' → C k s'

/-- Every call has kept its part so far: pending calls keep the triple from any
state they can be resumed in, and settled ones left `Q` in a state from which the
others moved along `R`. -/
structure Sound (C : ℕ → σ → Prop) (G : ℕ → ι → σ → σ → Prop) (R : ℕ → σ → σ → Prop)
    (Q : ℕ → ι → σ → Except ε α → Prop) (p : Pool ι ρ σ ε α) : Prop where
  count : C p.calls.length p.shared
  pending : ∀ (i : ℕ) (a : ι) (k : ρ → σ → Outcome ρ σ ε α),
    p.calls[i]? = some ⟨a, .pending k⟩ → ∀ r s, R i p.shared s →
      (k r s).Sat (fun _ => True) (R i) (G i a) (Q i a) s
  settled : ∀ (i : ℕ) (a : ι) (x : Except ε α), p.calls[i]? = some ⟨a, .settled x⟩ →
    ∃ s, Q i a s x ∧ R i s p.shared

/-- Call `i`, started in `s`, keeps its part. -/
def Opens (E G : ℕ → ι → σ → σ → Prop) (R : ℕ → σ → σ → Prop)
    (Q : ℕ → ι → σ → Except ε α → Prop) (body : ι → Co ρ σ ε α) (i : ℕ) (a : ι) (s : σ) : Prop :=
  ∃ s₀, E i a s s₀ ∧ (body a s).Sat (fun _ => True) (R i) (G i a) (Q i a) s₀

/-- What a step did: nothing, the entry and the first segment of a new call, or
a segment of a pending one. A call that settles leaves `Q`. -/
inductive StepCase (E G : ℕ → ι → σ → σ → Prop) (Q : ℕ → ι → σ → Except ε α → Prop)
    (p p' : Pool ι ρ σ ε α) : Move ι ρ → Prop where
  | idle (m : Move ι ρ) : p' = p → StepCase E G Q p p' m
  | start (a : ι) (s₀ : σ) (st : Status ρ σ ε α) : E p.calls.length a p.shared s₀ →
      G p.calls.length a s₀ p'.shared → p'.calls = p.calls ++ [⟨a, st⟩] →
      (∀ x, st = .settled x → Q p.calls.length a p'.shared x) → StepCase E G Q p p' (.start a)
  | resume (i : ℕ) (a : ι) (r : ρ) (k : ρ → σ → Outcome ρ σ ε α) (st : Status ρ σ ε α) :
      p.calls[i]? = some ⟨a, .pending k⟩ → G i a p.shared p'.shared →
      p'.calls = p.calls.set i ⟨a, st⟩ → (∀ x, st = .settled x → Q i a p'.shared x) →
      StepCase E G Q p p' (.resume i r)

variable {C : ℕ → σ → Prop} {L : Move ι ρ → σ → σ → Prop} {E G : ℕ → ι → σ → σ → Prop}
  {R : ℕ → σ → σ → Prop} {Q : ℕ → ι → σ → Except ε α → Prop}

/-- The status a segment leaves carries the triple on. -/
theorem status_sound {i : ℕ} {a : ι} {o : Outcome ρ σ ε α} {s₀ : σ}
    (h : o.Sat (fun _ => True) (R i) (G i a) (Q i a) s₀) :
    (∀ k, o.status = .pending k →
      ∀ r s, R i o.state s → (k r s).Sat (fun _ => True) (R i) (G i a) (Q i a) s) ∧
    (∀ x, o.status = .settled x → Q i a o.state x) := by
  cases o with
  | ret s b =>
      exact ⟨by simp [Outcome.status], fun x hx => by cases hx; exact h.2⟩
  | throw s e =>
      exact ⟨by simp [Outcome.status], fun x hx => by cases hx; exact h.2⟩
  | await s k =>
      refine ⟨fun k' hk r s' hR => ?_, by simp [Outcome.status]⟩
      cases hk
      exact h.2.2 r s' trivial hR

theorem fresh_sound {s : σ} (h : C 0 s) : (fresh s : Pool ι ρ σ ε α).Sound C G R Q :=
  ⟨h, by simp [fresh], by simp [fresh]⟩

theorem Sound.start (hc : Compatible C L E G R) (hp : p.Sound C G R Q) {a : ι}
    (hbody : Opens E G R Q body p.calls.length a p.shared)
    (hlegal : L (.start a) p.shared (p.start body a).shared) :
    (p.start body a).Sound C G R Q := by
  obtain ⟨s₀, hE, hsat⟩ := hbody
  have hR : ∀ i, i < p.calls.length → R i p.shared (body a p.shared).state := fun i hlt =>
    hc.start _ i a _ s₀ _ hlt hp.count hE hsat.guarantee hlegal
  refine ⟨?_, ?_, ?_⟩
  · show C (p.calls ++ [_]).length _
    rw [List.length_append]
    exact hc.enters _ a _ s₀ _ hp.count hE hsat.guarantee
  · intro i b k hi r s hs
    rcases concat_cases hi with ⟨hlt, hold⟩ | ⟨rfl, hnew⟩
    · exact hp.pending i b k hold r s (hc.trans _ _ _ _ (hR i hlt) hs)
    · injection hnew with hb hstatus
      subst hb
      exact (status_sound hsat).1 k hstatus.symm r s hs
  · intro i b x hi
    rcases concat_cases hi with ⟨hlt, hold⟩ | ⟨rfl, hnew⟩
    · obtain ⟨s, hQ, hs⟩ := hp.settled i b x hold
      exact ⟨s, hQ, hc.trans _ _ _ _ hs (hR i hlt)⟩
    · injection hnew with hb hstatus
      subst hb
      exact ⟨_, (status_sound hsat).2 x hstatus.symm, hc.refl _ _⟩

theorem Sound.resume (hc : Compatible C L E G R) (hp : p.Sound C G R Q) (i : ℕ) (r : ρ)
    (hlegal : L (.resume i r) p.shared (p.resume i r).shared) :
    (p.resume i r).Sound C G R Q := by
  rcases resume_cases p i r with h | ⟨a, k, hi, h⟩
  · rw [h]
    exact hp
  · rw [h] at hlegal ⊢
    have hlt : i < p.calls.length := (List.getElem?_eq_some_iff.mp hi).1
    have hsat := hp.pending i a k hi r _ (hc.refl i _)
    have hR : ∀ j, i ≠ j → R j p.shared (k r p.shared).state := fun j hne =>
      hc.resume i j a r _ _ hne hsat.guarantee hlegal
    refine ⟨?_, ?_, ?_⟩
    · show C (p.calls.set i _).length _
      rw [List.length_set]
      exact hc.counts _ i a _ _ hlt hp.count hsat.guarantee
    · intro j b k' hj r' s hs
      rcases set_cases hj with ⟨hne, hold⟩ | ⟨rfl, hnew⟩
      · exact hp.pending j b k' hold r' s (hc.trans _ _ _ _ (hR j hne) hs)
      · injection hnew with hb hstatus
        subst hb
        exact (status_sound hsat).1 k' hstatus.symm r' s hs
    · intro j b x hj
      rcases set_cases hj with ⟨hne, hold⟩ | ⟨rfl, hnew⟩
      · obtain ⟨s, hQ, hs⟩ := hp.settled j b x hold
        exact ⟨s, hQ, hc.trans _ _ _ _ hs (hR j hne)⟩
      · injection hnew with hb hstatus
        subst hb
        exact ⟨_, (status_sound hsat).2 x hstatus.symm, hc.refl _ _⟩

theorem Sound.step (hc : Compatible C L E G R) (hp : p.Sound C G R Q) (m : Move ι ρ)
    (hbody : ∀ a, m = .start a → Opens E G R Q body p.calls.length a p.shared)
    (hlegal : L m p.shared (p.step body m).shared) : (p.step body m).Sound C G R Q := by
  cases m with
  | start a => exact hp.start hc (hbody a rfl) hlegal
  | resume i r => exact hp.resume hc i r hlegal

theorem Sound.stepCase (hc : Compatible C L E G R) (hp : p.Sound C G R Q) (m : Move ι ρ)
    (hbody : ∀ a, m = .start a → Opens E G R Q body p.calls.length a p.shared) :
    StepCase E G Q p (p.step body m) m := by
  cases m with
  | start a =>
      obtain ⟨s₀, hE, hsat⟩ := hbody a rfl
      exact .start a s₀ _ hE hsat.guarantee rfl (status_sound hsat).2
  | resume i r =>
      rcases resume_cases p i r with h | ⟨a, k, hi, h⟩
      · exact .idle _ h
      · have hsat := hp.pending i a k hi r _ (hc.refl i _)
        have hstep : p.step body (.resume i r) =
            ⟨(k r p.shared).state, p.calls.set i ⟨a, (k r p.shared).status⟩⟩ := h
        rw [hstep]
        exact .resume i a r k _ hi hsat.guarantee rfl (status_sound hsat).2

/-- **Rely-guarantee.** When every call that a schedule starts keeps its part,
and the steps are what is known of them, every call has kept its part at the
end. -/
theorem exec_sound (hc : Compatible C L E G R) (hp : p.Sound C G R Q) (ms : List (Move ι ρ))
    (hlegal : Each body p L ms)
    (hbody : ∀ pre a post, ms = pre ++ .start a :: post → (p.exec body pre).Sound C G R Q →
      Opens E G R Q body (p.exec body pre).calls.length a (p.exec body pre).shared) :
    (p.exec body ms).Sound C G R Q := by
  induction ms using List.reverseRecOn with
  | nil => exact hp
  | append_singleton ms m ih =>
      have hms : (p.exec body ms).Sound C G R Q := by
        apply ih hlegal.init
        intro pre a post heq
        apply hbody pre a (post ++ [m])
        rw [heq, List.append_assoc]
        rfl
      rw [exec_concat]
      refine hms.step hc m (fun a ha => ?_) hlegal.last
      subst ha
      exact hbody ms a [] rfl hms

/-- **Calls under an invariant.** When every call keeps the invariant and moves
the state along one preorder, it may rely on both, and leaves its postcondition. -/
theorem exec_kept {I : σ → Prop} {R : σ → σ → Prop} {Q : ℕ → ι → σ → Except ε α → Prop}
    (refl : ∀ s, R s s) (trans : ∀ a b c, R a b → R b c → R a c)
    (hQI : ∀ i a s x, Q i a s x → I s) {s : σ} (hs : I s) (ms : List (Move ι ρ))
    (hbody : ∀ pre a post, ms = pre ++ .start a :: post → I ((fresh s).exec body pre).shared →
      (body a ((fresh s).exec body pre).shared).Sat I R R
        (Q ((fresh s).exec body pre).calls.length a) ((fresh s).exec body pre).shared) :
    I ((fresh s).exec body ms).shared ∧
      ∀ i a x, ((fresh s).exec body ms).calls[i]? = some ⟨a, .settled x⟩ →
        ∃ s', Q i a s' x ∧ R s' ((fresh s).exec body ms).shared := by
  have hcompatible : Compatible (ι := ι) (ρ := ρ) (fun _ => I) (fun _ _ _ => True)
      (fun _ _ s s₀ => s = s₀) (fun _ _ s s' => I s' ∧ R s s')
      (fun _ s s' => I s → I s' ∧ R s s') := by
    constructor
    · exact fun _ s h => ⟨h, refl s⟩
    · exact fun _ a b c h h' ha => ⟨(h' (h ha).1).1, trans a b c (h ha).2 (h' (h ha).1).2⟩
    · rintro _ _ _ s₁ _ _ _ _ rfl hG _ _
      exact hG
    · exact fun _ _ _ _ _ _ _ hG _ _ => hG
    · exact fun _ _ _ _ _ _ _ hG => hG.1
    · exact fun _ _ _ _ _ _ _ hG => hG.1
  have hsound := exec_sound (Q := Q) hcompatible (fresh_sound hs) ms (fun _ _ _ _ => trivial)
    fun pre a post heq hpre =>
      ⟨_, rfl, (hbody pre a post heq hpre.count).internal (hQI _ a)⟩
  refine ⟨hsound.count, fun i a x hcall => ?_⟩
  obtain ⟨s', hQ, hR⟩ := hsound.settled i a x hcall
  exact ⟨s', hQ, (hR (hQI i a s' x hQ)).2⟩

/-- **Invariants.** What every step of the schedule keeps holds at its end. -/
theorem exec_keeps {J : σ → Prop} {ms : List (Move ι ρ)} (h : J p.shared)
    (hstep : Each body p (fun _ s s' => J s → J s') ms) : J (p.exec body ms).shared := by
  induction ms using List.reverseRecOn with
  | nil => exact h
  | append_singleton ms m ih =>
      rw [exec_concat]
      exact hstep.last (ih hstep.init)

end Pool

/-! ## Several parties -/

section Parties

variable {δ : Type u} [DecidableEq δ]

/-- The moves of one party, where each one has its own pool. -/
def movesOf (d : δ) (ms : List (δ × Move ι ρ)) : List (Move ι ρ) :=
  ms.filterMap fun mv => if mv.1 = d then some mv.2 else none

theorem movesOf_append (d : δ) (ms ms' : List (δ × Move ι ρ)) :
    movesOf d (ms ++ ms') = movesOf d ms ++ movesOf d ms' := List.filterMap_append

theorem movesOf_concat_self (d : δ) (ms : List (δ × Move ι ρ)) (mv : Move ι ρ) :
    movesOf d (ms ++ [(d, mv)]) = movesOf d ms ++ [mv] := by
  rw [movesOf_append]
  simp [movesOf]

theorem movesOf_concat_ne {d d' : δ} (h : d' ≠ d) (ms : List (δ × Move ι ρ)) (mv : Move ι ρ) :
    movesOf d (ms ++ [(d', mv)]) = movesOf d ms := by
  rw [movesOf_append]
  simp [movesOf, h]

/-- Where a call of a party was started, and after which ones. -/
theorem exists_start_of_split {d : δ} {a : ι} {before after : List ι} {ms : List (δ × Move ι ρ)}
    (h : starts (movesOf d ms) = before ++ a :: after) :
    ∃ pre post, ms = pre ++ (d, .start a) :: post ∧ starts (movesOf d pre) = before := by
  induction ms using List.reverseRecOn generalizing after with
  | nil => simp [movesOf, starts] at h
  | append_singleton ms mv ih =>
      have hinit : ∀ after, starts (movesOf d ms) = before ++ a :: after →
          ∃ pre post, ms ++ [mv] = pre ++ (d, .start a) :: post ∧
            starts (movesOf d pre) = before := by
        intro after h
        obtain ⟨pre, post, rfl, hpre⟩ := ih h
        exact ⟨pre, post ++ [mv], by rw [List.append_assoc, List.cons_append], hpre⟩
      obtain ⟨d', m⟩ := mv
      by_cases hd : d' = d
      · subst hd
        rw [movesOf_concat_self, starts_append] at h
        cases m with
        | resume i r => exact hinit after (by simpa [starts] using h)
        | start b =>
            rcases List.eq_nil_or_concat after with rfl | ⟨after, c, rfl⟩
            · obtain ⟨hbefore, hb⟩ := List.append_inj' h rfl
              cases hb
              exact ⟨ms, [], rfl, hbefore⟩
            · rw [List.concat_eq_append, ← List.cons_append, ← List.append_assoc] at h
              exact hinit after (List.append_inj' h rfl).1
      · rw [movesOf_concat_ne hd] at h
        exact hinit after h

theorem exists_start_of_mem {d : δ} {a : ι} {ms : List (δ × Move ι ρ)}
    (h : a ∈ starts (movesOf d ms)) : ∃ pre post, ms = pre ++ (d, .start a) :: post := by
  obtain ⟨before, after, hsplit⟩ := List.append_of_mem h
  obtain ⟨pre, post, heq, -⟩ := exists_start_of_split hsplit
  exact ⟨pre, post, heq⟩

end Parties

end Oxpulse.Coroutine
