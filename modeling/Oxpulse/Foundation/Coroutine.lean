import Mathlib.Logic.Function.Basic

/-!
# Coroutines over a shared state

A cooperative computation runs in *segments*: between two suspension points it
has the shared state to itself, at a suspension point anything may happen to
that state. `Outcome` is what one segment ends in — a result, an exception, or
a suspension that waits for a reply — and `Co` is a computation that starts
with a segment. Exceptions do not roll the state back.

`run` plays a coroutine on its own, feeding one reply to every suspension; it
turns a coroutine into an ordinary state-and-exception function, and its rules
(`run_bind`, `run_suspend`, ...) let a sequential argument forget the
suspensions. What other coroutines may do at the suspensions is the business
of `Interleaving`.
-/

namespace Oxpulse.Coroutine

universe u

/-- What a segment ends in: the state it leaves, with a result, an exception,
or the continuation that the next reply resumes. -/
inductive Outcome (ρ σ ε α : Type u) : Type u where
  | ret (s : σ) (a : α)
  | throw (s : σ) (e : ε)
  | await (s : σ) (k : ρ → σ → Outcome ρ σ ε α)

variable {ρ σ τ ε α β γ : Type u}

namespace Outcome

/-- The state at the end of the segment. -/
def state : Outcome ρ σ ε α → σ
  | ret s _ => s
  | throw s _ => s
  | await s _ => s

def bind : Outcome ρ σ ε α → (α → σ → Outcome ρ σ ε β) → Outcome ρ σ ε β
  | ret s a, f => f a s
  | throw s e, _ => throw s e
  | await s k, f => await s fun r s' => (k r s').bind f

/-- `try`/`catch`: the handler runs in the segment that threw. -/
def tryCatch : Outcome ρ σ ε α → (ε → σ → Outcome ρ σ ε α) → Outcome ρ σ ε α
  | ret s a, _ => ret s a
  | throw s e, h => h e s
  | await s k, h => await s fun r s' => (k r s').tryCatch h

/-- Play the outcome to its end with nobody interfering. -/
def run (r : ρ) : Outcome ρ σ ε α → σ × Except ε α
  | ret s a => (s, .ok a)
  | throw s e => (s, .error e)
  | await s k => (k r s).run r

/-- Let an outcome over a component act on the state that holds it. -/
def zoom (get : τ → σ) (put : σ → τ → τ) : Outcome ρ σ ε α → τ → Outcome ρ τ ε α
  | ret s a, t => ret (put s t) a
  | throw s e, t => throw (put s t) e
  | await s k, t => await (put s t) fun r t' => (k r (get t')).zoom get put t'

/-- The result, or the exception, reaches the caller in a later segment. -/
def later : Outcome ρ σ ε α → Outcome ρ σ ε α
  | ret s a => await s fun _ s' => ret s' a
  | throw s e => await s fun _ s' => throw s' e
  | await s k => await s fun r s' => (k r s').later

/-- Turn an exception into a result. -/
def attempt : Outcome ρ σ ε α → Outcome ρ σ ε (Except ε α)
  | ret s a => ret s (.ok a)
  | throw s e => ret s (.error e)
  | await s k => await s fun r s' => (k r s').attempt

theorem bind_ret (o : Outcome ρ σ ε α) : o.bind (fun a s => ret s a) = o := by
  induction o with
  | ret s a => rfl
  | throw s e => rfl
  | await s k ih =>
      simp only [bind]
      congr 1
      funext r s'
      exact ih r s'

theorem bind_assoc (o : Outcome ρ σ ε α) (f : α → σ → Outcome ρ σ ε β)
    (g : β → σ → Outcome ρ σ ε γ) :
    (o.bind f).bind g = o.bind (fun a s => (f a s).bind g) := by
  induction o with
  | ret s a => rfl
  | throw s e => rfl
  | await s k ih =>
      simp only [bind]
      congr 1
      funext r s'
      exact ih r s'

/-- An attempted sequence goes on, or ends, with what the first part ended in. -/
theorem attempt_bind (o : Outcome ρ σ ε α) (f : α → σ → Outcome ρ σ ε β) :
    (o.bind f).attempt =
      o.attempt.bind fun x s =>
        match x with
        | .ok a => (f a s).attempt
        | .error e => ret s (.error e) := by
  induction o with
  | ret s a => rfl
  | throw s e => rfl
  | await s k ih =>
      simp only [bind, attempt]
      congr 1
      funext r s'
      exact ih r s'

/-- A sequence passes an exception on. -/
theorem bind_eq_attempt (o : Outcome ρ σ ε α) (f : α → σ → Outcome ρ σ ε β) :
    o.bind f =
      o.attempt.bind fun x s =>
        match x with
        | .ok a => f a s
        | .error e => throw s e := by
  induction o with
  | ret s a => rfl
  | throw s e => rfl
  | await s k ih =>
      simp only [bind, attempt]
      congr 1
      funext r s'
      exact ih r s'

theorem run_bind (r : ρ) (o : Outcome ρ σ ε α) (f : α → σ → Outcome ρ σ ε β) :
    (o.bind f).run r =
      match o.run r with
      | (s, .ok a) => (f a s).run r
      | (s, .error e) => (s, .error e) := by
  induction o with
  | ret s a => rfl
  | throw s e => rfl
  | await s k ih => exact ih r s

theorem run_later (r : ρ) (o : Outcome ρ σ ε α) : o.later.run r = o.run r := by
  induction o with
  | ret s a => rfl
  | throw s e => rfl
  | await s k ih => exact ih r s

theorem run_attempt (r : ρ) (o : Outcome ρ σ ε α) :
    o.attempt.run r = ((o.run r).1, .ok (o.run r).2) := by
  induction o with
  | ret s a => rfl
  | throw s e => rfl
  | await s k ih => exact ih r s

/-- Alone, a coroutine over a component is the component's run. -/
theorem run_zoom {get : τ → σ} {put : σ → τ → τ} (hget : ∀ s t, get (put s t) = s)
    (hput : ∀ s s' t, put s (put s' t) = put s t) (r : ρ) (o : Outcome ρ σ ε α) (t : τ) :
    (o.zoom get put t).run r = (put (o.run r).1 t, (o.run r).2) := by
  induction o generalizing t with
  | ret s a => rfl
  | throw s e => rfl
  | await s k ih =>
      simp only [zoom, run]
      rw [ih, hget, hput]

end Outcome

/-! ## The coroutine monad -/

/-- A computation over the shared state `σ` that may suspend for a reply `ρ`
and may throw an `ε`. -/
def Co (ρ σ ε α : Type u) : Type u := σ → Outcome ρ σ ε α

namespace Co

instance : Monad (Co ρ σ ε) where
  pure a := fun s => .ret s a
  bind m f := fun s => (m s).bind f

instance : MonadStateOf σ (Co ρ σ ε) where
  get := fun s => .ret s s
  set s := fun _ => .ret s PUnit.unit
  modifyGet f := fun s => .ret (f s).2 (f s).1

instance : MonadExceptOf ε (Co ρ σ ε) where
  throw e := fun s => .throw s e
  tryCatch m h := fun s => (m s).tryCatch h

instance : LawfulMonad (Co ρ σ ε) := LawfulMonad.mk' _
  (fun m => funext fun s => Outcome.bind_ret (m s))
  (fun _ _ => rfl)
  (fun m f g => funext fun s => Outcome.bind_assoc (m s) f g)

/-- Give up control until the next reply. -/
def suspend : Co ρ σ ε ρ := fun s => .await s fun r s' => .ret s' r

/-- `await` a call: what it returns or throws is seen in a later segment. -/
def await (m : Co ρ σ ε α) : Co ρ σ ε α := fun s => (m s).later

/-- What a call returns or throws, as a value. -/
def attempt (m : Co ρ σ ε α) : Co ρ σ ε (Except ε α) := fun s => (m s).attempt

/-- A result that may be missing. -/
def orThrow (e : ε) : Option α → Co ρ σ ε α
  | some a => pure a
  | none => throw e

/-- A result that may be an exception. -/
def ofExcept : Except ε α → Co ρ σ ε α
  | .ok a => pure a
  | .error e => throw e

/-- A coroutine over a component, as a coroutine over the state that holds it. -/
def zoom (get : τ → σ) (put : σ → τ → τ) (m : Co ρ σ ε α) : Co ρ τ ε α :=
  fun t => (m (get t)).zoom get put t

/-- The coroutine played from `s` with nobody interfering. -/
def run (r : ρ) (m : Co ρ σ ε α) (s : σ) : σ × Except ε α := (m s).run r

/-! ### What a coroutine does in its first segment -/

@[simp] theorem pure_apply (a : α) (s : σ) :
    (pure a : Co ρ σ ε α) s = .ret s a := rfl

@[simp] theorem bind_apply (m : Co ρ σ ε α) (f : α → Co ρ σ ε β) (s : σ) :
    (m >>= f) s = (m s).bind f := rfl

@[simp] theorem get_apply (s : σ) :
    (get : Co ρ σ ε σ) s = .ret s s := rfl

@[simp] theorem set_apply (s s' : σ) :
    (set s' : Co ρ σ ε PUnit) s = .ret s' PUnit.unit := rfl

@[simp] theorem modify_apply (f : σ → σ) (s : σ) :
    (modify f : Co ρ σ ε PUnit) s = .ret (f s) PUnit.unit := rfl

@[simp] theorem throw_apply (e : ε) (s : σ) :
    (throw e : Co ρ σ ε α) s = .throw s e := rfl

@[simp] theorem tryCatch_apply (m : Co ρ σ ε α) (h : ε → Co ρ σ ε α) (s : σ) :
    (tryCatch m h) s = (m s).tryCatch h := rfl

@[simp] theorem suspend_apply (s : σ) :
    (suspend : Co ρ σ ε ρ) s = .await s fun r s' => .ret s' r := rfl

@[simp] theorem ite_apply (c : Prop) [Decidable c] (m n : Co ρ σ ε α) (s : σ) :
    (if c then m else n) s = if c then m s else n s := by
  split <;> rfl

/-! ### Playing a coroutine alone -/

@[simp] theorem run_pure (r : ρ) (a : α) (s : σ) :
    (pure a : Co ρ σ ε α).run r s = (s, .ok a) := rfl

theorem run_bind (r : ρ) (m : Co ρ σ ε α) (f : α → Co ρ σ ε β) (s : σ) :
    (m >>= f).run r s =
      match m.run r s with
      | (s', .ok a) => (f a).run r s'
      | (s', .error e) => (s', .error e) :=
  Outcome.run_bind r (m s) f

theorem run_bind_ok {r : ρ} {m : Co ρ σ ε α} {f : α → Co ρ σ ε β} {s s' : σ}
    {a : α} (h : m.run r s = (s', .ok a)) :
    (m >>= f).run r s = (f a).run r s' := by
  rw [run_bind, h]

@[simp] theorem run_get (r : ρ) (s : σ) :
    (get : Co ρ σ ε σ).run r s = (s, .ok s) := rfl

@[simp] theorem run_set (r : ρ) (s s' : σ) :
    (set s' : Co ρ σ ε PUnit).run r s = (s', .ok PUnit.unit) := rfl

@[simp] theorem run_modify (r : ρ) (f : σ → σ) (s : σ) :
    (modify f : Co ρ σ ε PUnit).run r s = (f s, .ok PUnit.unit) := rfl

@[simp] theorem run_throw (r : ρ) (e : ε) (s : σ) :
    (throw e : Co ρ σ ε α).run r s = (s, .error e) := rfl

@[simp] theorem run_suspend (r : ρ) (s : σ) :
    (suspend : Co ρ σ ε ρ).run r s = (s, .ok r) := rfl

@[simp] theorem run_ite (r : ρ) (c : Prop) [Decidable c] (m n : Co ρ σ ε α) (s : σ) :
    (if c then m else n).run r s = if c then m.run r s else n.run r s := by
  split <;> rfl

@[simp] theorem run_await (r : ρ) (m : Co ρ σ ε α) (s : σ) :
    (await m).run r s = m.run r s :=
  Outcome.run_later r (m s)

@[simp] theorem run_attempt (r : ρ) (m : Co ρ σ ε α) (s : σ) :
    (attempt m).run r s = ((m.run r s).1, .ok (m.run r s).2) :=
  Outcome.run_attempt r (m s)

@[simp] theorem run_orThrow (r : ρ) (e : ε) (o : Option α) (s : σ) :
    (orThrow e o : Co ρ σ ε α).run r s =
      (s, match o with | some a => .ok a | none => .error e) := by
  cases o <;> rfl

@[simp] theorem run_ofExcept (r : ρ) (x : Except ε α) (s : σ) :
    (ofExcept x : Co ρ σ ε α).run r s = (s, x) := by
  cases x <;> rfl

theorem run_zoom {get : τ → σ} {put : σ → τ → τ} (hget : ∀ s t, get (put s t) = s)
    (hput : ∀ s s' t, put s (put s' t) = put s t) (r : ρ) (m : Co ρ σ ε α) (t : τ) :
    (zoom get put m).run r t = (put (m.run r (get t)).1 t, (m.run r (get t)).2) :=
  Outcome.run_zoom hget hput r (m (get t)) t

end Co

end Oxpulse.Coroutine
