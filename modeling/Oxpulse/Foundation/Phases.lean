import Oxpulse.Foundation.Interleaving

/-!
# Parts that one call builds

A part of a shared state may first have to be built by some call, and only then be
used by any number of them. `built c x` is the state in which part `c` is built,
with what it was built from. Before that a call has to be alone with the part; from
then on every call keeps `built c x`. Calls of different kinds build different parts
and leave each other's alone.

A schedule is `Orderly` when it starts a call only after the pending ones of its
kind have settled, or when its part is ready. Under `exec_phased` every call that
settled then got the value of the one part that is built.
-/

namespace Oxpulse.Coroutine

universe u

/-- **The parts of a shared state.** Where `first c` holds a call may begin to build
part `c`, and what is `ready` can be told from outside. `inv` is what every call
keeps. -/
structure Parts (κ : Type u) (π χ : κ → Type u) (σ α : Type u) : Type u where
  part : ∀ c, σ → π c
  built : ∀ c, χ c → π c → Prop
  first : ∀ c, π c → Prop
  ready : ∀ c, π c → Prop
  value : ∀ c, χ c → α
  inv : σ → Prop
  not_ready : ∀ c v, first c v → ¬ ready c v
  ready_of_built : ∀ c x v, built c x v → ready c v
  unique : ∀ c x y v, built c x v → built c y v → x = y

variable {ι ρ σ ε α κ : Type u} {π χ : κ → Type u}

namespace Parts

def Built (D : Parts κ π χ σ α) (c : κ) (s : σ) : Prop :=
  ∃ x, D.built c x (D.part c s)

/-- What a call of kind `c` relies on: what is built stays, and before that nobody
else touches the part. -/
structure Rely (D : Parts κ π χ σ α) (c : κ) (s s' : σ) : Prop where
  inv : D.inv s → D.inv s'
  keeps : ∀ x, D.built c x (D.part c s) → D.built c x (D.part c s')
  alone : ¬ D.Built c s → D.part c s' = D.part c s

/-- What a call of kind `c` gives: what is built stays, the part is not ready before
it is built, and the other parts are left alone. -/
structure Gives (D : Parts κ π χ σ α) (c : κ) (s s' : σ) : Prop where
  inv : D.inv s → D.inv s'
  keeps : ∀ x, D.built c x (D.part c s) → D.built c x (D.part c s')
  ready : (D.ready c (D.part c s) → D.Built c s) → D.ready c (D.part c s') → D.Built c s'
  others : ∀ d, d ≠ c → D.part d s' = D.part d s

/-- The call resolved with the value of the part that is built. -/
def Yielded (D : Parts κ π χ σ α) (c : κ) (s : σ) (r : Except ε α) : Prop :=
  D.inv s ∧ ∃ x, D.built c x (D.part c s) ∧ r = .ok (D.value c x)

/-- A call of kind `c` keeps its part, wherever it may start. -/
def Builds (D : Parts κ π χ σ α) (c : κ) (co : Co ρ σ ε α) : Prop :=
  ∀ s, D.inv s → (D.first c (D.part c s) ∨ D.Built c s) →
    Co.Triple (D.Rely c) (D.Gives c) (D.Yielded c) co s

variable {D : Parts κ π χ σ α} {c d : κ} {s s' s'' : σ}

theorem Rely.refl : D.Rely c s s :=
  ⟨fun h => h, fun _ h => h, fun _ => rfl⟩

theorem Gives.refl : D.Gives c s s :=
  ⟨fun h => h, fun _ h => h, fun h => h, fun _ _ => rfl⟩

theorem Gives.trans (h : D.Gives c s s') (h' : D.Gives c s' s'') : D.Gives c s s'' where
  inv hs := h'.inv (h.inv hs)
  keeps x hx := h'.keeps x (h.keeps x hx)
  ready hs := h'.ready (h.ready hs)
  others d hne := (h'.others d hne).trans (h.others d hne)

theorem not_built_of_first (h : ¬ D.ready c (D.part c s)) : ¬ D.Built c s := by
  rintro ⟨x, hx⟩
  exact h (D.ready_of_built c x _ hx)

/-- A step that leaves every part alone. -/
theorem Gives.of_same (hinv : D.inv s → D.inv s') (hsame : ∀ d, D.part d s' = D.part d s) :
    D.Gives c s s' where
  inv := hinv
  keeps x hx := by rwa [hsame]
  ready h hready := by
    rw [hsame] at hready
    obtain ⟨x, hx⟩ := h hready
    exact ⟨x, by rwa [hsame]⟩
  others d _ := hsame d

/-- A step before the part is built, or the one that builds it. -/
theorem Gives.of_first (hinv : D.inv s → D.inv s') (hs : ¬ D.ready c (D.part c s))
    (hs' : D.ready c (D.part c s') → D.Built c s')
    (hothers : ∀ d, d ≠ c → D.part d s' = D.part d s) : D.Gives c s s' where
  inv := hinv
  keeps x hx := absurd ⟨x, hx⟩ (not_built_of_first hs)
  ready _ := hs'
  others := hothers

/-- A step that keeps the part. -/
theorem Gives.of_built {x : χ c} (hinv : D.inv s → D.inv s') (hx : D.built c x (D.part c s))
    (hx' : D.built c x (D.part c s')) (hothers : ∀ d, d ≠ c → D.part d s' = D.part d s) :
    D.Gives c s s' where
  inv := hinv
  keeps y hy := D.unique c x y _ hx hy ▸ hx'
  ready _ _ := ⟨x, hx'⟩
  others := hothers

/-- What is built stays, whichever call took the step. -/
theorem Gives.kept (h : D.Gives c s s') {x : χ d} (hx : D.built d x (D.part d s)) :
    D.built d x (D.part d s') := by
  by_cases hd : d = c
  · subst hd
    exact h.keeps x hx
  · rw [h.others d hd]
    exact hx

theorem Gives.built (h : D.Gives c s s') (hs : D.Built d s) : D.Built d s' := by
  obtain ⟨x, hx⟩ := hs
  exact ⟨x, h.kept hx⟩

/-- A step of one call is part of what another one relies on, unless both are of one
kind and the part is not built. -/
theorem Gives.rely (h : D.Gives c s s') (hd : d = c → D.Built d s) (hs : D.Rely d s' s'') :
    D.Rely d s s'' := by
  refine ⟨fun hinv => hs.inv (h.inv hinv), fun x hx => hs.keeps x (h.kept hx), fun hnone => ?_⟩
  have hsame := h.others d fun heq => hnone (hd heq)
  rw [hs.alone, hsame]
  rintro ⟨x, hx⟩
  rw [hsame] at hx
  exact hnone ⟨x, hx⟩

end Parts

namespace Pool

variable {body : ι → Co ρ σ ε α} {p p' : Pool ι ρ σ ε α} {kind : ι → κ}

/-- Call `i` is of kind `c` and has not settled yet. -/
def Pending (kind : ι → κ) (c : κ) (p : Pool ι ρ σ ε α) (i : ℕ) : Prop :=
  ∃ a k, p.calls[i]? = some ⟨a, .pending k⟩ ∧ kind a = c

/-- Every move of the schedule is allowed where it is made. -/
def Permitted (body : ι → Co ρ σ ε α) (Allowed : Pool ι ρ σ ε α → Move ι ρ → Prop)
    (p : Pool ι ρ σ ε α) (ms : List (Move ι ρ)) : Prop :=
  ∀ pre m post, ms = pre ++ m :: post → Allowed (p.exec body pre) m

theorem Permitted.nil {Allowed : Pool ι ρ σ ε α → Move ι ρ → Prop} : Permitted body Allowed p [] := by
  intro pre m post heq
  cases pre with
  | nil => cases heq
  | cons m₀ pre => cases heq

theorem Permitted.cons {Allowed : Pool ι ρ σ ε α → Move ι ρ → Prop} {m : Move ι ρ}
    {ms : List (Move ι ρ)} (hm : Allowed p m) (hms : Permitted body Allowed (p.step body m) ms) :
    Permitted body Allowed p (m :: ms) := by
  intro pre m' post heq
  cases pre with
  | nil =>
      cases heq
      exact hm
  | cons m₀ pre =>
      obtain ⟨rfl, hrest⟩ := List.cons.inj heq
      exact hms pre m' post hrest

/-- **Invariants of pools.** -/
theorem exec_invariant (Inv : Pool ι ρ σ ε α → Prop)
    {Allowed : Pool ι ρ σ ε α → Move ι ρ → Prop} {ms : List (Move ι ρ)} (h : Inv p)
    (hallowed : Permitted body Allowed p ms)
    (hstep : ∀ p m, Inv p → Allowed p m → Inv (p.step body m)) : Inv (p.exec body ms) := by
  induction ms using List.reverseRecOn with
  | nil => exact h
  | append_singleton ms m ih =>
      rw [exec_concat]
      refine hstep _ m (ih ?_) (hallowed ms m [] rfl)
      intro pre m' post heq
      apply hallowed pre m' (post ++ [m])
      rw [heq, List.append_assoc]
      rfl

/-- A call starts when no call of its kind is pending or its part is ready. -/
def StartsAlone (D : Parts κ π χ σ α) (kind : ι → κ) (p : Pool ι ρ σ ε α) : Move ι ρ → Prop
  | .start a => (∀ i, ¬ p.Pending kind (kind a) i) ∨ D.ready (kind a) (D.part (kind a) p.shared)
  | .resume _ _ => True

/-- A pool in which each part is built, or one call at most is about to build it. -/
structure Phased (D : Parts κ π χ σ α) (kind : ι → κ) (p : Pool ι ρ σ ε α) : Prop where
  inv : D.inv p.shared
  ready : ∀ c, D.ready c (D.part c p.shared) → D.Built c p.shared
  one : ∀ c, ¬ D.Built c p.shared → ∀ i j, p.Pending kind c i → p.Pending kind c j → i = j
  idle : ∀ c, ¬ D.Built c p.shared → (∀ i, ¬ p.Pending kind c i) → D.first c (D.part c p.shared)
  pending : ∀ (i : ℕ) (a : ι) (k : ρ → σ → Outcome ρ σ ε α),
    p.calls[i]? = some ⟨a, .pending k⟩ → ∀ r s, D.Rely (kind a) p.shared s →
      (k r s).Sat (fun _ => True) (D.Rely (kind a)) (D.Gives (kind a)) (D.Yielded (kind a)) s
  settled : ∀ (i : ℕ) (a : ι) (r : Except ε α), p.calls[i]? = some ⟨a, .settled r⟩ →
    D.Yielded (kind a) p.shared r

variable {D : Parts κ π χ σ α}

theorem fresh_phased {s : σ} (hinv : D.inv s)
    (h : ∀ c, D.first c (D.part c s) ∨ D.Built c s) :
    (fresh s : Pool ι ρ σ ε α).Phased D kind where
  inv := hinv
  ready c hs := (h c).resolve_left fun h₀ => D.not_ready c _ h₀ hs
  one c _ i j := by
    rintro ⟨a, k, hi, -⟩
    cases hi
  idle c hnone _ := (h c).resolve_right hnone
  pending i a k hi := by cases hi
  settled i a r hi := by cases hi

/-- **A segment of one call**, which was alone with its part when that was not built. -/
theorem Phased.segment {i : ℕ} {a : ι} {o : Outcome ρ σ ε α} (hp : p.Phased D kind)
    (hsat : o.Sat (fun _ => True) (D.Rely (kind a)) (D.Gives (kind a)) (D.Yielded (kind a)) p.shared)
    (hshared : p'.shared = o.state) (hcall : p'.calls[i]? = some ⟨a, o.status⟩)
    (hothers : ∀ j, i ≠ j → p'.calls[j]? = p.calls[j]?)
    (halone : ∀ j, i ≠ j → p.Pending kind (kind a) j → D.Built (kind a) p.shared)
    (hi : ∀ c, c ≠ kind a → ¬ p.Pending kind c i) : p'.Phased D kind := by
  have hgives : D.Gives (kind a) p.shared p'.shared := hshared ▸ hsat.guarantee
  obtain ⟨hpending, hsettled⟩ := status_sound (i := 0) (a := a) (R := fun _ => D.Rely (kind a))
    (G := fun _ _ => D.Gives (kind a)) (Q := fun _ _ => D.Yielded (kind a)) hsat
  have hback : ∀ {c j}, i ≠ j → p'.Pending kind c j → p.Pending kind c j := by
    rintro c j hne ⟨b, k, hj, hb⟩
    exact ⟨b, k, (hothers j hne).symm.trans hj, hb⟩
  have hkind : ∀ {c}, p'.Pending kind c i → kind a = c := by
    rintro c ⟨b, k, hcall', hb⟩
    rw [hcall] at hcall'
    injection hcall' with hcall'
    injection hcall' with harg
    exact harg ▸ hb
  refine ⟨hgives.inv hp.inv, ?_, ?_, ?_, ?_, ?_⟩
  · intro c hready
    by_cases hc : c = kind a
    · subst hc
      exact hgives.ready (hp.ready (kind a)) hready
    · rw [hgives.others c hc] at hready
      exact hgives.built (hp.ready c hready)
  · intro c hnone j j' hj hj'
    have hnone' : ¬ D.Built c p.shared := fun h => hnone (hgives.built h)
    by_cases hc : kind a = c
    · have honly : ∀ {j}, p'.Pending kind c j → i = j := by
        intro j hj
        by_contra hne
        exact hnone' (hc ▸ halone j hne (hc ▸ hback hne hj))
      rw [← honly hj, ← honly hj']
    · have hne : ∀ {j}, p'.Pending kind c j → i ≠ j := by
        rintro j hj rfl
        exact hc (hkind hj)
      exact hp.one c hnone' j j' (hback (hne hj) hj) (hback (hne hj') hj')
  · intro c hnone hidle
    by_cases hc : c = kind a
    · subst hc
      cases hstatus : o.status with
      | settled r =>
          obtain ⟨-, x, hx, -⟩ := hsettled r hstatus
          exact absurd ⟨x, hshared ▸ hx⟩ hnone
      | pending k => exact absurd ⟨a, k, hstatus ▸ hcall, rfl⟩ (hidle i)
    · rw [hgives.others c hc]
      refine hp.idle c (fun h => hnone (hgives.built h)) fun j hj => ?_
      by_cases hij : i = j
      · exact hi c hc (hij ▸ hj)
      · obtain ⟨b, k, hj, hb⟩ := hj
        exact hidle j ⟨b, k, (hothers j hij).trans hj, hb⟩
  · intro j b k hj r s hs
    by_cases hij : i = j
    · subst hij
      rw [hcall] at hj
      injection hj with hj
      injection hj with harg hstatus
      subst harg
      exact hpending k hstatus r s (hshared ▸ hs)
    · rw [hothers j hij] at hj
      refine hp.pending j b k hj r s (hgives.rely (fun hb => ?_) hs)
      rw [hb]
      exact halone j hij ⟨b, k, hj, hb⟩
  · intro j b r hj
    by_cases hij : i = j
    · subst hij
      rw [hcall] at hj
      injection hj with hj
      injection hj with harg hstatus
      subst harg
      exact hshared ▸ hsettled r hstatus
    · rw [hothers j hij] at hj
      obtain ⟨hinv, x, hx, hr⟩ := hp.settled j b r hj
      exact ⟨hgives.inv hinv, x, hgives.kept hx, hr⟩

theorem Phased.start {a : ι} (hp : p.Phased D kind) (hallowed : StartsAlone D kind p (.start a))
    (hbody : D.Builds (kind a) (body a)) : (p.start body a).Phased D kind := by
  have hbuilt : D.Built (kind a) p.shared ∨ ∀ i, ¬ p.Pending kind (kind a) i :=
    hallowed.symm.imp_left (hp.ready (kind a))
  have hready : D.first (kind a) (D.part (kind a) p.shared) ∨ D.Built (kind a) p.shared := by
    by_cases h : D.Built (kind a) p.shared
    · exact Or.inr h
    · exact Or.inl (hp.idle _ h (hbuilt.resolve_left h))
  refine hp.segment (hbody p.shared hp.inv hready) rfl List.getElem?_concat_length
    (fun j hne => concat_ne hne) ?_ ?_
  · intro j _ hj
    exact hbuilt.resolve_right fun h => h j hj
  · rintro c - ⟨b, k, hi, -⟩
    rw [List.getElem?_eq_none (Nat.le_refl _)] at hi
    cases hi

theorem Phased.resume (hp : p.Phased D kind) (i : ℕ) (r : ρ) : (p.resume i r).Phased D kind := by
  rcases resume_cases p i r with h | ⟨a, k, hi, h⟩
  · rw [h]
    exact hp
  · rw [h]
    have hlt : i < p.calls.length := (List.getElem?_eq_some_iff.mp hi).1
    refine hp.segment (hp.pending i a k hi r _ .refl) rfl (List.getElem?_set_self hlt) ?_ ?_ ?_
    · exact fun j hne => List.getElem?_set_ne hne
    · intro j hne hj
      by_contra hnone
      exact hne (hp.one _ hnone i j ⟨a, k, hi, rfl⟩ hj)
    · rintro c hc ⟨b, k', hi', hb⟩
      rw [hi] at hi'
      cases hi'
      exact hc hb.symm

/-- **One built part.** When first calls do not overlap, every call that settled got
the value of the part that is built at the end. -/
theorem exec_phased {s : σ} {ms : List (Move ι ρ)} (hinv : D.inv s)
    (h : ∀ c, D.first c (D.part c s) ∨ D.Built c s)
    (horderly : Permitted body (StartsAlone D kind) (fresh s) ms)
    (hbody : ∀ a ∈ starts ms, D.Builds (kind a) (body a)) :
    ((fresh s).exec body ms).Phased D kind := by
  have hallowed : Permitted body (fun p m => StartsAlone D kind p m ∧
      ∀ a, m = .start a → D.Builds (kind a) (body a)) (fresh s) ms := by
    intro pre m post heq
    refine ⟨horderly pre m post heq, ?_⟩
    rintro a rfl
    refine hbody a ?_
    rw [heq, starts_append]
    exact List.mem_append_right _ List.mem_cons_self
  refine exec_invariant (Phased D kind) (fresh_phased hinv h) hallowed fun p m hp hm => ?_
  cases m with
  | start a => exact hp.start hm.1 (hm.2 a rfl)
  | resume i r => exact hp.resume i r

end Pool

end Oxpulse.Coroutine
