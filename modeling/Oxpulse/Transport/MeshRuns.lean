import Oxpulse.Transport.MeshPace

/-!
# Runs of the mesh

Each step of a run is an entry and a segment of one call, and a call moves no
flight but its own. So what every entry and every atom keeps is an invariant of
every run, and a call has a flight only while it is pending. A run may be known
to start its calls in certain states only (`Meets`); the condition can be tested
along a run on fixed inputs.
-/

namespace Oxpulse.Transport

open Oxpulse.Coroutine Oxpulse.Crypto

/-- So many calls were made; only they have flights. -/
def Counted (k : ℕ) (m : Mesh) : Prop := m.calls = k ∧ ∀ i, k ≤ i → m.flight i = none

section MeshRun

variable {P : Primitives}

/-- A call leaves the flights of the others alone. -/
theorem compatible (L : Move Event Unit → Mesh → Mesh → Prop) :
    Pool.Compatible Counted L (fun _ => Enters) (Segment P) Rely where
  refl := fun _ _ => rfl
  trans := fun _ _ _ _ h h' => Eq.trans h' h
  start := by
    intro i j e m m₀ m' hj hcount henters hsegment _
    have hne : j ≠ m.calls := by
      rw [hcount.1]
      exact Nat.ne_of_lt hj
    exact (hsegment.chain.flight_ne (Nat.ne_of_lt hj)).trans (henters.flight_ne hne)
  resume := fun _ _ _ _ _ _ hne hsegment _ => hsegment.chain.flight_ne (Ne.symm hne)
  enters := by
    intro i e m m₀ m' hcount henters hsegment
    refine ⟨?_, fun j hj => ?_⟩
    · rw [hsegment.chain.calls, henters.calls, hcount.1]
    · have hne : j ≠ i := Nat.ne_of_gt hj
      rw [hsegment.chain.flight_ne hne, henters.flight_ne (by rw [hcount.1]; exact hne)]
      exact hcount.2 j (Nat.le_of_succ_le hj)
  counts := by
    intro k i e m m' hi hcount hsegment
    refine ⟨hsegment.chain.calls.trans hcount.1, fun j hj => ?_⟩
    rw [hsegment.chain.flight_ne (Nat.ne_of_gt (Nat.lt_of_lt_of_le hi hj))]
    exact hcount.2 j hj

variable {m : Mesh}

theorem meshRun_concat (ms : List (Move Event Unit)) (mv : Move Event Unit) :
    meshRun P m (ms ++ [mv]) = (meshRun P m ms).step (handle P) mv :=
  Pool.exec_concat ms mv

theorem meshRun_sound (hm : Counted 0 m) (ms : List (Move Event Unit)) :
    (meshRun P m ms).Sound Counted (Segment P) Rely Settles := by
  refine Pool.exec_sound (compatible fun _ _ _ => True) (Pool.fresh_sound hm) ms
    (fun _ _ _ _ => trivial) fun pre e post _ hpre => ?_
  have hopens := handle_opens (P := P) e (hpre.count.2 _ (le_of_eq hpre.count.1.symm))
  rw [hpre.count.1] at hopens
  exact hopens

/-- **More of a call**: what each call relies on and leaves besides its flight,
in a run whose steps satisfy `L`. The others have to give it with their
segments. -/
theorem meshRun_sound_with {L : Move Event Unit → Mesh → Mesh → Prop}
    {R : ℕ → Mesh → Mesh → Prop} {Q : ℕ → Event → Mesh → Except JsError Unit → Prop}
    (hm : Counted 0 m) {ms : List (Move Event Unit)}
    (hL : Pool.Each (handle P) (Pool.fresh m) L ms)
    (refl : ∀ i m, R i m m) (trans : ∀ i a b c, R i a b → R i b c → R i a c)
    (start : ∀ i e m m₀ m', i < m.calls → Enters e m m₀ → Segment P m.calls e m₀ m' →
      L (.start e) m m' → R i m m')
    (resume : ∀ i j e r m m', i ≠ j → Segment P j e m m' → L (.resume j r) m m' → R i m m')
    (opens : ∀ pre e post, ms = pre ++ .start e :: post →
      (handle P e (meshRun P m pre).shared).Sat (fun _ => True)
        (R (meshRun P m pre).shared.calls) (fun _ _ => True)
        (Q (meshRun P m pre).shared.calls e) (meshRun P m pre).shared) :
    (meshRun P m ms).Sound Counted (Segment P) (fun i m m' => Rely i m m' ∧ R i m m')
      (fun i e m x => Settles i e m x ∧ Q i e m x) := by
  have hbase := compatible (P := P) L
  have hcompatible : Pool.Compatible Counted L (fun _ => Enters) (Segment P)
      (fun i m m' => Rely i m m' ∧ R i m m') := by
    constructor
    · exact fun i m => ⟨hbase.refl i m, refl i m⟩
    · exact fun i a b c h h' => ⟨hbase.trans i a b c h.1 h'.1, trans i a b c h.2 h'.2⟩
    · intro i j e m m₀ m' hj hcount henters hsegment hlegal
      have hcalls := hcount.1
      subst hcalls
      exact ⟨hbase.start _ j e m m₀ m' hj hcount henters hsegment hlegal,
        start j e m m₀ m' hj henters hsegment hlegal⟩
    · intro i j e r m m' hne hsegment hlegal
      exact ⟨hbase.resume i j e r m m' hne hsegment hlegal,
        resume j i e r m m' (Ne.symm hne) hsegment hlegal⟩
    · exact hbase.enters
    · exact hbase.counts
  refine Pool.exec_sound hcompatible (Pool.fresh_sound hm) ms hL fun pre e post heq hpre => ?_
  have hcalls : (meshRun P m pre).shared.calls = (meshRun P m pre).calls.length := hpre.count.1
  have hnone := hpre.count.2 _ (le_of_eq hcalls.symm)
  obtain ⟨m₀, henters, hsat⟩ := handle_opens (P := P) e hnone
  have hmore := opens pre e post heq
  have hboth := hsat.and (Outcome.Sat.precede (fun _ _ => trivial) hmore)
  simp only [and_self, and_true] at hboth
  refine ⟨m₀, henters, ?_⟩
  show (handle P e (meshRun P m pre).shared).Sat _ _ _ _ _
  rw [show ((Pool.fresh m : MeshPool).exec (handle P) pre).calls.length =
    (meshRun P m pre).shared.calls from hcalls.symm]
  exact hboth

/-- What a step of a run does. -/
theorem meshRun_stepCase (hm : Counted 0 m) (ms : List (Move Event Unit)) (mv : Move Event Unit) :
    Pool.StepCase (fun _ => Enters) (Segment P) Settles (meshRun P m ms)
      ((meshRun P m ms).step (handle P) mv) mv := by
  have hsound := meshRun_sound (P := P) hm ms
  refine hsound.stepCase (compatible fun _ _ _ => True) mv fun e _ => ?_
  have hopens := handle_opens (P := P) e (hsound.count.2 _ (le_of_eq hsound.count.1.symm))
  rw [hsound.count.1] at hopens
  exact hopens

/-- **Invariants of a run.** What every entry and every atom keeps holds in the
state a schedule reaches; of an entry it may be known that it belongs to a step
that satisfies `L`. -/
theorem meshRun_keeps {L : Move Event Unit → Mesh → Mesh → Prop} {J : Mesh → Prop}
    (hm : Counted 0 m) (hJ : J m)
    (henters : ∀ e m m₀ m', Enters e m m₀ → Chain P m.calls e m₀ m' → L (.start e) m m' →
      J m → J m₀)
    (hatom : ∀ i e m m', Atom P i e m m' → J m → J m') {ms : List (Move Event Unit)}
    (hL : Pool.Each (handle P) (Pool.fresh m) L ms) : J (meshRun P m ms).shared := by
  refine Pool.exec_keeps hJ fun pre mv post heq hpre => ?_
  have hlegal := hL pre mv post heq
  have hcount := (meshRun_sound (P := P) hm pre).count
  cases meshRun_stepCase (P := P) hm pre mv with
  | idle _ hidle =>
      rw [show ((Pool.fresh m).exec (handle P) pre).step (handle P) mv = _ from hidle]
      exact hpre
  | start e m₀ st hE hG _ _ =>
      have hG' : Chain P (meshRun P m pre).shared.calls e m₀ _ := hcount.1 ▸ hG.chain
      exact hG.chain.keeps (hatom _ e) (henters e _ m₀ _ hE hG' hlegal hpre)
  | resume i e r k st _ hG _ _ => exact hG.chain.keeps (hatom i e) hpre

/-- A condition on the calls that are started and the states they find. -/
def Starts (C : Event → Mesh → Prop) : Move Event Unit → Mesh → Mesh → Prop
  | .start e, m, _ => C e m
  | .resume _ _, _, _ => True

/-- Every call of the run meets the condition. -/
abbrev Meets (P : Primitives) (m : Mesh) (C : Event → Mesh → Prop)
    (ms : List (Move Event Unit)) : Prop :=
  Pool.Each (handle P) (Pool.fresh m) (Starts C) ms

/-- What entries that meet the condition keep, and every atom, holds in a run
whose calls all meet it. -/
theorem Meets.keeps {C : Event → Mesh → Prop} {J : Mesh → Prop} {ms : List (Move Event Unit)}
    (h : Meets P m C ms) (hm : Counted 0 m) (hJ : J m)
    (henters : ∀ e m m₀, Enters e m m₀ → C e m → J m → J m₀)
    (hatom : ∀ i e m m', Atom P i e m m' → J m → J m') : J (meshRun P m ms).shared :=
  meshRun_keeps hm hJ (fun e m m₀ _ hE _ hC => henters e m m₀ hE hC) hatom h

theorem Meets.init {C : Event → Mesh → Prop} {ms : List (Move Event Unit)}
    {mv : Move Event Unit} (h : Meets P m C (ms ++ [mv])) : Meets P m C ms :=
  Pool.Each.init h

/-- The condition, tested along a run on fixed inputs. -/
def tests (c : Event → Mesh → Bool) : Move Event Unit → Mesh → Mesh → Bool
  | .start e, m, _ => c e m
  | .resume _ _, _, _ => true

theorem Meets.of_tests {C : Event → Mesh → Prop} {c : Event → Mesh → Bool}
    (htest : ∀ e m, c e m = true → C e m) {ms : List (Move Event Unit)}
    (h : Pool.checks (handle P) (tests c) (Pool.fresh m) ms = true) : Meets P m C ms := by
  refine Pool.Each.of_checks (fun mv m m' ht => ?_) h
  cases mv with
  | start e => exact htest e m ht
  | resume i r => trivial

/-- A flight belongs to a call that is pending. -/
theorem meshRun_pending (hm : Counted 0 m) (ms : List (Move Event Unit)) :
    ∀ i, (meshRun P m ms).shared.flight i ≠ none →
      ∃ e k, (meshRun P m ms).calls[i]? = some ⟨e, .pending k⟩ := by
  induction ms using List.reverseRecOn with
  | nil => exact fun i hi => absurd (hm.2 i (Nat.zero_le i)) hi
  | append_singleton ms mv ih =>
      have hcount := (meshRun_sound (P := P) hm ms).count
      rw [meshRun_concat]
      cases meshRun_stepCase (P := P) hm ms mv with
      | idle _ hidle =>
          rw [hidle]
          exact ih
      | start e m₀ st hE hG hcalls hQ =>
          intro i hi
          rw [hcalls]
          by_cases hlast : i = (meshRun P m ms).calls.length
          · subst hlast
            cases st with
            | pending k => exact ⟨e, k, List.getElem?_concat_length⟩
            | settled x => exact absurd (hQ x rfl).1 hi
          · rw [hG.chain.flight_ne hlast, hE.flight_ne (by rw [hcount.1]; exact hlast)] at hi
            obtain ⟨e', k, hcall⟩ := ih i hi
            refine ⟨e', k, ?_⟩
            rw [List.getElem?_append_left (List.getElem?_eq_some_iff.mp hcall).1]
            exact hcall
      | resume j e r k st hj hG hcalls hQ =>
          intro i hi
          rw [hcalls]
          by_cases hself : i = j
          · subst hself
            cases st with
            | pending k' =>
                exact ⟨e, k', List.getElem?_set_self (List.getElem?_eq_some_iff.mp hj).1⟩
            | settled x => exact absurd (hQ x rfl).1 hi
          · rw [hG.chain.flight_ne hself] at hi
            obtain ⟨e', k', hcall⟩ := ih i hi
            refine ⟨e', k', ?_⟩
            rw [List.getElem?_set_ne (Ne.symm hself)]
            exact hcall

/-- Every call has settled. -/
def MeshPool.Quiescent (p : MeshPool) : Prop := ∀ c ∈ p.calls, c.status.isPending = false

theorem MeshPool.Quiescent.flight (hm : Counted 0 m) {ms : List (Move Event Unit)}
    (hq : (meshRun P m ms).Quiescent) (i : ℕ) : (meshRun P m ms).shared.flight i = none := by
  by_contra hi
  obtain ⟨e, k, hcall⟩ := meshRun_pending (P := P) hm ms i hi
  have hsettled := hq _ (List.mem_of_getElem? hcall)
  cases hsettled

end MeshRun

end Oxpulse.Transport
