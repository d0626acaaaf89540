import Mathlib.Data.Fintype.Card
import Mathlib.Data.List.Induction

/-!
# Waiting for several promises at once

`Promise.all` counts the elements that it still waits for. The first one that rejects
rejects it, whatever becomes of the others, and it resolves when all have resolved.
`Settled n` lists what has settled so far of `n` promises, in this order, and carries
the proof that none settled twice. So `all` rejects with the first error of the list
(`all_rejected_iff`), resolves if and only if every element is in it as resolved
(`all_resolved_iff`), and once it has settled it does not change (`all_stays`).
-/

namespace Oxpulse

universe u v

structure Settled (n : ℕ) (ε : Type u) (α : Type v) where
  events : List (Fin n × Except ε α)
  once : (events.map Prod.fst).Nodup

namespace Settled

variable {n : ℕ} {ε : Type u} {α : Type v}

/-! ## The promise -/

/-- How many elements it waits for, and how it has settled. -/
structure Waiting (ε : Type u) where
  remaining : ℕ
  result : Option (Except ε Unit)

def wait (n : ℕ) : Waiting ε := ⟨n, if n = 0 then some (.ok ()) else none⟩

/-- An element settles; of `resolve` and `reject` the first call counts. -/
def Waiting.settle (w : Waiting ε) : Except ε α → Waiting ε
  | .ok _ =>
      let remaining := w.remaining - 1
      ⟨remaining, w.result.or (if remaining = 0 then some (.ok ()) else none)⟩
  | .error e => ⟨w.remaining, w.result.or (some (.error e))⟩

def waitFor (n : ℕ) (outcomes : List (Except ε α)) : Waiting ε :=
  outcomes.foldl Waiting.settle (wait n)

def outcomes (settled : Settled n ε α) : List (Except ε α) := settled.events.map Prod.snd

/-- `Promise.all` -/
def all (settled : Settled n ε α) : Option (Except ε Unit) := (waitFor n settled.outcomes).result

def error? : Except ε α → Option ε
  | .ok _ => none
  | .error e => some e

/-- The error of the first element that rejected. -/
def firstError (settled : Settled n ε α) : Option ε := settled.outcomes.findSome? error?

/-! ## What it has settled with -/

/-- The count and the result after these outcomes. -/
structure Counts (n : ℕ) (outcomes : List (Except ε α)) (w : Waiting ε) : Prop where
  remaining : outcomes.findSome? error? = none → w.remaining = n - outcomes.length
  waiting : outcomes.findSome? error? = none →
    w.result = if outcomes.length = n then some (.ok ()) else none
  rejected : ∀ e, outcomes.findSome? error? = some e → w.result = some (.error e)

theorem Counts.settle {outcomes : List (Except ε α)} {w : Waiting ε} (h : Counts n outcomes w)
    (outcome : Except ε α) (hlt : outcomes.length < n) :
    Counts n (outcomes ++ [outcome]) (w.settle outcome) := by
  have hfirst : (outcomes ++ [outcome]).findSome? error? =
      (outcomes.findSome? error?).or (error? outcome) := by
    rw [List.findSome?_append, List.findSome?_singleton]
  cases hbefore : outcomes.findSome? error? with
  | none =>
      have hremaining := h.remaining hbefore
      have hresult := h.waiting hbefore
      rw [if_neg (Nat.ne_of_lt hlt)] at hresult
      rw [hbefore, Option.none_or] at hfirst
      cases outcome with
      | ok a =>
          constructor
          · intro _
            show w.remaining - 1 = _
            rw [hremaining, List.length_append, List.length_singleton]
            omega
          · intro _
            show w.result.or (if w.remaining - 1 = 0 then _ else _) = _
            rw [hresult, hremaining, Option.none_or, List.length_append, List.length_singleton]
            refine if_congr ?_ rfl rfl
            omega
          · intro e he
            rw [hfirst] at he
            cases he
      | error e =>
          constructor
          · intro hnone
            rw [hfirst] at hnone
            cases hnone
          · intro hnone
            rw [hfirst] at hnone
            cases hnone
          · intro e' he
            rw [hfirst] at he
            cases he
            show w.result.or (some (.error e)) = _
            rw [hresult, Option.none_or]
  | some first =>
      have hresult := h.rejected first hbefore
      rw [hbefore, Option.some_or] at hfirst
      constructor
      · intro hnone
        rw [hfirst] at hnone
        cases hnone
      · intro hnone
        rw [hfirst] at hnone
        cases hnone
      · intro e he
        rw [hfirst] at he
        cases he
        cases outcome with
        | ok a =>
            show w.result.or _ = _
            rw [hresult, Option.some_or]
        | error e' =>
            show w.result.or _ = _
            rw [hresult, Option.some_or]

theorem counts_waitFor (outcomes : List (Except ε α)) (hlength : outcomes.length ≤ n) :
    Counts n outcomes (waitFor n outcomes) := by
  induction outcomes using List.reverseRecOn with
  | nil =>
      refine ⟨fun _ => rfl, fun _ => ?_, fun e he => ?_⟩
      · show (if n = 0 then _ else _) = _
        exact if_congr eq_comm rfl rfl
      · cases he
  | append_singleton outcomes outcome ih =>
      rw [List.length_append, List.length_singleton] at hlength
      unfold waitFor at ih ⊢
      rw [List.foldl_append]
      exact (ih (Nat.le_of_succ_le hlength)).settle outcome hlength

variable {settled settled' : Settled n ε α} {e : ε} {i : Fin n}

theorem length_events (settled : Settled n ε α) : settled.events.length ≤ n := by
  have hle := settled.once.length_le_card
  rwa [List.length_map, Fintype.card_fin] at hle

theorem counts (settled : Settled n ε α) :
    Counts n settled.outcomes (waitFor n settled.outcomes) := by
  refine counts_waitFor _ ?_
  unfold outcomes
  rw [List.length_map]
  exact settled.length_events

/-- An element settles in one way. -/
theorem eq_of_mem {outcome outcome' : Except ε α} (h : (i, outcome) ∈ settled.events)
    (h' : (i, outcome') ∈ settled.events) : outcome = outcome' := by
  have heq := List.inj_on_of_nodup_map settled.once h h' rfl
  exact congrArg Prod.snd heq

theorem firstError_eq_none :
    settled.firstError = none ↔ ∀ i e, (i, .error e) ∉ settled.events := by
  unfold firstError outcomes
  rw [List.findSome?_eq_none_iff]
  constructor
  · intro h i e hmem
    have hnone := h (.error e) (List.mem_map_of_mem (f := Prod.snd) hmem)
    cases hnone
  · rintro h outcome houtcome
    obtain ⟨⟨i, outcome⟩, hmem, rfl⟩ := List.mem_map.mp houtcome
    cases outcome with
    | ok a => rfl
    | error e => exact absurd hmem (h i e)

theorem mem_of_firstError (h : settled.firstError = some e) : ∃ i, (i, .error e) ∈ settled.events := by
  obtain ⟨outcome, houtcome, herror⟩ := List.exists_of_findSome?_eq_some h
  obtain ⟨⟨i, outcome⟩, hmem, rfl⟩ := List.mem_map.mp houtcome
  cases outcome with
  | ok a => cases herror
  | error e' =>
      cases herror
      exact ⟨i, hmem⟩

/-- The first rejection counts. -/
theorem all_rejected_iff : settled.all = some (.error e) ↔ settled.firstError = some e := by
  constructor
  · intro h
    unfold all at h
    cases hfirst : settled.firstError with
    | none =>
        rw [settled.counts.waiting hfirst] at h
        split at h
        · cases h
        · cases h
    | some e' =>
        rw [settled.counts.rejected e' hfirst] at h
        cases h
        rfl
  · exact settled.counts.rejected e

/-- It resolves when every element has resolved. -/
theorem all_resolved_iff : settled.all = some (.ok ()) ↔ ∀ i, ∃ a, (i, .ok a) ∈ settled.events := by
  have hlength : settled.outcomes.length = settled.events.length := List.length_map _
  constructor
  · intro h i
    cases hfirst : settled.firstError with
    | some e =>
        rw [all_rejected_iff.mpr hfirst] at h
        cases h
    | none =>
        unfold all at h
        rw [settled.counts.waiting hfirst, hlength] at h
        split at h
        next hfull =>
          -- So many different elements are all of them.
          have hmem : i ∈ settled.events.map Prod.fst := by
            have hsub : (settled.events.map Prod.fst).Subperm (List.finRange n) :=
              List.subperm_of_subset settled.once fun i _ => List.mem_finRange i
            refine (hsub.perm_of_length_le ?_).mem_iff.mpr (List.mem_finRange i)
            rw [List.length_finRange, List.length_map, hfull]
          obtain ⟨⟨j, outcome⟩, hevent, rfl⟩ := List.mem_map.mp hmem
          cases outcome with
          | ok a => exact ⟨a, hevent⟩
          | error e => exact absurd hevent (firstError_eq_none.mp hfirst j e)
        next => cases h
  · intro h
    have hfirst : settled.firstError = none := by
      refine firstError_eq_none.mpr fun i e hmem => ?_
      obtain ⟨a, ha⟩ := h i
      cases eq_of_mem ha hmem
    have hall : n ≤ settled.events.length := by
      have hsub : List.finRange n ⊆ settled.events.map Prod.fst := by
        intro i _
        obtain ⟨a, ha⟩ := h i
        exact List.mem_map_of_mem (f := Prod.fst) ha
      have hle := (List.subperm_of_subset (List.nodup_finRange n) hsub).length_le
      rwa [List.length_finRange, List.length_map] at hle
    unfold all
    rw [settled.counts.waiting hfirst, hlength]
    exact if_pos (Nat.le_antisymm settled.length_events hall)

/-- Later outcomes do not change it. -/
theorem all_stays {more : List (Fin n × Except ε α)} {result : Except ε Unit}
    (hmore : settled'.events = settled.events ++ more) (h : settled.all = some result) :
    settled'.all = some result := by
  have hstays : ∀ (outcomes : List (Except ε α)) (w : Waiting ε), w.result = some result →
      (outcomes.foldl Waiting.settle w).result = some result := by
    intro outcomes
    induction outcomes with
    | nil => exact fun _ hw => hw
    | cons outcome outcomes ih =>
        intro w hw
        refine ih (w.settle outcome) ?_
        cases outcome with
        | ok a =>
            show w.result.or _ = _
            rw [hw, Option.some_or]
        | error e =>
            show w.result.or _ = _
            rw [hw, Option.some_or]
  unfold all waitFor outcomes at h ⊢
  rw [hmore, List.map_append, List.foldl_append]
  exact hstays _ _ h

end Settled

end Oxpulse
