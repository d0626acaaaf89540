import Mathlib.Data.List.Nodup
import Mathlib.Order.Lattice

/-!
# Keeping the newest entries

A bounded store that drops its oldest entries sorts them by age, stably, and
keeps the end of the sorted list. Whatever the order of the entries was before,
nothing that is dropped is newer than something kept; and because the sort is
stable, an entry that was appended last and is at least as new as the others is
never dropped (`mem_newest_of_last`).
-/

namespace Oxpulse.Eviction

universe u v

variable {α : Type u} {β : Type v} [LinearOrder β] (rank : α → β)

/-- Ascending by rank, ties in the order they had. -/
def sorted (l : List α) : List α := l.mergeSort fun a b => decide (rank a ≤ rank b)

/-- The last `k` of the sorted list. -/
def newest (k : ℕ) (l : List α) : List α := (sorted rank l).drop (l.length - k)

section Newest

variable {rank} {k : ℕ} {l : List α} {a b : α}

theorem le_trans_bool (a b c : α) (hab : decide (rank a ≤ rank b) = true)
    (hbc : decide (rank b ≤ rank c) = true) : decide (rank a ≤ rank c) = true := by
  rw [decide_eq_true_eq] at hab hbc ⊢
  exact le_trans hab hbc

theorem le_total_bool (a b : α) :
    (decide (rank a ≤ rank b) || decide (rank b ≤ rank a)) = true := by
  rw [Bool.or_eq_true, decide_eq_true_eq, decide_eq_true_eq]
  exact le_total _ _

theorem perm_sorted (l : List α) : (sorted rank l).Perm l := List.mergeSort_perm l _

theorem pairwise_sorted (l : List α) :
    (sorted rank l).Pairwise fun a b => rank a ≤ rank b := by
  have hpairwise : (sorted rank l).Pairwise fun a b => decide (rank a ≤ rank b) = true :=
    List.pairwise_mergeSort le_trans_bool le_total_bool l
  apply hpairwise.imp
  intro a b hab
  exact of_decide_eq_true hab

/-- Of two entries that are not out of order, the first stays in front. -/
theorem pair_sublist_sorted (hab : rank a ≤ rank b) (h : [a, b].Sublist l) :
    [a, b].Sublist (sorted rank l) :=
  List.pair_sublist_mergeSort le_trans_bool le_total_bool (decide_eq_true hab) h

theorem length_newest : (newest rank k l).length = min k l.length := by
  unfold newest
  rw [List.length_drop, (perm_sorted l).length_eq]
  omega

theorem mem_of_mem_newest (h : a ∈ newest rank k l) : a ∈ l :=
  (perm_sorted l).mem_iff.mp (List.mem_of_mem_drop h)

theorem nodup_map_newest {γ : Type*} {f : α → γ} (h : (l.map f).Nodup) :
    ((newest rank k l).map f).Nodup := by
  have hsorted : ((sorted rank l).map f).Nodup := ((perm_sorted l).map f).nodup_iff.mpr h
  exact hsorted.sublist ((List.drop_sublist _ _).map f)

/-- **Nothing dropped is newer than something kept.** -/
theorem rank_le_of_dropped (ha : a ∈ l) (hdropped : a ∉ newest rank k l)
    (hb : b ∈ newest rank k l) : rank a ≤ rank b := by
  have hsorted : (sorted rank l).Pairwise fun a b => rank a ≤ rank b := pairwise_sorted l
  rw [← List.take_append_drop (l.length - k) (sorted rank l), List.pairwise_append] at hsorted
  have hmem : a ∈ sorted rank l := (perm_sorted l).mem_iff.mpr ha
  rw [← List.take_append_drop (l.length - k) (sorted rank l), List.mem_append] at hmem
  rcases hmem with htake | hkept
  · exact hsorted.2.2 a htake b hb
  · exact absurd hkept hdropped

/-- A newest entry that was appended last is sorted last. -/
theorem sorted_concat (hnodup : (l ++ [a]).Nodup) (hmax : ∀ b ∈ l, rank b ≤ rank a) :
    ∃ s, sorted rank (l ++ [a]) = s ++ [a] := by
  have hperm : (sorted rank (l ++ [a])).Perm (l ++ [a]) := perm_sorted _
  have hnodup' : (sorted rank (l ++ [a])).Nodup := hperm.nodup_iff.mpr hnodup
  have hne : sorted rank (l ++ [a]) ≠ [] := by
    intro hnil
    rw [hnil] at hperm
    exact absurd hperm.nil_eq (by simp)
  obtain ⟨s, b, heq⟩ := (List.eq_nil_or_concat' (sorted rank (l ++ [a]))).resolve_left hne
  rw [heq] at hnodup' hperm
  refine ⟨s, ?_⟩
  have hmem : b ∈ l ++ [a] := hperm.mem_iff.mp (by simp)
  rcases List.mem_append.mp hmem with hb | hb
  · -- otherwise the last of the sorted list was in front of `a`
    have hpair : [b, a].Sublist (l ++ [a]) :=
      (List.singleton_sublist.mpr hb).append (List.Sublist.refl [a])
    have hsorted := pair_sublist_sorted (hmax b hb) hpair
    have hba : b ≠ a := by
      intro heq
      exact (List.nodup_append.mp hnodup).2.2 b hb a (by simp) heq
    rw [heq, ← List.reverse_sublist, List.reverse_append] at hsorted
    have hfront : [a, b].Sublist s.reverse := by
      cases hsorted with
      | cons _ h => exact h
      | cons_cons _ _ => exact absurd rfl hba
    have hbs : b ∈ s := List.mem_reverse.mp (hfront.subset (by simp))
    exact absurd rfl ((List.nodup_append.mp hnodup').2.2 b hbs b (by simp))
  · rw [heq, List.mem_singleton.mp hb]

/-- **The newest entry survives** when it was appended last. -/
theorem mem_newest_of_last (hk : 0 < k) (hnodup : (l ++ [a]).Nodup)
    (hmax : ∀ b ∈ l, rank b ≤ rank a) : a ∈ newest rank k (l ++ [a]) := by
  obtain ⟨s, hs⟩ := sorted_concat hnodup hmax
  have hlength : (l ++ [a]).length = s.length + 1 := by
    have hperm : (sorted rank (l ++ [a])).Perm (l ++ [a]) := perm_sorted _
    rw [← hperm.length_eq, hs, List.length_append]
    rfl
  unfold newest
  rw [hs, hlength, List.drop_append_of_le_length (by omega)]
  exact List.mem_append_right _ (List.mem_singleton_self a)

end Newest

end Oxpulse.Eviction
