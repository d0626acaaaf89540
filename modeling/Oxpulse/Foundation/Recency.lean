import Mathlib.Data.List.Dedup
import Mathlib.Data.List.DropRight

/-!
# The elements that occur last

`recent n l` are the `n` distinct elements of `l` whose last occurrence is latest,
in the order of these occurrences. When `l` grows by an element that is among
them, the element moves to the end; one that is not among them comes in at the
end, and pushes out the first one when there are `n` already. A cache of the
least-recently-used kind does just this to its keys.
-/

namespace Oxpulse.Recency

universe u v

variable {α : Type u} [DecidableEq α] {β : Type v} [DecidableEq β]

def recent (n : ℕ) (l : List α) : List α := l.dedup.rtake n

/-- Move an element to the end. -/
def touch (a : α) (l : List α) : List α := (l.filter fun b => b ≠ a) ++ [a]

section Recent

variable {n : ℕ} {l : List α} {a : α}

theorem dedup_concat (l : List α) (a : α) : (l ++ [a]).dedup = touch a l.dedup := by
  induction l with
  | nil => rfl
  | cons b l ih =>
      rw [List.cons_append]
      by_cases hold : b ∈ l
      · rw [List.dedup_cons_of_mem (List.mem_append_left _ hold), ih, List.dedup_cons_of_mem hold]
      rw [List.dedup_cons_of_notMem hold]
      by_cases heq : b = a
      · have hmem : b ∈ l ++ [a] := List.mem_append_right _ (List.mem_singleton.mpr heq)
        rw [List.dedup_cons_of_mem hmem, ih]
        unfold touch
        rw [List.filter_cons_of_neg (by simpa using heq)]
      · have hnew : b ∉ l ++ [a] := by
          rw [List.mem_append, List.mem_singleton]
          exact not_or.mpr ⟨hold, heq⟩
        rw [List.dedup_cons_of_notMem hnew, ih]
        unfold touch
        rw [List.filter_cons_of_pos (by simpa using heq), List.cons_append]

theorem recent_nil (n : ℕ) : recent n ([] : List α) = [] := by
  unfold recent
  rw [List.dedup_nil, List.rtake_nil]

/-- What is forgotten, and what is not. -/
theorem exists_append_recent (n : ℕ) (l : List α) :
    ∃ old, l.dedup = old ++ recent n l ∧ ((recent n l).length < n → old = []) := by
  refine ⟨l.dedup.take (l.dedup.length - n), (List.take_append_drop _ _).symm, fun hlt => ?_⟩
  unfold recent List.rtake at hlt
  rw [List.length_drop] at hlt
  rw [List.take_eq_nil_iff]
  omega

theorem length_recent_le (n : ℕ) (l : List α) : (recent n l).length ≤ n := by
  unfold recent List.rtake
  rw [List.length_drop]
  omega

omit [DecidableEq α] in
theorem rtake_append {old new : List α} (h : new.length = n) : (old ++ new).rtake n = new := by
  unfold List.rtake
  rw [List.length_append, h, Nat.add_sub_cancel]
  exact List.drop_left

theorem filter_ne_of_notMem (h : a ∉ l) : (l.filter fun b => b ≠ a) = l := by
  rw [List.filter_eq_self]
  intro b hb
  rw [decide_eq_true_eq]
  rintro rfl
  exact h hb

theorem touch_of_notMem (h : a ∉ l) : touch a l = l ++ [a] := by
  unfold touch
  rw [filter_ne_of_notMem h]

theorem touch_append (a : α) (old new : List α) :
    touch a (old ++ new) = (old.filter fun b => b ≠ a) ++ touch a new := by
  unfold touch
  rw [List.filter_append, List.append_assoc]

theorem length_touch (hnodup : l.Nodup) (h : a ∈ l) : (touch a l).length = l.length := by
  have hlength : 0 < l.length := List.length_pos_of_mem h
  have herase : (l.filter fun b => b ≠ a) = l.erase a := by
    rw [hnodup.erase_eq_filter]
    exact List.filter_congr fun b _ => decide_not
  unfold touch
  rw [List.length_append, List.length_singleton, herase, List.length_erase_of_mem h]
  omega

/-- An element that is among the recent ones moves to the end. -/
theorem recent_concat_of_mem (h : a ∈ recent n l) :
    recent n (l ++ [a]) = touch a (recent n l) := by
  obtain ⟨old, hsplit, hroom⟩ := exists_append_recent n l
  have hnodup : (old ++ recent n l).Nodup := hsplit ▸ l.nodup_dedup
  have hold : a ∉ old := fun hmem => (List.nodup_append.mp hnodup).2.2 a hmem a h rfl
  have hlength := length_touch (List.nodup_append.mp hnodup).2.1 h
  show (l ++ [a]).dedup.rtake n = _
  rw [dedup_concat, hsplit, touch_append, filter_ne_of_notMem hold]
  rcases (length_recent_le n l).lt_or_eq with hlt | hfull
  · rw [hroom hlt, List.nil_append]
    unfold List.rtake
    rw [Nat.sub_eq_zero_of_le (hlength.trans_le hlt.le), List.drop_zero]
  · exact rtake_append (hlength.trans hfull)

/-- Another one comes in at the end, as long as there is room. -/
theorem recent_concat_of_room (h : a ∉ recent n l) (hroom : (recent n l).length < n) :
    recent n (l ++ [a]) = recent n l ++ [a] := by
  obtain ⟨old, hsplit, hnil⟩ := exists_append_recent n l
  rw [hnil hroom, List.nil_append] at hsplit
  show (l ++ [a]).dedup.rtake n = _
  rw [dedup_concat, hsplit, touch_of_notMem h]
  unfold List.rtake
  rw [Nat.sub_eq_zero_of_le, List.drop_zero]
  rw [List.length_append, List.length_singleton]
  exact hroom

/-- Without room the first one is forgotten. -/
theorem recent_concat_of_full (hn : 1 ≤ n) (h : a ∉ recent n l)
    (hfull : n ≤ (recent n l).length) : recent n (l ++ [a]) = (recent n l).tail ++ [a] := by
  obtain ⟨old, hsplit, -⟩ := exists_append_recent n l
  have hlength := Nat.le_antisymm (length_recent_le n l) hfull
  show (l ++ [a]).dedup.rtake n = _
  rw [dedup_concat, hsplit]
  cases hrecent : recent n l with
  | nil =>
      rw [hrecent, List.length_nil] at hfull
      omega
  | cons first rest =>
      rw [hrecent, List.length_cons] at hlength
      rw [hrecent] at h
      have hrest : a ∉ rest := fun hmem => h (List.mem_cons_of_mem _ hmem)
      rw [List.append_cons, touch_append, touch_of_notMem hrest]
      refine rtake_append ?_
      rw [List.length_append, List.length_singleton, hlength]

theorem dedup_map_of_injOn {f : α → β}
    (hf : ∀ a ∈ l, ∀ b ∈ l, f a = f b → a = b) : (l.map f).dedup = l.dedup.map f := by
  induction l with
  | nil => rfl
  | cons a l ih =>
      have hrest := ih fun b hb c hc => hf b (List.mem_cons_of_mem _ hb) c (List.mem_cons_of_mem _ hc)
      have hmem : f a ∈ l.map f ↔ a ∈ l := by
        rw [List.mem_map]
        constructor
        · rintro ⟨b, hb, heq⟩
          exact hf b (List.mem_cons_of_mem _ hb) a List.mem_cons_self heq ▸ hb
        · exact fun h => ⟨a, h, rfl⟩
      rw [List.map_cons]
      by_cases h : a ∈ l
      · rw [List.dedup_cons_of_mem (hmem.mpr h), List.dedup_cons_of_mem h, hrest]
      · rw [List.dedup_cons_of_notMem (mt hmem.mp h), List.dedup_cons_of_notMem h, hrest,
          List.map_cons]

/-- Names that tell the elements apart do as well as the elements. -/
theorem recent_map {f : α → β} (hf : ∀ a ∈ l, ∀ b ∈ l, f a = f b → a = b) :
    recent n (l.map f) = (recent n l).map f := by
  unfold recent List.rtake
  rw [dedup_map_of_injOn hf, List.length_map, List.map_drop]

theorem mem_of_mem_recent (h : a ∈ recent n l) : a ∈ l :=
  List.mem_dedup.mp (List.mem_of_mem_drop h)

end Recent

end Oxpulse.Recency
