import Mathlib.Data.List.Find
import Mathlib.Data.List.Sort
import Mathlib.Data.Prod.Lex
import Oxpulse.Foundation.ObjectStore

/-!
# Cursors over an index

An index lists the records of an object store by a field and then by key
(`indexed`). A cursor stands at a record and goes on to the next one beyond it,
whatever happened to the store in between (`cursorAt`). A walk that deletes each
record it comes to takes them from the front of the list (`indexed_deleteWalk`).
-/

namespace Oxpulse.ObjectStore

universe u v w

variable {κ : Type u} [LinearOrder κ] {α : Type v} {key : α → κ} {ι : Type w} [LinearOrder ι]

/-- The records with other keys. -/
def delete (k : κ) (store : ObjectStore key) : ObjectStore key :=
  store.filter fun a => key a ≠ k

/-- Where a record stands in the index. -/
def position (key : α → κ) (idx : α → ι) (a : α) : ι ×ₗ κ := toLex (idx a, key a)

def indexed (idx : α → ι) (store : ObjectStore key) : List α :=
  store.records.mergeSort fun a b => position key idx a ≤ position key idx b

/-- The first record beyond a position, among those in the range. -/
def cursorAt (idx : α → ι) (range : ι → Bool) (after : Option (ι ×ₗ κ))
    (store : ObjectStore key) : Option α :=
  (store.indexed idx).find? fun a => range (idx a) && after.all fun p => p < position key idx a

/-- `cursor.delete(); cursor.continue()`, so many times unless the cursor ends
before. -/
def deleteWalk (idx : α → ι) (range : ι → Bool) :
    ℕ → Option (ι ×ₗ κ) → ObjectStore key → ObjectStore key × ℕ
  | 0, _, store => (store, 0)
  | n + 1, after, store =>
      match store.cursorAt idx range after with
      | none => (store, 0)
      | some a =>
          let rest := deleteWalk idx range n (some (position key idx a)) (store.delete (key a))
          (rest.1, rest.2 + 1)

variable {store store' : ObjectStore key} {idx : α → ι} {range : ι → Bool} {a b : α} {k : κ}

/-! ## Stores -/

theorem mem_filter {test : α → Bool} :
    a ∈ (store.filter test).records ↔ a ∈ store.records ∧ test a = true :=
  List.mem_filter

theorem mem_delete : a ∈ (store.delete k).records ↔ a ∈ store.records ∧ key a ≠ k := by
  unfold delete
  rw [mem_filter, decide_eq_true_eq]

theorem count_filter_le (test : α → Bool) (store : ObjectStore key) :
    (store.filter test).count ≤ store.count :=
  List.length_filter_le _ _

theorem count_put_le (a : α) (store : ObjectStore key) : (store.put a).count ≤ store.count + 1 := by
  rw [← length_keys, ← length_keys]
  have hsub : (store.put a).keys ⊆ key a :: store.keys := fun k hk =>
    List.mem_cons.mpr (mem_keys_put.mp hk)
  exact (List.subperm_of_subset (keys_nodup (store.put a)) hsub).length_le

/-- Replacing a record adds none. -/
theorem count_put_of_mem (h : key a ∈ store.keys) : (store.put a).count ≤ store.count := by
  rw [← length_keys, ← length_keys]
  refine (List.subperm_of_subset (keys_nodup (store.put a)) fun k hk => ?_).length_le
  rcases mem_keys_put.mp hk with rfl | hk
  · exact h
  · exact hk

/-! ## The index -/

theorem perm_indexed (idx : α → ι) (store : ObjectStore key) :
    (store.indexed idx).Perm store.records :=
  List.mergeSort_perm ..

theorem mem_indexed (idx : α → ι) : a ∈ store.indexed idx ↔ a ∈ store.records :=
  (perm_indexed idx store).mem_iff

theorem length_indexed (idx : α → ι) (store : ObjectStore key) :
    (store.indexed idx).length = store.count :=
  (perm_indexed idx store).length_eq

theorem sorted_indexed (idx : α → ι) (store : ObjectStore key) :
    (store.indexed idx).Pairwise fun a b => position key idx a < position key idx b := by
  have hle : (store.indexed idx).Pairwise fun a b => position key idx a ≤ position key idx b := by
    have hsorted : (store.indexed idx).Pairwise fun a b =>
        decide (position key idx a ≤ position key idx b) = true := by
      refine List.pairwise_mergeSort (fun a b c hab hbc => ?_) (fun a b => ?_) store.records
      · rw [decide_eq_true_eq] at hab hbc ⊢
        exact le_trans hab hbc
      · rw [Bool.or_eq_true, decide_eq_true_eq, decide_eq_true_eq]
        exact le_total _ _
    exact hsorted.imp fun h => of_decide_eq_true h
  have hne : (store.indexed idx).Pairwise fun a b => key a ≠ key b := by
    refine ((perm_indexed idx store).pairwise_iff fun h => h.symm).mpr ?_
    exact store.sorted.imp fun h => ne_of_lt h
  refine (hle.and hne).imp fun {a b} h => lt_of_le_of_ne h.1 fun heq => h.2 ?_
  exact congrArg (fun p => (ofLex p).2) heq

/-- A stable sort by the field alone lists them so too. -/
theorem indexed_eq_mergeSort (idx : α → ι) (store : ObjectStore key) :
    store.indexed idx = store.records.mergeSort fun a b => idx a ≤ idx b := by
  have htrans : ∀ a b c : α, decide (idx a ≤ idx b) = true → decide (idx b ≤ idx c) = true →
      decide (idx a ≤ idx c) = true := by
    intro a b c hab hbc
    rw [decide_eq_true_eq] at hab hbc ⊢
    exact le_trans hab hbc
  have htotal : ∀ a b : α, (decide (idx a ≤ idx b) || decide (idx b ≤ idx a)) = true := by
    intro a b
    rw [Bool.or_eq_true, decide_eq_true_eq, decide_eq_true_eq]
    exact le_total _ _
  have hperm : (store.records.mergeSort fun a b => idx a ≤ idx b).Perm store.records :=
    List.mergeSort_perm ..
  have hle := List.pairwise_mergeSort htrans htotal store.records
  -- Among equals the order of the records stays.
  have hsame : ∀ i, ((store.records.mergeSort fun a b => idx a ≤ idx b).filter fun a => idx a = i) =
      store.records.filter fun a => idx a = i := by
    intro i
    have hsub : (store.records.filter fun a => idx a = i).Sublist
        (store.records.mergeSort fun a b => idx a ≤ idx b) := by
      refine List.sublist_mergeSort htrans htotal ?_ List.filter_sublist
      rw [List.pairwise_iff_forall_sublist]
      intro a b hab
      have ha := (List.mem_filter.mp (hab.subset List.mem_cons_self)).2
      have hb := (List.mem_filter.mp (hab.subset (List.mem_cons_of_mem a List.mem_cons_self))).2
      rw [decide_eq_true_eq] at ha hb ⊢
      rw [ha, hb]
    have hfilter := hsub.filter fun a => decide (idx a = i)
    rw [List.filter_filter] at hfilter
    simp only [Bool.and_self] at hfilter
    exact (hfilter.eq_of_length (hperm.filter _).length_eq.symm).symm
  refine ((perm_indexed idx store).trans hperm.symm).eq_of_pairwise
    (fun a b _ _ hab hba => absurd hab (lt_asymm hba)) (sorted_indexed idx store) ?_
  rw [List.pairwise_iff_forall_sublist] at hle ⊢
  intro a b hab
  have hidx := hle hab
  rw [decide_eq_true_eq] at hidx
  refine Prod.Lex.toLex_lt_toLex.mpr ((lt_or_eq_of_le hidx).imp_right fun heq => ⟨heq, ?_⟩)
  have hpair := hab.filter fun c => decide (idx c = idx b)
  rw [hsame, List.filter_cons_of_pos (by simpa using heq), List.filter_cons_of_pos (by simp),
    List.filter_nil] at hpair
  have hkeys : [a, b].Pairwise fun a b => key a < key b :=
    (store.sorted.sublist List.filter_sublist).sublist hpair
  exact (List.pairwise_cons.mp hkeys).1 b (List.mem_singleton_self b)

/-- Two stores with the same records are the same. -/
theorem eq_of_mem (h : ∀ a, a ∈ store.records ↔ a ∈ store'.records) : store = store' := by
  have hnodup : ∀ store : ObjectStore key, store.records.Nodup := fun store =>
    store.sorted.imp fun hlt heq => ne_of_lt hlt (congrArg key heq)
  have hperm : store.records.Perm store'.records :=
    (List.perm_ext_iff_of_nodup (hnodup _) (hnodup _)).mpr h
  have heq := hperm.eq_of_pairwise (fun a b _ _ hab hba => absurd hab (lt_asymm hba))
    store.sorted store'.sorted
  cases store
  cases store'
  cases heq
  rfl

/-- Deleting the first record of the index. -/
theorem indexed_delete {rest : List α} (h : store.indexed idx = a :: rest) :
    (store.delete (key a)).indexed idx = rest := by
  have hsorted := sorted_indexed idx store
  have hkeys : ∀ b ∈ rest, key b ≠ key a := by
    have hnodup : ((store.indexed idx).map key).Nodup :=
      ((perm_indexed idx store).map key).nodup_iff.mpr (keys_nodup store)
    rw [h, List.map_cons, List.nodup_cons] at hnodup
    intro b hb heq
    exact hnodup.1 (heq ▸ List.mem_map_of_mem hb)
  rw [h, List.pairwise_cons] at hsorted
  have hnodup : ∀ l : List α,
      l.Pairwise (fun a b => position key idx a < position key idx b) → l.Nodup := fun l hl =>
    hl.imp fun hlt heq => ne_of_lt hlt (congrArg _ heq)
  have hperm : ((store.delete (key a)).indexed idx).Perm rest := by
    rw [List.perm_ext_iff_of_nodup (hnodup _ (sorted_indexed idx _)) (hnodup _ hsorted.2)]
    intro b
    rw [mem_indexed idx, mem_delete, ← mem_indexed idx, h, List.mem_cons]
    constructor
    · rintro ⟨rfl | hb, hne⟩
      · exact absurd rfl hne
      · exact hb
    · exact fun hb => ⟨Or.inr hb, hkeys b hb⟩
  exact hperm.eq_of_pairwise (fun a b _ _ hab hba => absurd hab (lt_asymm hba))
    (sorted_indexed idx _) hsorted.2

/-! ## The walk -/

/-- The cursor has not passed any record that is left. -/
def Ahead (idx : α → ι) (after : Option (ι ×ₗ κ)) (store : ObjectStore key) : Prop :=
  ∀ a ∈ store.records, after.all (fun p => p < position key idx a) = true

theorem ahead_none : Ahead idx none store := fun _ _ => rfl

theorem ahead_delete {rest : List α} (h : store.indexed idx = a :: rest) :
    Ahead idx (some (position key idx a)) (store.delete (key a)) := by
  intro b hb
  rw [← mem_indexed idx, indexed_delete h] at hb
  have hsorted := sorted_indexed idx store
  rw [h, List.pairwise_cons] at hsorted
  rw [Option.all_some, decide_eq_true_eq]
  exact hsorted.1 b hb

/-- What the cursor finds when it is ahead. -/
theorem cursorAt_of_ahead {after : Option (ι ×ₗ κ)} (hahead : Ahead idx after store) :
    store.cursorAt idx range after = (store.indexed idx).find? fun a => range (idx a) := by
  unfold cursorAt
  refine List.find?_congr fun a ha => ?_
  rw [hahead a ((mem_indexed idx).mp ha), Bool.and_true]

/-- **The walk over the whole index** deletes from its front. -/
theorem indexed_deleteWalk (n : ℕ) {after : Option (ι ×ₗ κ)} (hahead : Ahead idx after store) :
    (store.deleteWalk idx (fun _ => true) n after).1.indexed idx = (store.indexed idx).drop n ∧
      (store.deleteWalk idx (fun _ => true) n after).2 = min n store.count := by
  induction n generalizing store after with
  | zero => exact ⟨rfl, (Nat.zero_min _).symm⟩
  | succ n ih =>
      unfold deleteWalk
      rw [cursorAt_of_ahead hahead]
      cases h : store.indexed idx with
      | nil =>
          have hcount := length_indexed idx store
          rw [h] at hcount
          refine ⟨h, ?_⟩
          rw [← hcount]
          rfl
      | cons a rest =>
          have hcount := length_indexed idx store
          have hcount' := length_indexed idx (store.delete (key a))
          rw [h, List.length_cons] at hcount
          rw [indexed_delete h] at hcount'
          obtain ⟨hindexed, hdeleted⟩ := ih (ahead_delete h)
          rw [List.find?_cons_of_pos rfl]
          refine ⟨?_, ?_⟩
          · rw [hindexed, indexed_delete h]
            rfl
          · dsimp only
            rw [hdeleted]
            omega

theorem count_deleteWalk (n : ℕ) :
    (store.deleteWalk idx (fun _ => true) n none).1.count = store.count - n := by
  rw [← length_indexed idx, (indexed_deleteWalk n ahead_none).1, List.length_drop, length_indexed]

/-- What the walk leaves is what it has not come to. -/
theorem mem_deleteWalk (n : ℕ) :
    a ∈ (store.deleteWalk idx (fun _ => true) n none).1.records ↔ a ∈ (store.indexed idx).drop n := by
  rw [← mem_indexed idx, (indexed_deleteWalk n ahead_none).1]

theorem count_delete_lt (ha : a ∈ store.records) : (store.delete (key a)).count < store.count := by
  refine List.length_filter_lt_length_iff_exists.mpr ⟨a, ha, ?_⟩
  simp

/-- The cursor has not passed any record of the range that is left. -/
def AheadIn (idx : α → ι) (range : ι → Bool) (after : Option (ι ×ₗ κ)) (store : ObjectStore key) :
    Prop :=
  ∀ a ∈ store.records, range (idx a) = true → after.all (fun p => p < position key idx a) = true

theorem aheadIn_none : AheadIn idx range none store := fun _ _ _ => rfl

/-- What the cursor comes to is the first record of the range. -/
theorem aheadIn_delete {after : Option (ι ×ₗ κ)} (h : store.cursorAt idx range after = some a)
    (hahead : AheadIn idx range after store) :
    AheadIn idx range (some (position key idx a)) (store.delete (key a)) := by
  intro b hb hrange
  obtain ⟨hb, hne⟩ := mem_delete.mp hb
  obtain ⟨-, pre, post, hsplit, hpre⟩ := List.find?_eq_some_iff_append.mp h
  have hsorted := sorted_indexed idx store
  rw [hsplit] at hsorted
  have hmem : b ∈ pre ++ a :: post := by
    rw [← hsplit]
    exact (mem_indexed idx).mpr hb
  rw [Option.all_some, decide_eq_true_eq]
  rcases List.mem_append.mp hmem with hbefore | hafter
  · have hpassed := hpre b hbefore
    rw [hrange, hahead b hb hrange] at hpassed
    cases hpassed
  · rcases List.mem_cons.mp hafter with rfl | hafter
    · exact absurd rfl hne
    · exact (List.pairwise_cons.mp (List.pairwise_append.mp hsorted).2.1).1 b hafter

/-- **The walk over a range** deletes all records in it, if it goes on for as long as
there are any. -/
theorem mem_deleteWalk_range {n : ℕ} {after : Option (ι ×ₗ κ)}
    (hahead : AheadIn idx range after store) (hn : store.count ≤ n) :
    a ∈ (store.deleteWalk idx range n after).1.records ↔
      a ∈ store.records ∧ range (idx a) = false := by
  induction n generalizing store after with
  | zero =>
      have hempty : store.records = [] := List.length_eq_zero_iff.mp (Nat.le_zero.mp hn)
      unfold deleteWalk
      rw [hempty]
      exact ⟨fun h => absurd h List.not_mem_nil, fun h => h.1⟩
  | succ n ih =>
      unfold deleteWalk
      cases hcursor : store.cursorAt idx range after with
      | none =>
          refine ⟨fun ha => ⟨ha, ?_⟩, fun h => h.1⟩
          have hnone := List.find?_eq_none.mp hcursor a ((mem_indexed idx).mpr ha)
          by_contra hrange
          rw [Bool.not_eq_false] at hrange
          rw [hrange, hahead a ha hrange] at hnone
          exact hnone rfl
      | some b =>
          have hfound := List.find?_some hcursor
          have hb : b ∈ store.records := (mem_indexed idx).mp (List.mem_of_find?_eq_some hcursor)
          have hlt := count_delete_lt hb
          dsimp only
          rw [ih (aheadIn_delete hcursor hahead) (by omega), mem_delete]
          constructor
          · rintro ⟨⟨ha, -⟩, hrange⟩
            exact ⟨ha, hrange⟩
          · rintro ⟨ha, hrange⟩
            refine ⟨⟨ha, fun heq => ?_⟩, hrange⟩
            rw [← eq_of_key ha hb heq, hrange] at hfound
            cases hfound

/-- The walk up to a bound. -/
theorem mem_deleteWalk_le (bound : ι) {n : ℕ} (hn : store.count ≤ n) :
    a ∈ (store.deleteWalk idx (fun i => i ≤ bound) n none).1.records ↔
      a ∈ store.records ∧ bound < idx a := by
  rw [mem_deleteWalk_range aheadIn_none hn, decide_eq_false_iff_not, not_le]

/-- No walk adds a record. -/
theorem mem_of_mem_deleteWalk {n : ℕ} {after : Option (ι ×ₗ κ)}
    (ha : a ∈ (store.deleteWalk idx range n after).1.records) : a ∈ store.records := by
  induction n generalizing store after with
  | zero => exact ha
  | succ n ih =>
      unfold deleteWalk at ha
      cases hcursor : store.cursorAt idx range after with
      | none =>
          rw [hcursor] at ha
          exact ha
      | some b =>
          rw [hcursor] at ha
          exact (mem_delete.mp (ih ha)).1

theorem count_deleteWalk_le (n : ℕ) (after : Option (ι ×ₗ κ)) :
    (store.deleteWalk idx range n after).1.count ≤ store.count := by
  induction n generalizing store after with
  | zero => exact le_rfl
  | succ n ih =>
      unfold deleteWalk
      cases store.cursorAt idx range after with
      | none => exact le_rfl
      | some a => exact (ih _).trans (count_filter_le _ _)

end Oxpulse.ObjectStore
