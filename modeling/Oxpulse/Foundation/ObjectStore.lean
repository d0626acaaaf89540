import Mathlib.Data.List.Nodup
import Mathlib.Order.Lattice
import Mathlib.Tactic.Tauto

/-!
# Object stores in key order

`ObjectStore key` holds records under the key that `key` reads off them, as an
IndexedDB object store with an in-line key path does. A cursor visits the
records in key order; the records carry the proof that they are sorted, so no
key occurs twice and a record is found by its key.
-/

namespace Oxpulse

universe u v

structure ObjectStore {κ : Type u} [LinearOrder κ] {α : Type v} (key : α → κ) where
  records : List α
  sorted : records.Pairwise fun a b => key a < key b

namespace ObjectStore

variable {κ : Type u} [LinearOrder κ] {α : Type v} {key : α → κ}

def empty : ObjectStore key := ⟨[], List.Pairwise.nil⟩

def keys (store : ObjectStore key) : List κ := store.records.map key

def count (store : ObjectStore key) : ℕ := store.records.length

def get? (store : ObjectStore key) (k : κ) : Option α :=
  store.records.find? fun a => key a = k

/-- Insert the record at its place, or replace the one with its key. -/
def put (store : ObjectStore key) (a : α) : ObjectStore key where
  records := (store.records.filter fun b => key b < key a) ++
    a :: store.records.filter fun b => key a < key b
  sorted := by
    refine List.pairwise_append.mpr ⟨store.sorted.filter _, ?_, fun b hb c hc => ?_⟩
    · refine List.pairwise_cons.mpr ⟨fun c hc => ?_, store.sorted.filter _⟩
      exact of_decide_eq_true (List.mem_filter.mp hc).2
    · have hba : key b < key a := of_decide_eq_true (List.mem_filter.mp hb).2
      rcases List.mem_cons.mp hc with rfl | hc
      · exact hba
      · exact lt_trans hba (of_decide_eq_true (List.mem_filter.mp hc).2)

/-- Keep the records that satisfy the test. -/
def filter (test : α → Bool) (store : ObjectStore key) : ObjectStore key :=
  ⟨store.records.filter test, store.sorted.filter _⟩

/-- `cursor.update`: replace the record under the key, when there is one. -/
def update (store : ObjectStore key) (k : κ) (f : α → α) : ObjectStore key :=
  match store.get? k with
  | some a => store.put (f a)
  | none => store

/-! ## What is in the store -/

variable {store : ObjectStore key} {a b : α} {k : κ}

theorem eq_of_key (ha : a ∈ store.records) (hb : b ∈ store.records) (h : key a = key b) :
    a = b := by
  have hsorted := store.sorted
  generalize store.records = l at ha hb hsorted
  induction l with
  | nil => cases ha
  | cons c l ih =>
      obtain ⟨hc, hl⟩ := List.pairwise_cons.mp hsorted
      rcases List.mem_cons.mp ha with rfl | ha' <;> rcases List.mem_cons.mp hb with rfl | hb'
      · rfl
      · exact absurd h (ne_of_lt (hc b hb'))
      · exact absurd h.symm (ne_of_lt (hc a ha'))
      · exact ih ha' hb' hl

theorem get?_eq_some : store.get? k = some a ↔ a ∈ store.records ∧ key a = k := by
  constructor
  · intro h
    have hkey := List.find?_some h
    exact ⟨List.mem_of_find?_eq_some h, of_decide_eq_true hkey⟩
  · rintro ⟨ha, rfl⟩
    cases hfind : store.get? (key a) with
    | none =>
        have := List.find?_eq_none.mp hfind a ha
        simp at this
    | some b =>
        have hb := List.find?_some hfind
        rw [eq_of_key (List.mem_of_find?_eq_some hfind) ha (of_decide_eq_true hb)]

theorem get?_of_mem (ha : a ∈ store.records) : store.get? (key a) = some a :=
  get?_eq_some.mpr ⟨ha, rfl⟩

theorem get?_eq_none : store.get? k = none ↔ k ∉ store.keys := by
  simp [get?, keys, List.find?_eq_none]

theorem mem_keys : k ∈ store.keys ↔ ∃ a, store.get? k = some a := by
  rw [← Option.ne_none_iff_exists', Ne, get?_eq_none, not_not]

theorem keys_nodup (store : ObjectStore key) : store.keys.Nodup := by
  unfold keys List.Nodup
  rw [List.pairwise_map]
  exact store.sorted.imp fun h => ne_of_lt h

theorem length_keys (store : ObjectStore key) : store.keys.length = store.count :=
  List.length_map _

theorem mem_put : b ∈ (store.put a).records ↔ b = a ∨ b ∈ store.records ∧ key b ≠ key a := by
  simp only [put, List.mem_append, List.mem_filter, List.mem_cons, decide_eq_true_eq, ne_iff_lt_or_gt]
  tauto

theorem get?_put : (store.put a).get? k = if key a = k then some a else store.get? k := by
  split
  next h =>
    subst h
    exact get?_of_mem (mem_put.mpr (Or.inl rfl))
  next h =>
    apply Option.ext
    intro b
    rw [get?_eq_some, get?_eq_some, mem_put]
    constructor
    · rintro ⟨rfl | ⟨hb, -⟩, hk⟩
      · exact absurd hk h
      · exact ⟨hb, hk⟩
    · rintro ⟨hb, rfl⟩
      exact ⟨Or.inr ⟨hb, Ne.symm h⟩, rfl⟩

theorem mem_keys_put {j : κ} : j ∈ (store.put a).keys ↔ j = key a ∨ j ∈ store.keys := by
  rw [mem_keys, mem_keys]
  constructor
  · rintro ⟨b, hb⟩
    rw [get?_put] at hb
    split at hb
    next h => exact Or.inl h.symm
    next => exact Or.inr ⟨b, hb⟩
  · rintro (rfl | ⟨b, hb⟩)
    · exact ⟨a, by rw [get?_put, if_pos rfl]⟩
    · by_cases h : key a = j
      · exact ⟨a, by rw [get?_put, if_pos h]⟩
      · exact ⟨b, by rw [get?_put, if_neg h, hb]⟩

theorem get?_update {f : α → α} (hf : ∀ a, key (f a) = key a) {j : κ} :
    (store.update j f).get? k = if j = k then (store.get? k).map f else store.get? k := by
  unfold update
  split
  next a ha =>
    have hkey : key (f a) = j := (hf a).trans (get?_eq_some.mp ha).2
    rw [get?_put, hkey]
    split
    next h =>
      rw [← h, ha]
      rfl
    next => rfl
  next hnone =>
    split
    next h =>
      rw [← h, hnone]
      rfl
    next => rfl

/-- Updating a record that is there puts the new one in its place. -/
theorem update_of_mem {f : α → α} (ha : a ∈ store.records) :
    store.update (key a) f = store.put (f a) := by
  unfold update
  rw [get?_of_mem ha]

end ObjectStore

end Oxpulse
