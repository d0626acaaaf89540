import Mathlib.Data.List.Nodup

/-!
# Maps that remember insertion order

`InsMap κ α` is a finite map whose entries keep the order in which their keys
were first set: setting a present key replaces its value in place, setting a
new one appends, erasing forgets the position. The entries carry the proof
that no key occurs twice, so a map is determined by its entry list and its
size is the number of keys.
-/

namespace Oxpulse

universe u v

structure InsMap (κ : Type u) (α : Type v) where
  entries : List (κ × α)
  nodup : (entries.map Prod.fst).Nodup

variable {κ : Type u} {α : Type v} [DecidableEq κ]

namespace InsMap

/-! ## The operations on entry lists -/

/-- Replace the value in place, or append. -/
def setEntries (k : κ) (a : α) : List (κ × α) → List (κ × α)
  | [] => [(k, a)]
  | (k', b) :: es => if k' = k then (k, a) :: es else (k', b) :: setEntries k a es

def findEntry (k : κ) : List (κ × α) → Option α
  | [] => none
  | (k', a) :: es => if k' = k then some a else findEntry k es

theorem mem_keys_setEntries {k x : κ} {a : α} : ∀ {es : List (κ × α)},
    x ∈ (setEntries k a es).map Prod.fst ↔ x = k ∨ x ∈ es.map Prod.fst
  | [] => by simp [setEntries]
  | (k', b) :: es => by
      by_cases h : k' = k
      · subst h
        simp [setEntries]
      · simp only [setEntries, if_neg h, List.map_cons, List.mem_cons,
          @mem_keys_setEntries k x a es]
        tauto

theorem setEntries_nodup {k : κ} {a : α} : ∀ {es : List (κ × α)},
    (es.map Prod.fst).Nodup → ((setEntries k a es).map Prod.fst).Nodup
  | [], _ => by simp [setEntries]
  | (k', b) :: es, h => by
      rw [List.map_cons, List.nodup_cons] at h
      by_cases he : k' = k
      · subst he
        simpa only [setEntries, if_true, List.map_cons, List.nodup_cons] using h
      · simp only [setEntries, if_neg he, List.map_cons, List.nodup_cons]
        refine ⟨fun hmem => ?_, setEntries_nodup h.2⟩
        rcases mem_keys_setEntries.mp hmem with h' | h'
        · exact he h'
        · exact h.1 h'

theorem findEntry_setEntries {k x : κ} {a : α} : ∀ {es : List (κ × α)},
    findEntry x (setEntries k a es) = if k = x then some a else findEntry x es
  | [] => by simp [setEntries, findEntry]
  | (k', b) :: es => by
      by_cases he : k' = k
      · subst he
        by_cases hk : k' = x <;> simp [setEntries, findEntry, hk]
      · simp only [setEntries, if_neg he, findEntry, @findEntry_setEntries k x a es]
        by_cases hk : k' = x
        · rw [if_pos hk, if_neg (fun h => he (hk.trans h.symm)), if_pos hk]
        · rw [if_neg hk, if_neg hk]

theorem findEntry_filter_ne {k x : κ} : ∀ {es : List (κ × α)},
    findEntry x (es.filter (fun e => decide (e.1 ≠ k))) =
      if k = x then none else findEntry x es
  | [] => by simp [findEntry]
  | (k', b) :: es => by
      have ih := @findEntry_filter_ne k x es
      by_cases he : k' = k
      · subst he
        rw [List.filter_cons_of_neg (by simp), ih]
        by_cases hk : k' = x <;> simp [findEntry, hk]
      · rw [List.filter_cons_of_pos (by simpa using he)]
        simp only [findEntry, ih]
        by_cases hk : k' = x
        · rw [if_pos hk, if_neg (fun h => he (hk.trans h.symm)), if_pos hk]
        · rw [if_neg hk, if_neg hk]

theorem filter_setEntries_ne {k : κ} {a : α} : ∀ es : List (κ × α),
    (setEntries k a es).filter (fun e => decide (e.1 ≠ k)) =
      es.filter fun e => decide (e.1 ≠ k)
  | [] => by simp [setEntries]
  | e :: es => by
      unfold setEntries
      split
      next he => simp [he]
      next he =>
        rw [List.filter_cons, List.filter_cons, filter_setEntries_ne es]

theorem findEntry_isSome {k : κ} : ∀ {es : List (κ × α)},
    (findEntry k es).isSome ↔ k ∈ es.map Prod.fst
  | [] => by simp [findEntry]
  | (k', b) :: es => by
      by_cases he : k' = k
      · simp [findEntry, he]
      · simp only [findEntry, if_neg he, @findEntry_isSome k es, List.map_cons,
          List.mem_cons]
        exact ⟨Or.inr, fun h => h.resolve_left (Ne.symm he)⟩

theorem findEntry_eq_some {k : κ} {a : α} : ∀ {es : List (κ × α)},
    (es.map Prod.fst).Nodup → (findEntry k es = some a ↔ (k, a) ∈ es)
  | [], _ => by simp [findEntry]
  | (k', b) :: es, h => by
      rw [List.map_cons, List.nodup_cons] at h
      by_cases he : k' = k
      · subst he
        simp only [findEntry, if_true, Option.some.injEq, List.mem_cons, Prod.mk.injEq,
          true_and]
        constructor
        · rintro rfl
          exact Or.inl rfl
        · rintro (h' | h')
          · exact h'.symm
          · exact absurd (List.mem_map_of_mem h') h.1
      · simp only [findEntry, if_neg he, findEntry_eq_some h.2, List.mem_cons]
        exact ⟨Or.inr, fun h' => h'.resolve_left fun e => he (congrArg Prod.fst e).symm⟩

theorem countP_setEntries {k : κ} {a : α} (p : α → Bool) : ∀ {es : List (κ × α)},
    ((setEntries k a es).map Prod.snd).countP p + (findEntry k es).toList.countP p =
      (es.map Prod.snd).countP p + [a].countP p
  | [] => by simp [setEntries, findEntry]
  | (k', b) :: es => by
      by_cases h : k' = k
      · simp only [setEntries, findEntry, if_pos h, List.map_cons, List.countP_cons,
          Option.toList_some, List.countP_nil]
        omega
      · have ih : ((setEntries k a es).map Prod.snd).countP p + (findEntry k es).toList.countP p =
            (es.map Prod.snd).countP p + [a].countP p := countP_setEntries p
        simp only [setEntries, findEntry, if_neg h, List.map_cons, List.countP_cons] at ih ⊢
        omega

theorem countP_filter_ne {k : κ} (p : α → Bool) : ∀ {es : List (κ × α)},
    (es.map Prod.fst).Nodup →
      ((es.filter fun e => decide (e.1 ≠ k)).map Prod.snd).countP p +
        (findEntry k es).toList.countP p = (es.map Prod.snd).countP p
  | [], _ => by simp [findEntry]
  | (k', b) :: es, h => by
      rw [List.map_cons, List.nodup_cons] at h
      have ih := countP_filter_ne (k := k) p h.2
      by_cases he : k' = k
      · subst he
        have hnone : findEntry k' es = none := by
          cases hfind : findEntry k' es with
          | none => rfl
          | some a =>
              have hsome : (findEntry k' es).isSome := by
                rw [hfind]
                rfl
              exact absurd (findEntry_isSome.mp hsome) h.1
        rw [hnone] at ih
        simp only [findEntry, List.filter_cons, List.map_cons, List.countP_cons, ne_eq,
          not_true_eq_false, decide_false, Bool.false_eq_true, if_false, if_true,
          Option.toList_some, Option.toList_none, List.countP_nil] at ih ⊢
        omega
      · simp only [findEntry, List.filter_cons, List.map_cons, List.countP_cons, ne_eq, he,
          not_false_eq_true, decide_true, if_true, if_false] at ih ⊢
        omega

/-! ## The map -/

def empty : InsMap κ α := ⟨[], List.nodup_nil⟩

def get? (m : InsMap κ α) (k : κ) : Option α := findEntry k m.entries

def has (m : InsMap κ α) (k : κ) : Bool := (m.get? k).isSome

def set (m : InsMap κ α) (k : κ) (a : α) : InsMap κ α :=
  ⟨setEntries k a m.entries, setEntries_nodup m.nodup⟩

def delete (m : InsMap κ α) (k : κ) : InsMap κ α :=
  ⟨m.entries.filter (fun e => decide (e.1 ≠ k)),
    (m.nodup.sublist (List.filter_sublist.map Prod.fst))⟩

/-- Keep the entries that satisfy the test. -/
def filter (p : κ → α → Bool) (m : InsMap κ α) : InsMap κ α :=
  ⟨m.entries.filter (fun e => p e.1 e.2),
    m.nodup.sublist (List.filter_sublist.map Prod.fst)⟩

def keys (m : InsMap κ α) : List κ := m.entries.map Prod.fst

def values (m : InsMap κ α) : List α := m.entries.map Prod.snd

def size (m : InsMap κ α) : ℕ := m.entries.length

@[simp] theorem get?_empty (k : κ) : (empty : InsMap κ α).get? k = none := rfl

theorem get?_set (m : InsMap κ α) (k k' : κ) (a : α) :
    (m.set k a).get? k' = if k = k' then some a else m.get? k' :=
  findEntry_setEntries

@[simp] theorem get?_set_self (m : InsMap κ α) (k : κ) (a : α) :
    (m.set k a).get? k = some a := by
  rw [get?_set, if_pos rfl]

theorem get?_set_ne (m : InsMap κ α) {k k' : κ} (h : k ≠ k') (a : α) :
    (m.set k a).get? k' = m.get? k' := by
  rw [get?_set, if_neg h]

theorem get?_delete (m : InsMap κ α) (k k' : κ) :
    (m.delete k).get? k' = if k = k' then none else m.get? k' :=
  findEntry_filter_ne

@[simp] theorem get?_delete_self (m : InsMap κ α) (k : κ) :
    (m.delete k).get? k = none := by
  rw [get?_delete, if_pos rfl]

theorem get?_delete_ne (m : InsMap κ α) {k k' : κ} (h : k ≠ k') :
    (m.delete k).get? k' = m.get? k' := by
  rw [get?_delete, if_neg h]

theorem keys_delete (m : InsMap κ α) (k : κ) :
    (m.delete k).keys = m.keys.filter fun k' => k' ≠ k := by
  unfold keys delete
  rw [List.filter_map]
  rfl

/-- What was set is deleted with the rest. -/
theorem delete_set_self (m : InsMap κ α) (k : κ) (a : α) :
    (m.set k a).delete k = m.delete k := by
  unfold set delete
  simp only [filter_setEntries_ne]

theorem get?_filter_eq_some {p : κ → α → Bool} {m : InsMap κ α} {k : κ} {a : α} :
    (m.filter p).get? k = some a ↔ m.get? k = some a ∧ p k a = true := by
  unfold get?
  rw [findEntry_eq_some (m.filter p).nodup, findEntry_eq_some m.nodup]
  exact List.mem_filter

theorem get?_isSome {m : InsMap κ α} {k : κ} : (m.get? k).isSome ↔ k ∈ m.keys :=
  findEntry_isSome

theorem get?_eq_some {m : InsMap κ α} {k : κ} {a : α} :
    m.get? k = some a ↔ (k, a) ∈ m.entries :=
  findEntry_eq_some m.nodup

/-- A new key is appended. -/
theorem entries_set_new {m : InsMap κ α} {k : κ} {a : α} (h : m.get? k = none) :
    (m.set k a).entries = m.entries ++ [(k, a)] := by
  have hentries : ∀ {es : List (κ × α)}, findEntry k es = none →
      setEntries k a es = es ++ [(k, a)] := by
    intro es hes
    induction es with
    | nil => rfl
    | cons e es ih =>
        unfold findEntry at hes
        split at hes
        · cases hes
        next hne => rw [setEntries, if_neg hne, ih hes, List.cons_append]
  exact hentries h

theorem keys_set_new {m : InsMap κ α} {k : κ} {a : α} (h : m.get? k = none) :
    (m.set k a).keys = m.keys ++ [k] := by
  unfold keys
  rw [entries_set_new h, List.map_append]
  rfl

theorem get?_eq_none {m : InsMap κ α} {k : κ} : m.get? k = none ↔ k ∉ m.keys := by
  rw [← get?_isSome, Bool.not_eq_true, Option.isSome_eq_false_iff, Option.isNone_iff_eq_none]

/-- Setting entries with new keys one after the other appends them. -/
theorem entries_foldl_set (es : List (κ × α)) : ∀ {m : InsMap κ α},
    ((m.entries ++ es).map Prod.fst).Nodup →
      (es.foldl (fun m e => m.set e.1 e.2) m).entries = m.entries ++ es := by
  induction es with
  | nil => exact fun _ => (List.append_nil _).symm
  | cons e es ih =>
      intro m h
      have hnew : m.get? e.1 = none := by
        rw [get?_eq_none]
        rw [List.map_append, List.map_cons] at h
        exact fun hmem => (List.nodup_append.mp h).2.2 _ hmem _ List.mem_cons_self rfl
      have hset : (m.set e.1 e.2).entries = m.entries ++ [e] := entries_set_new hnew
      have happend : m.entries ++ e :: es = (m.set e.1 e.2).entries ++ es := by
        rw [hset, List.append_assoc]
        rfl
      rw [happend] at h ⊢
      exact ih h

/-! ### Counting -/

/-- How many values satisfy the test. -/
def countP (p : α → Bool) (m : InsMap κ α) : ℕ := m.values.countP p

omit [DecidableEq κ] in
@[simp] theorem countP_empty (p : α → Bool) : (empty : InsMap κ α).countP p = 0 := rfl

theorem countP_set (p : α → Bool) (m : InsMap κ α) (k : κ) (a : α) :
    (m.set k a).countP p + (m.get? k).toList.countP p = m.countP p + [a].countP p :=
  countP_setEntries p

theorem countP_delete (p : α → Bool) (m : InsMap κ α) (k : κ) :
    (m.delete k).countP p + (m.get? k).toList.countP p = m.countP p :=
  countP_filter_ne p m.nodup

omit [DecidableEq κ] in
theorem size_eq_countP (m : InsMap κ α) : m.size = m.countP fun _ => true := by
  unfold countP values size
  rw [List.countP_true, List.length_map]

/-- Two maps with the same keys have the same size. -/
theorem size_eq_of_keys {m : InsMap κ α} {l : List κ} (hl : l.Nodup)
    (h : ∀ k, (m.get? k).isSome ↔ k ∈ l) : m.size = l.length := by
  have hperm : m.keys.Perm l :=
    (List.perm_ext_iff_of_nodup m.nodup hl).mpr fun k => get?_isSome.symm.trans (h k)
  simpa [keys, size] using hperm.length_eq

end InsMap

end Oxpulse
