import Mathlib.Data.Finset.Card
import Oxpulse.Foundation.InsMap

/-!
# A map with room for so many entries

Before an entry is stored in a full map the oldest one is dropped; an entry that is
used moves to the end. Room is made for a key that is there too, which then keeps
its place. So in a map with room for `n` entries a key that was used is there at
least until `n - 1` others were (`Recent`).
-/

namespace Oxpulse.InsMap

universe u v

variable {κ : Type u} {α : Type v} [DecidableEq κ]

/-- Without its oldest entry if it is full. -/
def evictOldest (room : ℕ) (m : InsMap κ α) : InsMap κ α :=
  if m.size ≥ room then
    match m.keys.head? with
    | some oldest => m.delete oldest
    | none => m
  else m

/-- The entry moves to the end. -/
def renew (k : κ) (a : α) (m : InsMap κ α) : InsMap κ α := (m.delete k).set k a

def store (room : ℕ) (k : κ) (a : α) (m : InsMap κ α) : InsMap κ α :=
  (m.evictOldest room).set k a

variable {m : InsMap κ α} {k k' : κ} {a b : α} {room : ℕ}

/-! ## The keys -/

omit [DecidableEq κ] in
theorem length_keys (m : InsMap κ α) : m.keys.length = m.size := List.length_map ..

omit [DecidableEq κ] in
theorem nodup_keys (m : InsMap κ α) : m.keys.Nodup := m.nodup

/-- A key that is there keeps its place. -/
theorem keys_set_old (h : k ∈ m.keys) : (m.set k a).keys = m.keys := by
  have hentries : ∀ {es : List (κ × α)}, k ∈ es.map Prod.fst →
      (setEntries k a es).map Prod.fst = es.map Prod.fst := by
    intro es hes
    induction es with
    | nil => cases hes
    | cons e es ih =>
        obtain ⟨k', b⟩ := e
        by_cases he : k' = k
        · subst he
          simp [setEntries]
        · rw [setEntries, if_neg he, List.map_cons, List.map_cons,
            ih ((List.mem_cons.mp hes).resolve_left (Ne.symm he))]
  exact hentries h

theorem keys_renew (k : κ) (a : α) (m : InsMap κ α) :
    (m.renew k a).keys = (m.keys.filter fun k' => k' ≠ k) ++ [k] := by
  unfold renew
  rw [keys_set_new (get?_delete_self ..), keys_delete]

theorem keys_evictOldest_full (h : room ≤ m.size) :
    (m.evictOldest room).keys = m.keys.tail := by
  unfold evictOldest
  rw [if_pos h]
  cases hkeys : m.keys with
  | nil => exact hkeys
  | cons oldest rest =>
      have hnodup : (oldest :: rest).Nodup := hkeys ▸ m.nodup_keys
      rw [List.head?_cons]
      dsimp only
      rw [keys_delete, hkeys, List.filter_cons_of_neg (by simp), List.tail_cons]
      exact List.filter_eq_self.mpr fun k' hk' => decide_eq_true fun heq =>
        (List.nodup_cons.mp hnodup).1 (heq ▸ hk')

theorem evictOldest_room (h : m.size < room) : m.evictOldest room = m := by
  unfold evictOldest
  rw [if_neg (Nat.not_le.mpr h)]

theorem size_evictOldest (hroom : 1 ≤ room) (h : m.size ≤ room) :
    (m.evictOldest room).size + 1 ≤ room := by
  rcases Nat.lt_or_ge m.size room with hlt | hge
  · rw [evictOldest_room hlt]
    exact hlt
  · rw [← length_keys, keys_evictOldest_full hge, List.length_tail, length_keys]
    omega

/-! ## The size -/

theorem size_set_le (m : InsMap κ α) (k : κ) (a : α) : (m.set k a).size ≤ m.size + 1 := by
  rw [← length_keys, ← length_keys]
  by_cases h : k ∈ m.keys
  · rw [keys_set_old h]
    exact Nat.le_succ _
  · rw [keys_set_new (get?_eq_none.mpr h), List.length_append]
    exact Nat.le_refl _

theorem size_store (hroom : 1 ≤ room) (h : m.size ≤ room) : (m.store room k a).size ≤ room :=
  Nat.le_trans (size_set_le ..) (size_evictOldest hroom h)

omit [DecidableEq κ] in
theorem size_filter_le (p : κ → α → Bool) (m : InsMap κ α) : (m.filter p).size ≤ m.size :=
  List.length_filter_le ..

theorem size_renew (h : k ∈ m.keys) : (m.renew k a).size = m.size := by
  have hperm : (m.renew k a).keys.Perm m.keys := by
    rw [keys_renew]
    refine (List.perm_ext_iff_of_nodup ?_ m.nodup_keys).mpr fun k' => ?_
    · rw [← keys_renew k a]
      exact nodup_keys _
    · by_cases hk : k' = k
      · subst hk
        simpa using h
      · simp [hk]
  rw [← length_keys, ← length_keys, hperm.length_eq]

/-! ## What is found -/

theorem get?_renew (k k' : κ) (a : α) (m : InsMap κ α) :
    (m.renew k a).get? k' = if k = k' then some a else m.get? k' := by
  unfold renew
  rw [get?_set]
  split
  · rfl
  next hne => rw [get?_delete, if_neg hne]

/-- Nothing is found after room was made that was not there before. -/
theorem get?_of_evictOldest (h : (m.evictOldest room).get? k = some a) : m.get? k = some a := by
  unfold evictOldest at h
  split at h
  · split at h
    · rw [get?_delete] at h
      split at h
      · cases h
      · exact h
    · exact h
  · exact h

/-! ## Keys that were used -/

/-- The key is there, and only some of `used` came after it. -/
def Recent (k : κ) (used : Finset κ) (m : InsMap κ α) : Prop :=
  ∃ older newer, m.keys = older ++ k :: newer ∧ ∀ k' ∈ newer, k' ∈ used

variable {used used' : Finset κ}

omit [DecidableEq κ] in
theorem Recent.mem (h : m.Recent k used) : k ∈ m.keys := by
  obtain ⟨older, newer, hkeys, -⟩ := h
  rw [hkeys]
  exact List.mem_append_right _ List.mem_cons_self

omit [DecidableEq κ] in
theorem Recent.mono (h : m.Recent k used) (hsub : used ⊆ used') : m.Recent k used' := by
  obtain ⟨older, newer, hkeys, hnewer⟩ := h
  exact ⟨older, newer, hkeys, fun k' hk' => hsub (hnewer k' hk')⟩

omit [DecidableEq κ] in
/-- A key at the end. -/
theorem recent_of_last {older : List κ} (h : m.keys = older ++ [k]) : m.Recent k ∅ :=
  ⟨older, [], h, fun _ h => absurd h List.not_mem_nil⟩

theorem recent_renew (k : κ) (a : α) (m : InsMap κ α) : (m.renew k a).Recent k ∅ :=
  recent_of_last (keys_renew k a m)

theorem recent_store_new (h : m.get? k = none) : (m.store room k a).Recent k ∅ := by
  have hnone : (m.evictOldest room).get? k = none := by
    by_contra hsome
    obtain ⟨b, hb⟩ := Option.ne_none_iff_exists'.mp hsome
    rw [get?_of_evictOldest hb] at h
    cases h
  exact recent_of_last (keys_set_new hnone)

/-- Another key is used. -/
theorem Recent.renew (h : m.Recent k used) (hne : k' ≠ k) (hused : k' ∈ used) :
    (m.renew k' a).Recent k used := by
  obtain ⟨older, newer, hkeys, hnewer⟩ := h
  refine ⟨older.filter fun x => x ≠ k', (newer.filter fun x => x ≠ k') ++ [k'], ?_, ?_⟩
  · rw [keys_renew, hkeys, List.filter_append, List.filter_cons_of_pos (by simpa using hne.symm)]
    simp
  · intro x hx
    rcases List.mem_append.mp hx with hx | hx
    · exact hnewer x (List.mem_of_mem_filter hx)
    · rwa [List.mem_singleton.mp hx]

omit [DecidableEq κ] in
/-- The entries that a test drops are others. -/
theorem Recent.filter (h : m.Recent k used) {p : κ → α → Bool} (hp : ∀ a, p k a = true) :
    (m.filter p).Recent k used := by
  obtain ⟨older, newer, hkeys, hnewer⟩ := h
  have hsplit : ∀ es : List (κ × α), es.map Prod.fst = older ++ k :: newer →
      ∃ older' newer', (es.filter fun e => p e.1 e.2).map Prod.fst = older' ++ k :: newer' ∧
        ∀ x ∈ newer', x ∈ newer := by
    intro es hes
    obtain ⟨es₁, es₂, rfl, hfirst, hsecond⟩ := List.map_eq_append_iff.mp hes
    obtain ⟨e, es₂, rfl, rfl, hlast⟩ := List.map_eq_cons_iff.mp hsecond
    refine ⟨(es₁.filter fun e => p e.1 e.2).map Prod.fst,
      (es₂.filter fun e => p e.1 e.2).map Prod.fst, ?_, ?_⟩
    · rw [List.filter_append, List.filter_cons_of_pos (p := fun e : κ × α => p e.1 e.2) (hp e.2),
        List.map_append, List.map_cons]
    · intro x hx
      obtain ⟨e', he', rfl⟩ := List.mem_map.mp hx
      rw [← hlast]
      exact List.mem_map_of_mem (List.mem_of_mem_filter he')
  obtain ⟨older', newer', heq, hsub⟩ := hsplit m.entries hkeys
  exact ⟨older', newer', heq, fun x hx => hnewer x (hsub x hx)⟩

/-- Room is made while fewer than `room - 1` others were used. -/
theorem Recent.evictOldest (h : m.Recent k used) (hused : used.card + 1 < room) :
    (m.evictOldest room).Recent k used := by
  rcases Nat.lt_or_ge m.size room with hlt | hge
  · rwa [evictOldest_room hlt]
  obtain ⟨older, newer, hkeys, hnewer⟩ := h
  cases older with
  | cons oldest older =>
      refine ⟨older, newer, ?_, hnewer⟩
      rw [keys_evictOldest_full hge, hkeys, List.cons_append, List.tail_cons]
  | nil =>
      -- the key is the oldest one: all others were used after it
      have hnodup : newer.Nodup := by
        have hall := m.nodup_keys
        rw [hkeys, List.nil_append] at hall
        exact (List.nodup_cons.mp hall).2
      have hcard : newer.length ≤ used.card := by
        rw [← List.toFinset_card_of_nodup hnodup]
        exact Finset.card_le_card fun x hx => hnewer x (List.mem_toFinset.mp hx)
      have hsize := congrArg List.length hkeys
      rw [length_keys, List.nil_append, List.length_cons] at hsize
      omega

theorem Recent.set (h : m.Recent k used) (hused : k' = k ∨ k' ∈ used) :
    (m.set k' a).Recent k used := by
  by_cases hmem : k' ∈ m.keys
  · obtain ⟨older, newer, hkeys, hnewer⟩ := h
    exact ⟨older, newer, (keys_set_old hmem).trans hkeys, hnewer⟩
  · have hk' : k' ∈ used := hused.resolve_left fun heq => hmem (heq ▸ h.mem)
    obtain ⟨older, newer, hkeys, hnewer⟩ := h
    refine ⟨older, newer ++ [k'], ?_, ?_⟩
    · rw [keys_set_new (get?_eq_none.mpr hmem), hkeys, List.append_assoc, List.cons_append]
    · intro x hx
      rcases List.mem_append.mp hx with hx | hx
      · exact hnewer x hx
      · rwa [List.mem_singleton.mp hx]

/-- **An entry that was used stays** while fewer than `room - 1` others are. -/
theorem Recent.store (h : m.Recent k used) (hcard : used.card + 1 < room)
    (hused : k' = k ∨ k' ∈ used) : (m.store room k' a).Recent k used :=
  (h.evictOldest hcard).set hused

end Oxpulse.InsMap
