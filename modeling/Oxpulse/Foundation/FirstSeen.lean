import Mathlib.Data.List.Nodup

/-!
# The first element with each key

A list is filtered by a key: an element stays if no element with its key was
there before it, in the list or among those of the past. Two keys filter a list
alike if and only if they tell the same elements apart, provided that one of them
refines the other.
-/

namespace Oxpulse

variable {α κ κ' : Type*} [DecidableEq κ] [DecidableEq κ']

def firstsFrom (key : α → κ) : List α → List α → List α
  | _, [] => []
  | past, a :: as =>
      if key a ∈ past.map key then firstsFrom key past as
      else a :: firstsFrom key (past ++ [a]) as

theorem firstsFrom_cons (key : α → κ) (past : List α) (a : α) (as : List α) :
    firstsFrom key past (a :: as) =
      if key a ∈ past.map key then firstsFrom key past as
      else a :: firstsFrom key (past ++ [a]) as :=
  rfl

def firsts (key : α → κ) (as : List α) : List α := firstsFrom key [] as

section Firsts

variable {key : α → κ} {key' : α → κ'}

/-- Every key that occurs is there. -/
theorem exists_firstsFrom (key : α → κ) {as : List α} (past : List α) {a : α}
    (h : a ∈ past ++ as) : ∃ b ∈ past ++ firstsFrom key past as, key b = key a := by
  induction as generalizing past with
  | nil => exact ⟨a, h, rfl⟩
  | cons a' as ih =>
      unfold firstsFrom
      split
      next hseen =>
        rcases List.mem_append.mp h with hpast | hmem
        · exact ⟨a, List.mem_append_left _ hpast, rfl⟩
        rcases List.mem_cons.mp hmem with rfl | hmem
        · obtain ⟨b, hb, heq⟩ := List.mem_map.mp hseen
          exact ⟨b, List.mem_append_left _ hb, heq⟩
        · exact ih past (List.mem_append_right _ hmem)
      next =>
        obtain ⟨b, hb, heq⟩ := ih (past ++ [a']) (by simpa using h)
        exact ⟨b, by simpa using hb, heq⟩

/-- None occurs twice. -/
theorem nodup_firstsFrom (as : List α) {past : List α} (h : (past.map key).Nodup) :
    ((past ++ firstsFrom key past as).map key).Nodup := by
  induction as generalizing past with
  | nil => rwa [firstsFrom, List.append_nil]
  | cons a as ih =>
      unfold firstsFrom
      split
      next => exact ih h
      next hnew =>
        have hpast : ((past ++ [a]).map key).Nodup := by
          rw [List.map_append, List.map_singleton, List.nodup_append]
          refine ⟨h, List.nodup_singleton _, fun k hk k' hk' => ?_⟩
          rw [List.mem_singleton.mp hk']
          rintro rfl
          exact hnew hk
        have hrest := ih hpast
        rwa [List.append_assoc] at hrest

theorem nodup_firsts (key : α → κ) (as : List α) : ((firsts key as).map key).Nodup := by
  have hnil : (([] : List α).map key).Nodup := List.nodup_nil
  exact nodup_firstsFrom as hnil

theorem firstsFrom_subset {as past : List α} : ∀ a ∈ firstsFrom key past as, a ∈ as := by
  induction as generalizing past with
  | nil => exact fun a h => h
  | cons a' as ih =>
      intro a h
      unfold firstsFrom at h
      split at h
      next => exact List.mem_cons_of_mem _ (ih a h)
      next =>
        rcases List.mem_cons.mp h with rfl | h
        · exact List.mem_cons_self
        · exact List.mem_cons_of_mem _ (ih a h)

theorem mem_firsts_id {as : List κ} {a : κ} : a ∈ firsts id as ↔ a ∈ as := by
  refine ⟨firstsFrom_subset a, fun h => ?_⟩
  obtain ⟨b, hb, rfl⟩ := exists_firstsFrom id [] h
  exact hb

theorem firstsFrom_congr {as past : List α}
    (h : ∀ a ∈ past ++ as, ∀ b ∈ past ++ as, key a = key b ↔ key' a = key' b) :
    firstsFrom key past as = firstsFrom key' past as := by
  induction as generalizing past with
  | nil => rfl
  | cons a as ih =>
      have hseen : key a ∈ past.map key ↔ key' a ∈ past.map key' := by
        rw [List.mem_map, List.mem_map]
        refine exists_congr fun b => and_congr_right fun hb => ?_
        exact h b (List.mem_append_left _ hb) a (List.mem_append_right _ List.mem_cons_self)
      unfold firstsFrom
      simp only [hseen]
      split
      next =>
        have hsub : ∀ b ∈ past ++ as, b ∈ past ++ a :: as := by
          intro b hb
          rcases List.mem_append.mp hb with hb | hb
          · exact List.mem_append_left _ hb
          · exact List.mem_append_right _ (List.mem_cons_of_mem _ hb)
        exact ih fun b hb c hc => h b (hsub b hb) c (hsub c hc)
      next =>
        rw [ih]
        simpa using h

/-- **Two keys, one of which refines the other.** -/
theorem firsts_eq_iff {as : List α}
    (hrefines : ∀ a ∈ as, ∀ b ∈ as, key a = key b → key' a = key' b) :
    firsts key as = firsts key' as ↔ ∀ a ∈ as, ∀ b ∈ as, key' a = key' b → key a = key b := by
  constructor
  · intro heq a ha b hb hkey'
    obtain ⟨c, hc, hca⟩ := exists_firstsFrom key [] ha
    obtain ⟨d, hd, hdb⟩ := exists_firstsFrom key [] hb
    rw [List.nil_append] at hc hd
    have hcd : key' c = key' d := by
      rw [hrefines c (firstsFrom_subset c hc) a ha hca,
        hrefines d (firstsFrom_subset d hd) b hb hdb, hkey']
    have hnodup : ((firsts key as).map key').Nodup := by
      rw [heq]
      exact nodup_firsts key' as
    rw [← hca, ← hdb, List.inj_on_of_nodup_map hnodup hc hd hcd]
  · intro h
    exact firstsFrom_congr fun a ha b hb => ⟨hrefines a ha b hb, h a ha b hb⟩

end Firsts

end Oxpulse
