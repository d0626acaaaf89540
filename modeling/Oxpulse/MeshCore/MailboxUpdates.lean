import Oxpulse.MeshCore.Mailbox
import Oxpulse.MeshCore.OutboxDrainer

/-!
# Updates in a bounded store

`Inbox.put`, `Spool.put` and `Outbox.enqueue` make room before they put their entry,
without a look at whether it is there already. So an update takes other entries away
when the store is full, unless the one that has to go is the updated one itself
(`updates_keep_iff`). The outbox walks over its index as the other two do
(`enqueue_eq_putBounded`).
-/

namespace Oxpulse.MeshCore

open Oxpulse.Crypto ObjectStore

namespace Mailbox

variable {Time : Type} [LinearOrder Time] {MsgId : Type} [LinearOrder MsgId] {α : Type}
  {key : α → MsgId}

/-- The message ids stay, and so do the other entries. -/
structure UpdateKeeps (entry : α) (store store' : ObjectStore key) : Prop where
  keys : ∀ k, k ∈ store'.keys ↔ k ∈ store.keys
  others : ∀ k, k ≠ key entry → store'.get? k = store.get? k

/-- The store is below its cap, or the updated entry is the oldest and nothing else
has to go: the store is just full, or holds nothing else. -/
def UpdateFits (time : α → Time) (maxEntries : ℕ) (entry : α) (store : ObjectStore key) : Prop :=
  store.count < maxEntries ∨ ∃ old, (store.indexed time).head? = some old ∧ key old = key entry ∧
    (store.count = maxEntries ∨ store.count = 1)

variable {time : α → Time} {maxEntries n : ℕ} {store : ObjectStore key} {entry a : α} {k : MsgId}

/-! ## Which entries go -/

theorem nodup_indexed (time : α → Time) (store : ObjectStore key) :
    ((store.indexed time).map key).Nodup :=
  ((perm_indexed time store).map key).nodup_iff.mpr (keys_nodup store)

/-- An entry is one of the first in the index, or it stays, and not both. -/
theorem mem_take_or_drop (time : α → Time) (n : ℕ) (ha : a ∈ store.records) :
    a ∈ (store.indexed time).take n ∧ a ∉ (store.indexed time).drop n ∨
      a ∉ (store.indexed time).take n ∧ a ∈ (store.indexed time).drop n := by
  have hmem : a ∈ (store.indexed time).take n ++ (store.indexed time).drop n := by
    rw [List.take_append_drop]
    exact (mem_indexed time).mpr ha
  have hnodup : ((store.indexed time).take n ++ (store.indexed time).drop n).Nodup := by
    rw [List.take_append_drop]
    exact (nodup_indexed time store).of_map
  have hdisjoint : ∀ b ∈ (store.indexed time).take n, b ∉ (store.indexed time).drop n :=
    fun b hb hb' => (List.nodup_append.mp hnodup).2.2 b hb b hb' rfl
  rcases List.mem_append.mp hmem with htake | hdrop
  · exact Or.inl ⟨htake, hdisjoint a htake⟩
  · exact Or.inr ⟨fun htake => hdisjoint a htake hdrop, hdrop⟩

/-- After a walk over the first entries, the put keeps the others if and only if the
walk came to none of them. -/
theorem update_after_walk (hold : key entry ∈ store.keys) :
    UpdateKeeps entry store ((store.deleteWalk time (fun _ => true) n none).1.put entry) ↔
      ∀ a ∈ (store.indexed time).take n, key a = key entry := by
  have hleft : ∀ b, b ∈ (store.deleteWalk time (fun _ => true) n none).1.records →
      b ∈ store.records := fun b hb =>
    (mem_indexed time).mp (List.mem_of_mem_drop ((mem_deleteWalk n).mp hb))
  constructor
  · intro h a ha
    by_contra hne
    have hmem : a ∈ store.records := (mem_indexed time).mp (List.mem_of_mem_take ha)
    have hget := h.others (key a) hne
    rw [get?_put, if_neg (Ne.symm hne), get?_of_mem hmem, get?_eq_some, mem_deleteWalk] at hget
    rcases mem_take_or_drop time n hmem with ⟨-, hdrop⟩ | ⟨htake, -⟩
    · exact hdrop hget.1
    · exact htake ha
  · intro h
    have hkeeps : ∀ b ∈ store.records, key b ≠ key entry →
        b ∈ (store.deleteWalk time (fun _ => true) n none).1.records := by
      intro b hb hne
      rcases mem_take_or_drop time n hb with ⟨htake, -⟩ | ⟨-, hdrop⟩
      · exact absurd (h b htake) hne
      · exact (mem_deleteWalk n).mpr hdrop
    constructor
    · intro k
      rw [mem_keys_put]
      constructor
      · rintro (rfl | hk)
        · exact hold
        · obtain ⟨b, hb, rfl⟩ := List.mem_map.mp hk
          exact List.mem_map_of_mem (hleft b hb)
      · intro hk
        obtain ⟨b, hb, rfl⟩ := List.mem_map.mp hk
        by_cases hne : key b = key entry
        · exact Or.inl hne
        · exact Or.inr (List.mem_map_of_mem (hkeeps b hb hne))
    · intro k hne
      rw [get?_put, if_neg (Ne.symm hne)]
      apply Option.ext
      intro b
      rw [get?_eq_some, get?_eq_some]
      constructor
      · rintro ⟨hb, rfl⟩
        exact ⟨hleft b hb, rfl⟩
      · rintro ⟨hb, rfl⟩
        exact ⟨hkeeps b hb hne, rfl⟩

/-- The first entries are one, and that is the updated one. -/
theorem take_all_iff (hold : key entry ∈ store.keys) (hn : n ≠ 0) :
    (∀ a ∈ (store.indexed time).take n, key a = key entry) ↔
      ∃ old, (store.indexed time).head? = some old ∧ key old = key entry ∧
        (n = 1 ∨ store.count = 1) := by
  have hnodup := nodup_indexed time store
  have hcount := length_indexed time store
  obtain ⟨m, rfl⟩ := Nat.exists_eq_succ_of_ne_zero hn
  cases hindexed : store.indexed time with
  | nil =>
      obtain ⟨b, hb, -⟩ := List.mem_map.mp hold
      rw [← mem_indexed time, hindexed] at hb
      exact absurd hb List.not_mem_nil
  | cons old rest =>
      rw [hindexed, List.map_cons, List.nodup_cons] at hnodup
      rw [hindexed, List.length_cons] at hcount
      rw [List.take_succ_cons, List.head?_cons]
      constructor
      · intro h
        refine ⟨old, rfl, h old List.mem_cons_self, ?_⟩
        by_contra hboth
        rw [not_or] at hboth
        cases rest with
        | nil => exact hboth.2 hcount.symm
        | cons second rest =>
            obtain ⟨m, rfl⟩ := Nat.exists_eq_succ_of_ne_zero fun hm : m = 0 => hboth.1 (by rw [hm])
            have hsecond := h second (List.mem_cons_of_mem _ (by
              rw [List.take_succ_cons]
              exact List.mem_cons_self))
            refine hnodup.1 ?_
            rw [h old List.mem_cons_self, ← hsecond]
            exact List.mem_map_of_mem List.mem_cons_self
      · rintro ⟨old', hold', hkey, hsmall⟩ a ha
        cases hold'
        rcases List.mem_cons.mp ha with rfl | hrest
        · exact hkey
        · rcases hsmall with hone | hone
          · rw [Nat.succ.inj hone, List.take_zero] at hrest
            exact absurd hrest List.not_mem_nil
          · rw [List.length_eq_zero_iff.mp (Nat.succ.inj (hcount.trans hone)), List.take_nil] at hrest
            exact absurd hrest List.not_mem_nil

/-- **When an update leaves the others alone.** -/
theorem update_keeps_iff (hold : key entry ∈ store.keys) :
    UpdateKeeps entry store (putBounded time maxEntries entry store) ↔
      UpdateFits time maxEntries entry store := by
  rw [putBounded_eq, update_after_walk hold]
  unfold UpdateFits toEvict
  split
  next hfull =>
    rw [take_all_iff hold (Nat.succ_ne_zero _), or_iff_right (Nat.not_lt.mpr hfull)]
    have hone : store.count - maxEntries + 1 = 1 ↔ store.count = maxEntries := by omega
    rw [hone]
  next hroom =>
    refine ⟨fun _ => Or.inl (Nat.not_le.mp hroom), fun _ a ha => ?_⟩
    rw [List.take_zero] at ha
    exact absurd ha List.not_mem_nil

end Mailbox

open Mailbox

/-! ## The outbox -/

namespace Outbox

variable {MsgId : Type} [LinearOrder MsgId]

/-- The walk of the outbox is that of a cursor over its index. -/
theorem evict_eq_deleteWalk (n : ℕ) (store : OutboxStore MsgId) :
    evict n store = (store.deleteWalk OutboxEntry.lastAttemptMs (fun _ => true) n none).1 := by
  refine eq_of_mem fun a => ?_
  unfold evict
  rw [mem_deleteWalk, ← indexed_eq_mergeSort, mem_filter, decide_eq_true_eq]
  constructor
  · rintro ⟨ha, hkept⟩
    rcases mem_take_or_drop OutboxEntry.lastAttemptMs n ha with ⟨htake, -⟩ | ⟨-, hdrop⟩
    · exact absurd (List.mem_map_of_mem htake) hkept
    · exact hdrop
  · intro hdrop
    have ha := (mem_indexed _).mp (List.mem_of_mem_drop hdrop)
    refine ⟨ha, fun hmem => ?_⟩
    obtain ⟨b, hb, heq⟩ := List.mem_map.mp hmem
    have hb' := (mem_indexed _).mp (List.mem_of_mem_take hb)
    rw [eq_of_key hb' ha heq] at hb
    rcases mem_take_or_drop OutboxEntry.lastAttemptMs n ha with ⟨-, hnot⟩ | ⟨hnot, -⟩
    · exact hnot hdrop
    · exact hnot hb

/-- It makes room as the other stores do. -/
theorem enqueue_eq_putBounded (args : EnqueueArgs MsgId) (outbox : Outbox MsgId) :
    (outbox.enqueue args).store =
      putBounded OutboxEntry.lastAttemptMs outbox.maxEntries (newEntry args) outbox.store := by
  unfold enqueue putBounded toEvict
  dsimp only
  split
  next hfull => rw [if_neg (Nat.succ_ne_zero _), evict_eq_deleteWalk]
  next => rw [if_pos rfl]

end Outbox

/-- **Updating a stored message evicts nobody** if and only if the store is below its
cap, or the updated entry is its oldest and nothing else has to go. -/
theorem updates_keep_iff {Time : Type} [LinearOrder Time] {MsgId : Type} [LinearOrder MsgId]
    (maxEntries : ℕ) :
    (∀ (store : InboxStore Time MsgId) (entry : InboxEntry Time MsgId),
      entry.msgId ∈ store.keys →
      (UpdateKeeps entry store (Inbox.put maxEntries entry store) ↔
        UpdateFits InboxEntry.receivedAtMs maxEntries entry store)) ∧
    (∀ (store : SpoolStore Time MsgId) (entry : SpoolEntry Time MsgId),
      entry.msgId ∈ store.keys →
      (UpdateKeeps entry store (Spool.put maxEntries entry store) ↔
        UpdateFits SpoolEntry.addedAtMs maxEntries entry store)) ∧
    ∀ (outbox : Outbox MsgId) (args : EnqueueArgs MsgId), args.msgId ∈ outbox.store.keys →
      (UpdateKeeps (Outbox.newEntry args) outbox.store (outbox.enqueue args).store ↔
        UpdateFits OutboxEntry.lastAttemptMs outbox.maxEntries (Outbox.newEntry args)
          outbox.store) := by
  refine ⟨fun _ _ hold => update_keeps_iff hold, fun _ _ hold => update_keeps_iff hold,
    fun outbox args hold => ?_⟩
  rw [Outbox.enqueue_eq_putBounded]
  exact update_keeps_iff hold

/-- An inbox of two entries that is full. -/
def fullInbox : InboxStore ℤ ℕ := (ObjectStore.empty.put ⟨1, [], [], 10, false⟩).put ⟨2, [], [], 20, false⟩

/-- The update of the younger entry takes the older one away. -/
theorem update_evicts_another :
    ¬ ∀ (maxEntries : ℕ) (store : InboxStore ℤ ℕ) (entry : InboxEntry ℤ ℕ),
      entry.msgId ∈ store.keys → UpdateKeeps entry store (Inbox.put maxEntries entry store) := by
  intro h
  have hkeeps := h 2 fullInbox ⟨2, [], [], 30, false⟩ (by decide +kernel)
  rcases (update_keeps_iff (by decide +kernel)).mp hkeeps with hroom | ⟨old, hold, hkey, -⟩
  · revert hroom
    decide +kernel
  · have hsorted : fullInbox.records.Pairwise fun a b => decide (a.receivedAtMs ≤ b.receivedAtMs) := by
      decide +kernel
    rw [indexed_eq_mergeSort, List.mergeSort_of_pairwise hsorted] at hold
    cases hold
    revert hkey
    decide

end Oxpulse.MeshCore
