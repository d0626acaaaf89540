import Oxpulse.MeshCore.MailboxQuota

/-!
# Whether an acknowledgement is permanent

`markConsumed` sets the flag of a stored entry and `unconsumed` leaves out the entries
that have it. But `put` writes the whole entry, without a look at the one that is
there: a message that is received again is unconsumed again. So an acknowledgement
lasts as long as the entry does, unless such a put comes (`acks_last_iff`).

The operations run one transaction after the other. The eviction after a
`QuotaExceededError` is a transaction of its own, and one that aborts leaves no trace.
-/

namespace Oxpulse.MeshCore

open Oxpulse.Crypto ObjectStore

/-- What commits: an operation, or the eviction between two attempts of a put. -/
inductive InboxTransaction (Time MsgId : Type) : Type where
  | op (op : InboxOp Time MsgId)
  | evictAggressive (count : ℕ)

namespace Inbox

variable {Time : Type} [LinearOrder Time] {MsgId : Type} [LinearOrder MsgId]

/-- The cursor goes over the store, and each entry is tested. -/
def unconsumed (store : InboxStore Time MsgId) : List (InboxEntry Time MsgId) :=
  store.records.filter fun entry => !entry.consumed

/-- So many of the oldest entries go. -/
def evictAggressive (count : ℕ) (store : InboxStore Time MsgId) : InboxStore Time MsgId :=
  (store.deleteWalk InboxEntry.receivedAtMs (fun _ => true) count none).1

variable [Sub Time]

def commit (maxEntries : ℕ) (store : InboxStore Time MsgId) :
    InboxTransaction Time MsgId → InboxStore Time MsgId
  | .op op => step maxEntries store op
  | .evictAggressive count => evictAggressive count store

def history (maxEntries : ℕ) (store : InboxStore Time MsgId)
    (txs : List (InboxTransaction Time MsgId)) : InboxStore Time MsgId :=
  txs.foldl (commit maxEntries) store

/-- What a transaction does not evict: a put does so before it writes its entry. -/
def survivors (maxEntries : ℕ) (store : InboxStore Time MsgId) :
    InboxTransaction Time MsgId → InboxStore Time MsgId
  | .op (.put _) => evictAggressive (Mailbox.toEvict maxEntries store.count) store
  | .op (.markConsumed _) => store
  | .op (.evictExcess cap) => (evictExcess cap store).1
  | .op (.evictOlderThan now ttlMs) => evictOlderThan now ttlMs store
  | .evictAggressive count => evictAggressive count store

/-- The message was marked while it was stored, and has not been evicted since. -/
inductive Acked (maxEntries : ℕ) (store : InboxStore Time MsgId) :
    List (InboxTransaction Time MsgId) → MsgId → Prop where
  | marked {txs : List (InboxTransaction Time MsgId)} {msgId : MsgId}
      (stored : msgId ∈ (history maxEntries store txs).keys) :
      Acked maxEntries store (txs ++ [.op (.markConsumed msgId)]) msgId
  | kept {txs : List (InboxTransaction Time MsgId)} {tx : InboxTransaction Time MsgId}
      {msgId : MsgId} (before : Acked maxEntries store txs msgId)
      (stays : msgId ∈ (survivors maxEntries (history maxEntries store txs) tx).keys) :
      Acked maxEntries store (txs ++ [tx]) msgId

/-- No message that is acknowledged is returned. -/
def AcksLast (maxEntries : ℕ) (store : InboxStore Time MsgId)
    (txs : List (InboxTransaction Time MsgId)) : Prop :=
  ∀ pre post, txs = pre ++ post → ∀ entry ∈ unconsumed (history maxEntries store pre),
    ¬ Acked maxEntries store pre entry.msgId

/-- A put that finds the entry of an acknowledged message writes it as consumed. -/
def PutsConsumed (maxEntries : ℕ) (store : InboxStore Time MsgId)
    (txs : List (InboxTransaction Time MsgId)) : Prop :=
  ∀ pre entry post, txs = pre ++ .op (.put entry) :: post →
    Acked maxEntries store pre entry.msgId →
    entry.msgId ∈ (survivors maxEntries (history maxEntries store pre) (.op (.put entry))).keys →
    entry.consumed = true

variable {maxEntries : ℕ} {store : InboxStore Time MsgId} {tx : InboxTransaction Time MsgId}
  {txs : List (InboxTransaction Time MsgId)} {entry : InboxEntry Time MsgId} {msgId : MsgId}

/-! ## One transaction -/

theorem history_concat (maxEntries : ℕ) (store : InboxStore Time MsgId)
    (txs : List (InboxTransaction Time MsgId)) (tx : InboxTransaction Time MsgId) :
    history maxEntries store (txs ++ [tx]) = commit maxEntries (history maxEntries store txs) tx :=
  List.foldl_append ..

theorem commit_put (maxEntries : ℕ) (store : InboxStore Time MsgId)
    (entry : InboxEntry Time MsgId) :
    commit maxEntries store (.op (.put entry)) =
      (survivors maxEntries store (.op (.put entry))).put entry :=
  Mailbox.putBounded_eq ..

omit [LinearOrder Time] [Sub Time] in
theorem get?_markConsumed (marked msgId : MsgId) (store : InboxStore Time MsgId) :
    (markConsumed marked store).get? msgId =
      if marked = msgId then (store.get? msgId).map fun entry => { entry with consumed := true }
      else store.get? msgId := by
  unfold markConsumed
  refine get?_update ?_
  exact fun _ => rfl

/-- What a transaction does not evict was there before. -/
theorem mem_of_mem_survivors (h : entry ∈ (survivors maxEntries store tx).records) :
    entry ∈ store.records := by
  cases tx with
  | op op =>
      cases op with
      | put entry => exact mem_of_mem_deleteWalk h
      | markConsumed msgId => exact h
      | evictExcess cap =>
          have hexcess : entry ∈ (evictExcess cap store).1.records := h
          unfold evictExcess Mailbox.evictExcess at hexcess
          split at hexcess
          · exact hexcess
          split at hexcess
          · exact hexcess
          · exact mem_of_mem_deleteWalk hexcess
      | evictOlderThan now ttlMs => exact mem_of_mem_deleteWalk h
  | evictAggressive count => exact mem_of_mem_deleteWalk h

/-- The entry that a transaction does not evict is the one that was there. -/
theorem get?_survivors (hget : store.get? msgId = some entry)
    (hstays : msgId ∈ (survivors maxEntries store tx).keys) :
    (survivors maxEntries store tx).get? msgId = some entry := by
  obtain ⟨left, hleft⟩ := mem_keys.mp hstays
  obtain ⟨hmem, hid⟩ := get?_eq_some.mp hleft
  obtain ⟨hentry, hid'⟩ := get?_eq_some.mp hget
  rw [hleft, eq_of_key (mem_of_mem_survivors hmem) hentry (hid.trans hid'.symm)]

/-- A consumed entry stays consumed, unless a put makes it unconsumed. -/
theorem consumed_commit (hget : store.get? msgId = some entry) (hconsumed : entry.consumed = true)
    (hstays : msgId ∈ (survivors maxEntries store tx).keys)
    (hput : ∀ new, tx = .op (.put new) → new.msgId = msgId → new.consumed = true) :
    ∃ entry', (commit maxEntries store tx).get? msgId = some entry' ∧ entry'.consumed = true := by
  have hleft := get?_survivors hget hstays
  cases tx with
  | op op =>
      cases op with
      | put new =>
          rw [commit_put, get?_put]
          split
          next heq => exact ⟨new, rfl, hput new rfl heq⟩
          next => exact ⟨entry, hleft, hconsumed⟩
      | markConsumed marked =>
          have hcommit : commit maxEntries store (.op (.markConsumed marked)) =
              markConsumed marked store := rfl
          rw [hcommit, get?_markConsumed, hget]
          split
          · exact ⟨_, rfl, rfl⟩
          · exact ⟨entry, rfl, hconsumed⟩
      | evictExcess cap => exact ⟨entry, hleft, hconsumed⟩
      | evictOlderThan now ttlMs => exact ⟨entry, hleft, hconsumed⟩
  | evictAggressive count => exact ⟨entry, hleft, hconsumed⟩

/-! ## Whole runs -/

theorem PutsConsumed.of_append {post : List (InboxTransaction Time MsgId)}
    (h : PutsConsumed maxEntries store (txs ++ post)) : PutsConsumed maxEntries store txs := by
  rintro pre entry post' rfl
  apply h pre entry (post' ++ post)
  rw [List.append_assoc, List.cons_append]

/-- The entry of an acknowledged message is consumed. -/
theorem consumed_of_acked (h : Acked maxEntries store txs msgId)
    (hputs : PutsConsumed maxEntries store txs) :
    ∃ entry, (history maxEntries store txs).get? msgId = some entry ∧ entry.consumed = true := by
  induction h with
  | marked stored =>
      obtain ⟨entry, hget⟩ := mem_keys.mp stored
      rw [history_concat]
      refine ⟨{ entry with consumed := true }, ?_, rfl⟩
      refine (get?_markConsumed ..).trans ?_
      rw [if_pos rfl, hget]
      rfl
  | @kept txs tx msgId before stays ih =>
      obtain ⟨entry, hget, hconsumed⟩ := ih hputs.of_append
      rw [history_concat]
      refine consumed_commit hget hconsumed stays ?_
      rintro new rfl rfl
      exact hputs txs new [] rfl before stays

end Inbox

open Inbox

/-- **An acknowledgement is permanent** in a run if and only if no put of an
acknowledged message that is still stored writes it as unconsumed. -/
theorem acks_last_iff {Time : Type} [LinearOrder Time] [Sub Time] {MsgId : Type}
    [LinearOrder MsgId] (maxEntries : ℕ) (store : InboxStore Time MsgId)
    (txs : List (InboxTransaction Time MsgId)) :
    AcksLast maxEntries store txs ↔ PutsConsumed maxEntries store txs := by
  constructor
  · rintro h pre entry post rfl hacked hstays
    by_contra hunconsumed
    refine h (pre ++ [.op (.put entry)]) post (List.append_cons ..) entry ?_ (hacked.kept hstays)
    rw [history_concat, commit_put]
    refine List.mem_filter.mpr ⟨mem_put.mpr (Or.inl rfl), ?_⟩
    rw [Bool.eq_false_of_not_eq_true hunconsumed]
    rfl
  · rintro h pre post rfl entry hentry hacked
    obtain ⟨hmem, hunconsumed⟩ := List.mem_filter.mp hentry
    obtain ⟨entry', hget, hconsumed⟩ := consumed_of_acked hacked h.of_append
    obtain ⟨hmem', hid⟩ := get?_eq_some.mp hget
    rw [eq_of_key hmem' hmem hid] at hconsumed
    rw [hconsumed] at hunconsumed
    cases hunconsumed

/-- A message is acknowledged and received again. -/
def receivedAgain : List (InboxTransaction ℤ ℕ) :=
  [.op (.put ⟨1, [], [], 10, false⟩), .op (.markConsumed 1), .op (.put ⟨1, [], [], 20, false⟩)]

/-- It is returned as unconsumed again. -/
theorem acked_comes_back :
    ¬ ∀ (maxEntries : ℕ) (store : InboxStore ℤ ℕ) (txs : List (InboxTransaction ℤ ℕ)),
      AcksLast maxEntries store txs := by
  intro h
  refine h 10 .empty receivedAgain receivedAgain [] rfl ⟨1, [], [], 20, false⟩
    (by decide +kernel) ?_
  have hmarked : Acked 10 (.empty : InboxStore ℤ ℕ)
      ([.op (.put ⟨1, [], [], 10, false⟩)] ++ [.op (.markConsumed 1)]) 1 :=
    .marked (by decide +kernel)
  have hkept : Acked 10 (.empty : InboxStore ℤ ℕ)
      ([.op (.put ⟨1, [], [], 10, false⟩), .op (.markConsumed 1)] ++
        [.op (.put ⟨1, [], [], 20, false⟩)]) 1 :=
    .kept hmarked (by decide +kernel)
  exact hkept

end Oxpulse.MeshCore
