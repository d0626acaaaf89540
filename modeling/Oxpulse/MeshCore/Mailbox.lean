import Mathlib.Algebra.Order.Ring.Int
import Oxpulse.Crypto.Primitives
import Oxpulse.Foundation.IndexCursor

/-!
# The inbox and the spool

`Inbox` (`inbox.ts`) keeps the bundles that were received, `Spool` (`spool.ts`)
those to pass on, each in an object store under `msgId` with an index of the time
of arrival. Both make room before they put an entry: a cursor walks over the
index and deletes the oldest entries. Every operation is one transaction.

The walks are those of `Foundation/IndexCursor`. From them: what a put leaves in
the store (`mem_putBounded`), and that no operation takes it beyond its cap
(`mailboxes_keep_cap`).
-/

namespace Oxpulse.MeshCore

open Oxpulse.Crypto ObjectStore

/-! ## What both of them do -/

namespace Mailbox

variable {Time : Type} [LinearOrder Time] {MsgId : Type} [LinearOrder MsgId] {α : Type}
  {key : α → MsgId}

/-- How many entries have to go. -/
def toEvict (maxEntries total : ℕ) : ℕ :=
  if total ≥ maxEntries then total - maxEntries + 1 else 0

/-- Count, make room, put. -/
def putBounded (time : α → Time) (maxEntries : ℕ) (entry : α) (store : ObjectStore key) :
    ObjectStore key :=
  let toEvict := toEvict maxEntries store.count
  if toEvict = 0 then store.put entry
  else (store.deleteWalk time (fun _ => true) toEvict none).1.put entry

/-- The oldest entries go until there are so many. -/
def evictExcess (time : α → Time) (message : String) (maxEntries : ℤ) (store : ObjectStore key) :
    ObjectStore key × Except JsError ℕ :=
  if maxEntries < 0 then (store, .error (.error message))
  else if (store.count : ℤ) ≤ maxEntries then (store, .ok 0)
  else
    let toDelete := store.count - maxEntries.toNat
    let walk := store.deleteWalk time (fun _ => true) toDelete none
    (walk.1, .ok walk.2)

/-- The cursor goes over the range up to the cutoff, and each step deletes. -/
def evictOlderThan [Sub Time] (time : α → Time) (now ttlMs : Time) (store : ObjectStore key) :
    ObjectStore key :=
  let cutoff := now - ttlMs
  (store.deleteWalk time (fun t => t ≤ cutoff) store.count none).1

variable {time : α → Time} {maxEntries : ℕ} {store : ObjectStore key} {entry a : α}

/-- A put is the walk, which may come to nothing, and then the put of the entry. -/
theorem putBounded_eq (time : α → Time) (maxEntries : ℕ) (entry : α) (store : ObjectStore key) :
    putBounded time maxEntries entry store =
      (store.deleteWalk time (fun _ => true) (toEvict maxEntries store.count) none).1.put entry := by
  unfold putBounded
  dsimp only
  split
  next hzero => rw [hzero]; rfl
  next => rfl

/-- **What a put leaves**: the new entry, and the others without the oldest. -/
theorem mem_putBounded (hnew : key entry ∉ store.keys) :
    a ∈ (putBounded time maxEntries entry store).records ↔
      a = entry ∨ a ∈ (store.indexed time).drop (store.count + 1 - maxEntries) := by
  have hkey : ∀ b ∈ store.records, key b ≠ key entry := fun b hb heq =>
    hnew (heq ▸ List.mem_map_of_mem hb)
  unfold putBounded toEvict
  dsimp only
  by_cases hfull : store.count ≥ maxEntries
  · have hcount : store.count + 1 - maxEntries = store.count - maxEntries + 1 := by omega
    rw [if_pos hfull, if_neg (Nat.succ_ne_zero _), mem_put, ← mem_indexed time,
      (indexed_deleteWalk _ ahead_none).1, hcount]
    refine or_congr_right ⟨fun h => h.1, fun h => ⟨h, ?_⟩⟩
    exact hkey a ((mem_indexed time).mp (List.mem_of_mem_drop h))
  · have hcount : store.count + 1 - maxEntries = 0 := by omega
    rw [if_neg hfull, if_pos rfl, mem_put, hcount, List.drop_zero, mem_indexed]
    exact or_congr_right ⟨fun h => h.1, fun h => ⟨h, hkey a h⟩⟩

theorem count_putBounded (hmax : 1 ≤ maxEntries) (hcap : store.count ≤ maxEntries) :
    (putBounded time maxEntries entry store).count ≤ maxEntries := by
  unfold putBounded toEvict
  dsimp only
  by_cases hfull : store.count ≥ maxEntries
  · rw [if_pos hfull, if_neg (Nat.succ_ne_zero _)]
    have hput := count_put_le entry
      (store.deleteWalk time (fun _ => true) (store.count - maxEntries + 1) none).1
    rw [count_deleteWalk] at hput
    omega
  · rw [if_neg hfull, if_pos rfl]
    exact (count_put_le entry store).trans (Nat.not_le.mp hfull)

theorem count_evictExcess (message : String) (cap : ℤ) :
    (evictExcess time message cap store).1.count ≤ store.count := by
  unfold evictExcess
  split
  · exact le_rfl
  split
  · exact le_rfl
  · exact count_deleteWalk_le _ _

/-- What is older goes, and nothing else. -/
theorem mem_evictOlderThan [Sub Time] (now ttlMs : Time) :
    a ∈ (evictOlderThan time now ttlMs store).records ↔
      a ∈ store.records ∧ now - ttlMs < time a :=
  mem_deleteWalk_le _ le_rfl

theorem count_evictOlderThan [Sub Time] (now ttlMs : Time) :
    (evictOlderThan time now ttlMs store).count ≤ store.count :=
  count_deleteWalk_le _ _

theorem count_update {k : MsgId} {f : α → α} (hf : ∀ a, key (f a) = key a) :
    (store.update k f).count ≤ store.count := by
  unfold update
  split
  next a ha =>
    refine count_put_of_mem ?_
    rw [hf]
    exact List.mem_map_of_mem (get?_eq_some.mp ha).1
  next => exact le_rfl

end Mailbox

/-! ## `inbox.ts` -/

structure InboxEntry (Time MsgId : Type) : Type where
  msgId : MsgId
  channelId : Bytes
  bundle : Bytes
  receivedAtMs : Time
  consumed : Bool
deriving DecidableEq

/-- The object store `inbox`, with `keyPath: 'msgId'`. -/
abbrev InboxStore (Time MsgId : Type) [LinearOrder MsgId] : Type :=
  ObjectStore (@InboxEntry.msgId Time MsgId)

inductive InboxOp (Time MsgId : Type) : Type where
  | put (entry : InboxEntry Time MsgId)
  | markConsumed (msgId : MsgId)
  | evictExcess (maxEntries : ℤ)
  | evictOlderThan (now ttlMs : Time)

namespace Inbox

variable {Time : Type} [LinearOrder Time] [Sub Time] {MsgId : Type} [LinearOrder MsgId]

def put (maxEntries : ℕ) : InboxEntry Time MsgId → InboxStore Time MsgId → InboxStore Time MsgId :=
  Mailbox.putBounded InboxEntry.receivedAtMs maxEntries

def markConsumed (msgId : MsgId) (store : InboxStore Time MsgId) : InboxStore Time MsgId :=
  store.update msgId fun entry => { entry with consumed := true }

def evictExcess : ℤ → InboxStore Time MsgId → InboxStore Time MsgId × Except JsError ℕ :=
  Mailbox.evictExcess InboxEntry.receivedAtMs "Inbox: evictExcess maxEntries must be >= 0"

def evictOlderThan : Time → Time → InboxStore Time MsgId → InboxStore Time MsgId :=
  Mailbox.evictOlderThan InboxEntry.receivedAtMs

/-- One transaction. -/
def step (maxEntries : ℕ) (store : InboxStore Time MsgId) :
    InboxOp Time MsgId → InboxStore Time MsgId
  | .put entry => put maxEntries entry store
  | .markConsumed msgId => markConsumed msgId store
  | .evictExcess cap => (evictExcess cap store).1
  | .evictOlderThan now ttlMs => evictOlderThan now ttlMs store

def run (maxEntries : ℕ) (store : InboxStore Time MsgId) (ops : List (InboxOp Time MsgId)) :
    InboxStore Time MsgId :=
  ops.foldl (step maxEntries) store

theorem count_step {maxEntries : ℕ} (hmax : 1 ≤ maxEntries) {store : InboxStore Time MsgId}
    (hcap : store.count ≤ maxEntries) (op : InboxOp Time MsgId) :
    (step maxEntries store op).count ≤ maxEntries := by
  cases op with
  | put entry => exact Mailbox.count_putBounded hmax hcap
  | markConsumed msgId =>
      refine le_trans (Mailbox.count_update ?_) hcap
      exact fun _ => rfl
  | evictExcess cap => exact (Mailbox.count_evictExcess _ cap).trans hcap
  | evictOlderThan now ttlMs => exact (Mailbox.count_evictOlderThan now ttlMs).trans hcap

end Inbox

/-! ## `spool.ts` -/

structure SpoolEntry (Time MsgId : Type) : Type where
  msgId : MsgId
  channelId : Bytes
  bundle : Bytes
  addedAtMs : Time
  hopsRemaining : ℤ
deriving DecidableEq

/-- The object store `spool`, with `keyPath: 'msgId'`. -/
abbrev SpoolStore (Time MsgId : Type) [LinearOrder MsgId] : Type :=
  ObjectStore (@SpoolEntry.msgId Time MsgId)

inductive SpoolOp (Time MsgId : Type) : Type where
  | put (entry : SpoolEntry Time MsgId)
  | remove (msgId : MsgId)
  | decrementHops (msgId : MsgId)
  | evictExcess (maxEntries : ℤ)
  | evictOlderThan (now ttlMs : Time)

namespace Spool

variable {Time : Type} [LinearOrder Time] [Sub Time] {MsgId : Type} [LinearOrder MsgId]

def put (maxEntries : ℕ) : SpoolEntry Time MsgId → SpoolStore Time MsgId → SpoolStore Time MsgId :=
  Mailbox.putBounded SpoolEntry.addedAtMs maxEntries

def remove (msgId : MsgId) (store : SpoolStore Time MsgId) : SpoolStore Time MsgId :=
  store.delete msgId

/-- At the last hop the entry goes. -/
def decrementHops (msgId : MsgId) (store : SpoolStore Time MsgId) : SpoolStore Time MsgId :=
  match store.get? msgId with
  | none => store
  | some entry =>
      let next := entry.hopsRemaining - 1
      if next ≤ 0 then store.delete msgId
      else store.update msgId fun entry => { entry with hopsRemaining := next }

def evictExcess : ℤ → SpoolStore Time MsgId → SpoolStore Time MsgId × Except JsError ℕ :=
  Mailbox.evictExcess SpoolEntry.addedAtMs "Spool: evictExcess maxEntries must be >= 0"

def evictOlderThan : Time → Time → SpoolStore Time MsgId → SpoolStore Time MsgId :=
  Mailbox.evictOlderThan SpoolEntry.addedAtMs

/-- One transaction. -/
def step (maxEntries : ℕ) (store : SpoolStore Time MsgId) :
    SpoolOp Time MsgId → SpoolStore Time MsgId
  | .put entry => put maxEntries entry store
  | .remove msgId => remove msgId store
  | .decrementHops msgId => decrementHops msgId store
  | .evictExcess cap => (evictExcess cap store).1
  | .evictOlderThan now ttlMs => evictOlderThan now ttlMs store

def run (maxEntries : ℕ) (store : SpoolStore Time MsgId) (ops : List (SpoolOp Time MsgId)) :
    SpoolStore Time MsgId :=
  ops.foldl (step maxEntries) store

omit [LinearOrder Time] [Sub Time] in
theorem count_decrementHops (msgId : MsgId) (store : SpoolStore Time MsgId) :
    (decrementHops msgId store).count ≤ store.count := by
  unfold decrementHops
  split
  · exact le_rfl
  dsimp only
  split
  · exact count_filter_le _ _
  · exact Mailbox.count_update fun _ => rfl

theorem count_step {maxEntries : ℕ} (hmax : 1 ≤ maxEntries) {store : SpoolStore Time MsgId}
    (hcap : store.count ≤ maxEntries) (op : SpoolOp Time MsgId) :
    (step maxEntries store op).count ≤ maxEntries := by
  cases op with
  | put entry => exact Mailbox.count_putBounded hmax hcap
  | remove msgId => exact (count_filter_le _ _).trans hcap
  | decrementHops msgId => exact (count_decrementHops msgId store).trans hcap
  | evictExcess cap => exact (Mailbox.count_evictExcess _ cap).trans hcap
  | evictOlderThan now ttlMs => exact (Mailbox.count_evictOlderThan now ttlMs).trans hcap

end Spool

/-! ## The cap -/

/-- **Both stores keep their cap**, whatever operations run, and a put of a new
entry takes away exactly the oldest ones that are too many, in the order of their
times and message ids. -/
theorem mailboxes_keep_cap {Time : Type} [LinearOrder Time] [Sub Time] {MsgId : Type}
    [LinearOrder MsgId] {maxEntries : ℕ} (hmax : 1 ≤ maxEntries) :
    (∀ store : InboxStore Time MsgId, store.count ≤ maxEntries →
      ∀ ops, (Inbox.run maxEntries store ops).count ≤ maxEntries) ∧
    (∀ store : SpoolStore Time MsgId, store.count ≤ maxEntries →
      ∀ ops, (Spool.run maxEntries store ops).count ≤ maxEntries) ∧
    (∀ (store : InboxStore Time MsgId) (entry : InboxEntry Time MsgId),
      entry.msgId ∉ store.keys → ∀ a, a ∈ (Inbox.put maxEntries entry store).records ↔
        a = entry ∨
          a ∈ (store.indexed InboxEntry.receivedAtMs).drop (store.count + 1 - maxEntries)) ∧
    ∀ (store : SpoolStore Time MsgId) (entry : SpoolEntry Time MsgId),
      entry.msgId ∉ store.keys → ∀ a, a ∈ (Spool.put maxEntries entry store).records ↔
        a = entry ∨
          a ∈ (store.indexed SpoolEntry.addedAtMs).drop (store.count + 1 - maxEntries) := by
  refine ⟨fun store hcap ops => ?_, fun store hcap ops => ?_,
    fun _ _ hnew _ => Mailbox.mem_putBounded hnew, fun _ _ hnew _ => Mailbox.mem_putBounded hnew⟩
  · induction ops using List.reverseRecOn with
    | nil => exact hcap
    | append_singleton ops op ih =>
        unfold Inbox.run at ih ⊢
        rw [List.foldl_append]
        exact Inbox.count_step hmax ih op
  · induction ops using List.reverseRecOn with
    | nil => exact hcap
    | append_singleton ops op ih =>
        unfold Spool.run at ih ⊢
        rw [List.foldl_append]
        exact Spool.count_step hmax ih op

/-- Three puts into an inbox of two. -/
theorem mailboxes_keep_cap_sample :
    let entry : ℤ → ℕ → InboxEntry ℤ ℕ := fun t msgId => ⟨msgId, [], [], t, false⟩
    (Inbox.run 2 .empty [.put (entry 30 1), .put (entry 10 2), .put (entry 20 3)]).count ≤ 2 :=
  (mailboxes_keep_cap (by decide)).1 _ (by decide) _

end Oxpulse.MeshCore
