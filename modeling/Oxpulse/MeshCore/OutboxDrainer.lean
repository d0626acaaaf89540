import Mathlib.Data.List.Count
import Oxpulse.Foundation.Interleaving
import Oxpulse.Foundation.ObjectStore
import Oxpulse.Crypto.Primitives

/-!
# The outbox and its drainer

`Outbox` keeps the bundles that wait for the network in an IndexedDB object
store under their `msgId`. `startOutboxDrainer` answers every `online` event
with a drain: a loop that takes the first pending entry, hands it to
`bridgeSend` and marks it. A flag lets one drain run at a time.

A storage operation is a transaction of its own: it takes effect at some later
time, at once, and its caller goes on after that. Which of two transactions
comes first is left to the schedule. A reply carries what `bridgeSend` settled
with and the time; a storage operation succeeds whatever the reply is.
-/

namespace Oxpulse.MeshCore

open Oxpulse.Coroutine Oxpulse.Crypto

/-! ## The outbox -/

inductive OutboxStatus : Type where
  | pending | sent | failed
deriving DecidableEq, Repr

structure OutboxEntry (MsgId : Type) : Type where
  msgId : MsgId
  channelId : Bytes
  bundle : Bytes
  attempts : ℕ
  lastAttemptMs : ℕ
  status : OutboxStatus
deriving DecidableEq, Repr

structure EnqueueArgs (MsgId : Type) : Type where
  msgId : MsgId
  channelId : Bytes
  bundle : Bytes
  lastAttemptMs : Option ℕ
deriving DecidableEq, Repr

def MAX_OUTBOX_ATTEMPTS : ℕ := 8

def MESH_OUTBOX_MAX_ENTRIES : ℕ := 5000

variable {MsgId : Type} [LinearOrder MsgId]

/-- The object store `outbox`, with `keyPath: 'msgId'`. -/
abbrev OutboxStore (MsgId : Type) [LinearOrder MsgId] : Type :=
  ObjectStore (@OutboxEntry.msgId MsgId)

structure Outbox (MsgId : Type) [LinearOrder MsgId] : Type where
  store : OutboxStore MsgId
  maxEntries : ℕ

namespace Outbox

/-- What `enqueue` puts. -/
def newEntry (args : EnqueueArgs MsgId) : OutboxEntry MsgId where
  msgId := args.msgId
  channelId := args.channelId
  bundle := args.bundle
  attempts := 0
  lastAttemptMs := args.lastAttemptMs.getD 0
  status := .pending

/-- The walk of the cursor over the index `lastAttemptMs`, which visits the
entries by that time and then by key, deleting the first `evictCount`. -/
def evict (evictCount : ℕ) (store : OutboxStore MsgId) : OutboxStore MsgId :=
  let visited := store.records.mergeSort fun e e' => e.lastAttemptMs ≤ e'.lastAttemptMs
  let evicted := (visited.take evictCount).map OutboxEntry.msgId
  store.filter fun e => decide (e.msgId ∉ evicted)

/-- The transaction of `enqueue`: count, make room, put. -/
def enqueue (args : EnqueueArgs MsgId) (outbox : Outbox MsgId) : Outbox MsgId :=
  let count := outbox.store.count
  if count ≥ outbox.maxEntries then
    let evictCount := count - outbox.maxEntries + 1
    { outbox with store := (evict evictCount outbox.store).put (newEntry args) }
  else
    { outbox with store := outbox.store.put (newEntry args) }

/-- The first record of the index `status` under `pending`. -/
def nextPending (outbox : Outbox MsgId) : Option (OutboxEntry MsgId) :=
  outbox.store.records.find? fun e => e.status = .pending

def updateEntry (msgId : MsgId) (fn : OutboxEntry MsgId → OutboxEntry MsgId)
    (outbox : Outbox MsgId) : Outbox MsgId :=
  { outbox with store := outbox.store.update msgId fn }

def markSent (msgId : MsgId) : Outbox MsgId → Outbox MsgId :=
  updateEntry msgId fun e => { e with status := .sent }

def markFailed (msgId : MsgId) (now : ℕ) : Outbox MsgId → Outbox MsgId :=
  updateEntry msgId fun e =>
    let attempts := e.attempts + 1
    let terminal : Bool := attempts ≥ MAX_OUTBOX_ATTEMPTS
    { e with
      status := if terminal then .failed else .pending
      attempts := attempts
      lastAttemptMs := now }

end Outbox

/-! ## The drainer -/

/-- Maximum entries drained per `online` event. -/
def MAX_DRAIN_PER_CYCLE : ℕ := 50

/-- What a `bridgeSend` settles with: `{ ok: true }`, `{ ok: false }`, or an
exception. -/
inductive BridgeSend : Type where
  | ok | notOk | thrown
deriving DecidableEq, Repr

/-- `result.ok` of an awaited `bridgeSend`. -/
def BridgeSend.result : BridgeSend → Except JsError Bool
  | .ok => .ok true
  | .notOk => .ok false
  | .thrown => .error .library

structure DrainReply : Type where
  bridgeSend : BridgeSend
  now : ℕ

/-- What happened at the bridge. -/
inductive BridgeEvent (MsgId : Type) : Type where
  /-- the drain of this event called `bridgeSend` -/
  | sending (drain : ℕ) (msgId : MsgId)
  | returned (msgId : MsgId) (outcome : BridgeSend)
deriving DecidableEq, Repr

/-- The state of one `startOutboxDrainer`. Besides the flag and the outbox it
records how many events were handled, which of them ran the last drain, and
what happened at the bridge. -/
structure Drainer (MsgId : Type) [LinearOrder MsgId] : Type where
  draining : Bool
  outbox : Outbox MsgId
  events : ℕ
  drain : ℕ
  bridge : List (BridgeEvent MsgId)

def startOutboxDrainer (outbox : Outbox MsgId) : Drainer MsgId :=
  ⟨false, outbox, 0, 0, []⟩

abbrev DrainCo (MsgId : Type) [LinearOrder MsgId] : Type → Type :=
  Co DrainReply (Drainer MsgId) JsError

namespace Drainer

/-- A transaction over the outbox: it takes effect in a later segment, and its
result is seen in one after that. -/
def transaction {α : Type} (act : ℕ → Outbox MsgId → Outbox MsgId)
    (result : Outbox MsgId → α) : DrainCo MsgId α := do
  let r ← Co.suspend
  let x := result (← get).outbox
  modify fun s => { s with outbox := act r.now s.outbox }
  let _ ← Co.suspend
  return x

def nextPending : DrainCo MsgId (Option (OutboxEntry MsgId)) :=
  transaction (fun _ outbox => outbox) Outbox.nextPending

def markSent (msgId : MsgId) : DrainCo MsgId Unit :=
  transaction (fun _ => Outbox.markSent msgId) fun _ => ()

def markFailed (msgId : MsgId) : DrainCo MsgId Unit :=
  transaction (fun now => Outbox.markFailed msgId now) fun _ => ()

def enqueue (args : EnqueueArgs MsgId) : DrainCo MsgId Unit :=
  transaction (fun _ => Outbox.enqueue args) fun _ => ()

/-- `await bridgeSend(entry)`. -/
def bridgeSend (drain : ℕ) (entry : OutboxEntry MsgId) : DrainCo MsgId Bool := do
  modify fun s => { s with bridge := s.bridge ++ [.sending drain entry.msgId] }
  let r ← Co.suspend
  modify fun s => { s with bridge := s.bridge ++ [.returned entry.msgId r.bridgeSend] }
  Co.ofExcept r.bridgeSend.result

/-- The loop, with so many entries left in this cycle. -/
def drainLoop (drain : ℕ) : ℕ → DrainCo MsgId Unit
  | 0 => return
  | left + 1 => do
      let entry ← nextPending
      match entry with
      | none => return
      | some entry =>
          let ok ← bridgeSend drain entry
          if ok then
            markSent entry.msgId
            drainLoop drain left
          else
            markFailed entry.msgId

/-- The listener of the event with this number. -/
def drainOn (drain : ℕ) : DrainCo MsgId Unit := do
  if (← get).draining then return
  modify fun s => { s with draining := true, drain := drain }
  let _ ← Co.attempt (drainLoop drain MAX_DRAIN_PER_CYCLE)
  modify fun s => { s with draining := false }

/-- What may happen while the drainer runs. -/
inductive Event (MsgId : Type) : Type where
  | online
  | enqueue (args : EnqueueArgs MsgId)
deriving DecidableEq, Repr

def handle (e : Event MsgId) : DrainCo MsgId Unit := do
  let n := (← get).events
  modify fun s => { s with events := n + 1 }
  match e with
  | .online => drainOn n
  | .enqueue args => enqueue args

/-- A run of the drainer over the outbox. -/
def run (outbox : Outbox MsgId) (ms : List (Move (Event MsgId) DrainReply)) :
    Pool (Event MsgId) DrainReply (Drainer MsgId) JsError Unit :=
  (Pool.fresh (startOutboxDrainer outbox)).exec handle ms

end Drainer

end Oxpulse.MeshCore
