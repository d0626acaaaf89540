import Mathlib.Data.Nat.Basic
import Mathlib.Logic.Function.Basic
import Oxpulse.Foundation.Interleaving
import Oxpulse.MeshCore.OutboxDrainer

/-!
# Routing a bundle

`routeOutgoing` sends a bundle over the bridge, over BLE or over both, and with
neither of them puts it into the outbox. The outbox is a variable of the module
that the first call fills: `getOutbox` publishes the new `Outbox` and then waits
for its `open`. A call that comes in between finds the variable filled, and its
`enqueue` asks for a database that is not there yet; after an `open` that
failed it never will be.

`Outgoing` is the state of the module with the database behind the outbox. It also
records how far every call got with the outbox and which of its own IndexedDB
operations failed. A transaction of `enqueue` takes effect at once, at some
later time, and its caller goes on before anybody else does. It resolves with
the request of its `put`, so it may still be aborted when it commits.
-/

namespace Oxpulse.MeshCore

open Oxpulse.Coroutine Oxpulse.Crypto

/-! ## The module -/

inductive RouteStrategy : Type where
  | online | ble | onlineBle | queued
deriving DecidableEq, Repr

/-- What a call resolves with; of `bridgeResult` only `ok`. -/
structure RouteResult : Type where
  strategy : RouteStrategy
  bridgeResult : Option Bool
  bleError : Option String
deriving DecidableEq, Repr

structure RouteOutgoingArgs (MsgId : Type) : Type where
  bundle : Bytes
  msgId : MsgId
  channelId : Bytes
deriving DecidableEq, Repr

/-- What a call sees when it starts: `navigator.onLine` and the known peers. -/
structure Snapshot : Type where
  online : Bool
  peers : List String
deriving DecidableEq, Repr

/-- What `sendToBle` rejects with, and the text that `routeOutgoing` makes of it. -/
structure BleFailure : Type where
  error : JsError
  message : String

/-- How the transaction of an `enqueue` ends: everything is written; a request
fails and takes the transaction with it; or every request succeeds and the
transaction is aborted when it commits. -/
inductive Transaction : Type where
  | stored
  | requestFails (e : JsError)
  | commitFails
deriving DecidableEq, Repr

structure RouteReply : Type where
  outboxOpen : Except JsError Unit
  enqueue : Transaction
  getToken : Except JsError Unit
  bridgeSend : BridgeSend
  sendToBle : Except BleFailure Unit

/-- How far a call got with the outbox: it has its `Outbox` and goes on to
`enqueue`, or it waits for its transaction. -/
inductive OutboxStage : Type where
  | idle | entering | storing
deriving DecidableEq, Repr

variable {MsgId : Type} [LinearOrder MsgId]

structure Outgoing (MsgId : Type) [LinearOrder MsgId] : Type where
  /-- the variable `outbox` of the module is filled -/
  published : Bool
  /-- `db` of that `Outbox` is set -/
  db : Bool
  outbox : Outbox MsgId
  started : ℕ
  stage : ℕ → OutboxStage
  failures : List (ℕ × JsError)

/-- The module as it is loaded. -/
def loadOutgoing (outbox : Outbox MsgId) : Outgoing MsgId :=
  ⟨false, false, outbox, 0, fun _ => .idle, []⟩

abbrev RouteCo (MsgId : Type) [LinearOrder MsgId] : Type → Type :=
  Co RouteReply (Outgoing MsgId) JsError

/-- How a segment of an event ends. -/
abbrev RouteOutcome (MsgId : Type) [LinearOrder MsgId] : Type :=
  Outcome RouteReply (Outgoing MsgId) JsError (Option RouteResult)

abbrev RouteStatus (MsgId : Type) [LinearOrder MsgId] : Type :=
  Status RouteReply (Outgoing MsgId) JsError (Option RouteResult)

namespace Outgoing

/-- Call `n` got so far. -/
def reach (n : ℕ) (stage : OutboxStage) (s : Outgoing MsgId) : Outgoing MsgId :=
  { s with stage := Function.update s.stage n stage }

/-- An IndexedDB operation of call `n` failed. -/
def fail (n : ℕ) (e : JsError) (s : Outgoing MsgId) : Outgoing MsgId :=
  { s with failures := s.failures ++ [(n, e)] }

/-- `outbox.open()`, called by call `n`. -/
def openOutbox (n : ℕ) : RouteCo MsgId Unit := do
  if (← get).db then return
  let r ← Co.suspend
  match r.outboxOpen with
  | .ok () => modify fun s => { s with db := true }
  | .error e =>
      modify (fail n e)
      throw e

def getOutbox (n : ℕ) : RouteCo MsgId Unit := do
  if !(← get).published then
    modify fun s => { s with published := true }
    Co.await (openOutbox n)
  modify (reach n .entering)

/-- `ob.enqueue(args)`, called by call `n`. -/
def enqueue (n : ℕ) (args : EnqueueArgs MsgId) : RouteCo MsgId Unit := do
  if (← get).db then
    modify (reach n .storing)
    let r ← Co.suspend
    modify (reach n .idle)
    match r.enqueue with
    | .stored => modify fun s => { s with outbox := s.outbox.enqueue args }
    | .requestFails e =>
        modify (fail n e)
        throw e
    | .commitFails => return
  else
    throw (.error "Outbox: call open() first")

/-- What `routeOutgoing` enqueues. -/
def queuedArgs (args : RouteOutgoingArgs MsgId) : EnqueueArgs MsgId :=
  ⟨args.msgId, args.channelId, args.bundle, none⟩

/-- The last branch, once it has its `Outbox`. -/
def storeOutgoing (n : ℕ) (args : RouteOutgoingArgs MsgId) : RouteCo MsgId RouteResult := do
  enqueue n (queuedArgs args)
  return ⟨.queued, none, none⟩

/-- The last branch: neither the bridge nor a peer. -/
def queueOutgoing (n : ℕ) (args : RouteOutgoingArgs MsgId) : RouteCo MsgId RouteResult := do
  Co.await (getOutbox n)
  storeOutgoing n args

def routeOutgoing (n : ℕ) (snapshot : Snapshot) (args : RouteOutgoingArgs MsgId) :
    RouteCo MsgId RouteResult := do
  let hasBle : Bool := snapshot.peers.length > 0
  if snapshot.online && !hasBle then
    let r ← Co.suspend
    Co.ofExcept r.getToken
    let r ← Co.suspend
    let bridgeResult ← Co.ofExcept r.bridgeSend.result
    return ⟨.online, some bridgeResult, none⟩
  else if !snapshot.online && hasBle then
    let r ← Co.suspend
    Co.ofExcept (r.sendToBle.mapError BleFailure.error)
    return ⟨.ble, none, none⟩
  else if snapshot.online && hasBle then
    let r ← Co.suspend
    Co.ofExcept r.getToken
    let r ← Co.suspend
    let bridgeResult ← Co.ofExcept r.bridgeSend.result
    match r.sendToBle with
    | .ok () => return ⟨.onlineBle, some bridgeResult, none⟩
    | .error failure =>
        -- an empty text is as good as none
        let strategy := if failure.message = "" then .onlineBle else .online
        return ⟨strategy, some bridgeResult, some failure.message⟩
  else
    queueOutgoing n args

/-- What may happen: a call of `routeOutgoing`, and whatever else changes the
database, such as a drain. -/
inductive Event (MsgId : Type) [LinearOrder MsgId] : Type where
  | routeOutgoing (snapshot : Snapshot) (args : RouteOutgoingArgs MsgId)
  | foreign (act : OutboxStore MsgId → OutboxStore MsgId)

abbrev RoutePool (MsgId : Type) [LinearOrder MsgId] : Type :=
  Pool (Event MsgId) RouteReply (Outgoing MsgId) JsError (Option RouteResult)

def handle (e : Event MsgId) : RouteCo MsgId (Option RouteResult) := do
  let n := (← get).started
  modify fun s => { s with started := n + 1 }
  match e with
  | .routeOutgoing snapshot args =>
      let result ← routeOutgoing n snapshot args
      return some result
  | .foreign act =>
      modify fun s => { s with outbox := { s.outbox with store := act s.outbox.store } }
      return none

/-- A run of the module over the database. -/
def run (outbox : Outbox MsgId) (ms : List (Move (Event MsgId) RouteReply)) : RoutePool MsgId :=
  (Pool.fresh (loadOutgoing outbox)).exec handle ms

/-! ## What a call waits for -/

/-- The arguments of a call that has neither the bridge nor a peer. -/
def Event.queues : Event MsgId → Option (RouteOutgoingArgs MsgId)
  | .routeOutgoing snapshot args =>
      if snapshot.online = false ∧ snapshot.peers = [] then some args else none
  | .foreign _ => none

/-- How the rest of a call goes on from a reply. -/
abbrev Rest (MsgId : Type) [LinearOrder MsgId] : Type :=
  RouteReply → Outgoing MsgId → RouteOutcome MsgId

section Rest

variable (n : ℕ) (args : RouteOutgoingArgs MsgId)

/-- Waits for its transaction. -/
def Stores (k : Rest MsgId) : Prop :=
  ∀ r s, r.enqueue ≠ .commitFails →
    k r s = .ret { reach n .idle s with outbox := s.outbox.enqueue (queuedArgs args) }
      (some ⟨.queued, none, none⟩) ∨
    ∃ e, k r s = .throw (fail n e (reach n .idle s)) e

/-- Goes on to `enqueue`. -/
def Enters (k : Rest MsgId) : Prop :=
  ∀ r s, s.db = true → ∃ k', k r s = .await (reach n .storing s) k' ∧ Stores n args k'

/-- Waits for an `open` that succeeded. -/
def Opened (k : Rest MsgId) : Prop :=
  ∀ r s, ∃ k', k r s = .await (reach n .entering s) k' ∧ Enters n args k'

def Raises (e : JsError) (k : Rest MsgId) : Prop :=
  ∀ r s, k r s = .throw s e

def Relays (e : JsError) (k : Rest MsgId) : Prop :=
  ∀ r s, ∃ k', k r s = .await s k' ∧ Raises e k'

/-- Waits for the database. -/
def Opens (k : Rest MsgId) : Prop :=
  ∀ r s, (∃ k', k r s = .await { s with db := true } k' ∧ Opened n args k') ∨
    ∃ e k', k r s = .await (fail n e s) k' ∧ Relays e k'

/-- Where call `n` may wait, and what the module knows of it then. -/
inductive Progress (s : Outgoing MsgId) (k : Rest MsgId) : Prop where
  | opens (h : Opens n args k)
  | opened (h : Opened n args k)
  | enters (h : Enters n args k) (stage : s.stage n = .entering)
  | stores (h : Stores n args k) (stage : s.stage n = .storing)
  | relays (e : JsError) (h : Relays e k) (failed : (n, e) ∈ s.failures)
  | raises (e : JsError) (h : Raises e k) (failed : (n, e) ∈ s.failures)

end Rest

variable {n : ℕ} {args : RouteOutgoingArgs MsgId} {s : Outgoing MsgId}

theorem enters_storeOutgoing (n : ℕ) (args : RouteOutgoingArgs MsgId) :
    Enters n args fun _ => storeOutgoing n args >>= fun x => pure (some x) := by
  intro r s hdb
  have hstoring : (enqueue n (queuedArgs args)) s = .await (reach n .storing s) fun r s' =>
      ((match r.enqueue with
        | .stored => modify fun s => { s with outbox := s.outbox.enqueue (queuedArgs args) }
        | .requestFails e => do
            modify (fail n e)
            throw e
        | .commitFails => return : RouteCo MsgId Unit)) (reach n .idle s') := by
    simp only [enqueue, Co.bind_apply, Co.get_apply, Outcome.bind, hdb, if_true]
    rfl
  show ∃ k', (((enqueue n (queuedArgs args)) s).bind _).bind _ = _ ∧ _
  rw [hstoring]
  refine ⟨_, rfl, ?_⟩
  rintro ⟨_, transaction, _, _, _⟩ s' hcommit
  cases transaction with
  | stored => exact Or.inl rfl
  | requestFails e => exact Or.inr ⟨e, rfl⟩
  | commitFails => exact absurd rfl hcommit

/-- `getOutbox` when somebody filled the variable before. -/
theorem getOutbox_published (hpublished : s.published = true) :
    getOutbox n s = .ret (reach n .entering s) () := by
  simp only [getOutbox, Co.bind_apply, Co.get_apply, Outcome.bind, hpublished, Bool.not_true,
    Bool.false_eq_true, if_false]
  rfl

theorem getOutbox_unpublished (hpublished : s.published = false) :
    getOutbox n s = (openOutbox n { s with published := true }).later.bind
      fun _ => (modify (reach n .entering) : RouteCo MsgId Unit) := by
  simp only [getOutbox, Co.bind_apply, Co.get_apply, Outcome.bind, hpublished, Bool.not_false,
    if_true]
  rfl

theorem openOutbox_open (hdb : s.db = true) : openOutbox n s = .ret s () := by
  simp only [openOutbox, Co.bind_apply, Co.get_apply, Outcome.bind, hdb, if_true]
  rfl

/-- The reply of the `open` request. -/
def openRest (n : ℕ) (r : RouteReply) : RouteCo MsgId Unit :=
  match r.outboxOpen with
  | .ok () => modify fun s => { s with db := true }
  | .error e => do
      modify (fail n e)
      throw e

theorem openOutbox_closed (hdb : s.db = false) : openOutbox n s = .await s (openRest n) := by
  simp only [openOutbox, Co.bind_apply, Co.get_apply, Outcome.bind, hdb, Bool.false_eq_true,
    if_false]
  rfl

/-! ## What one segment does -/

/-- What a call without the bridge and without a peer should settle with: an
exception is a failure of one of its own operations, and otherwise its bundle is
a pending entry of the outbox. -/
def Truthful (n : ℕ) (args : RouteOutgoingArgs MsgId) (s : Outgoing MsgId) :
    Except JsError (Option RouteResult) → Prop
  | .error e => (n, e) ∈ s.failures
  | .ok result => result = some ⟨.queued, none, none⟩ ∧
      Outbox.newEntry (queuedArgs args) ∈ s.outbox.store.records

/-- The call leaves the module alone. -/
def Aside (o : RouteOutcome MsgId) (s : Outgoing MsgId) : Prop :=
  o.Sat (fun _ => True) (fun _ _ => True) Eq (fun _ _ => True) s

/-- How call `n` may stand. -/
def Pends (n : ℕ) (e : Event MsgId) (s : Outgoing MsgId) : RouteStatus MsgId → Prop
  | .settled _ => True
  | .pending k =>
      match e.queues with
      | some args => Progress n args s k
      | none => ∀ r s', Aside (k r s') s'

/-- What a segment of call `n` does to the module, and how it leaves the call. -/
structure Segment (n : ℕ) (e : Event MsgId) (s : Outgoing MsgId) (o : RouteOutcome MsgId) :
    Prop where
  others : ∀ i, i ≠ n → o.state.stage i = s.stage i
  failures : s.failures ⊆ o.state.failures
  started : o.state.started = s.started
  pends : Pends n e o.state o.status
  settles : ∀ args x, e.queues = some args → o.status = .settled x → Truthful n args o.state x

/-- The condition on a step: a call that goes on to `enqueue` finds the database
open, and the transaction it waits for is not aborted when it commits. -/
def GoesOn : Move (Event MsgId) RouteReply → Outgoing MsgId → Outgoing MsgId → Prop
  | .start _, _, _ => True
  | .resume i r, s, _ =>
      (s.stage i = .entering → s.db = true) ∧ (s.stage i = .storing → r.enqueue ≠ .commitFails)

theorem stored_enqueue (args : EnqueueArgs MsgId) (outbox : Outbox MsgId) :
    Outbox.newEntry args ∈ (outbox.enqueue args).store.records := by
  unfold Outbox.enqueue
  simp only
  split <;> exact ObjectStore.mem_put.mpr (Or.inl rfl)

variable {e : Event MsgId} {r : RouteReply} {k : Rest MsgId}

theorem pends_of_progress (he : e.queues = some args) (h : Progress n args s k) :
    Pends n e s (.pending k) := by
  simp only [Pends, he]
  exact h

/-- A segment that ends at the next place to wait. -/
theorem Segment.of_progress {s' : Outgoing MsgId} {k' : Rest MsgId} (he : e.queues = some args)
    (hothers : ∀ i, i ≠ n → s'.stage i = s.stage i) (hfailures : s.failures ⊆ s'.failures)
    (hstarted : s'.started = s.started) (h : Progress n args s' k') :
    Segment n e s (.await s' k') :=
  ⟨hothers, hfailures, hstarted, pends_of_progress he h, fun _ _ _ hx => nomatch hx⟩

theorem reach_other {stage : OutboxStage} {i : ℕ} (hne : i ≠ n) :
    (reach n stage s).stage i = s.stage i :=
  Function.update_of_ne hne _ _

/-- A call without the bridge and without a peer waits from the start. -/
theorem queueOutgoing_segment (he : e.queues = some args) :
    Segment n e s ((queueOutgoing n args >>= fun x => pure (some x)) s) := by
  have hqueue : (queueOutgoing n args >>= fun x => pure (some x)) s =
      (((getOutbox n s).later.bind fun _ => storeOutgoing n args).bind
        fun x s' => .ret s' (some x)) := rfl
  rw [hqueue]
  by_cases hpublished : s.published = true
  · rw [getOutbox_published hpublished]
    exact .of_progress he (fun _ => reach_other) (List.Subset.refl _) rfl
      (.enters (enters_storeOutgoing n args) (Function.update_self ..))
  · rw [getOutbox_unpublished (Bool.eq_false_iff.mpr hpublished)]
    by_cases hdb : s.db = true
    · rw [openOutbox_open (s := { s with published := true }) hdb]
      exact .of_progress he (fun _ _ => rfl) (List.Subset.refl _) rfl
        (.opened fun _ _ => ⟨_, rfl, enters_storeOutgoing n args⟩)
    · rw [openOutbox_closed (s := { s with published := true }) (Bool.eq_false_iff.mpr hdb)]
      refine .of_progress he (fun _ _ => rfl) (List.Subset.refl _) rfl (.opens ?_)
      rintro ⟨outboxOpen, _, _, _, _⟩ s'
      cases outboxOpen with
      | ok _ => exact Or.inl ⟨_, rfl, fun _ _ => ⟨_, rfl, enters_storeOutgoing n args⟩⟩
      | error e => exact Or.inr ⟨e, _, rfl, fun _ _ => ⟨_, rfl, fun _ _ => rfl⟩⟩

/-- **A waiting call goes on as it should.** -/
theorem progress_segment {s' : Outgoing MsgId} (he : e.queues = some args)
    (h : Progress n args s k) (hgoes : GoesOn (.resume n r) s s') : Segment n e s (k r s) := by
  cases h with
  | opens h =>
      rcases h r s with ⟨k', hk, hopened⟩ | ⟨error, k', hk, hrelays⟩
      · rw [hk]
        exact .of_progress he (fun _ _ => rfl) (List.Subset.refl _) rfl (.opened hopened)
      · rw [hk]
        exact .of_progress he (fun _ _ => rfl) (List.subset_append_left _ _) rfl
          (.relays error hrelays (List.mem_append_right _ (List.mem_singleton_self _)))
  | opened h =>
      obtain ⟨k', hk, henters⟩ := h r s
      rw [hk]
      exact .of_progress he (fun _ => reach_other) (List.Subset.refl _) rfl
        (.enters henters (Function.update_self ..))
  | enters h stage =>
      obtain ⟨k', hk, hstores⟩ := h r s (hgoes.1 stage)
      rw [hk]
      exact .of_progress he (fun _ => reach_other) (List.Subset.refl _) rfl
        (.stores hstores (Function.update_self ..))
  | stores h stage =>
      rcases h r s (hgoes.2 stage) with hk | ⟨error, hk⟩
      · rw [hk]
        refine ⟨fun _ => reach_other, List.Subset.refl _, rfl, trivial, fun args' x he' hx => ?_⟩
        cases hx
        cases he.symm.trans he'
        exact ⟨rfl, stored_enqueue _ _⟩
      · rw [hk]
        refine ⟨fun _ => reach_other, List.subset_append_left _ _, rfl, trivial,
          fun args' x he' hx => ?_⟩
        cases hx
        exact List.mem_append_right _ (List.mem_singleton_self _)
  | relays error h failed =>
      obtain ⟨k', hk, hraises⟩ := h r s
      rw [hk]
      exact .of_progress he (fun _ _ => rfl) (List.Subset.refl _) rfl (.raises error hraises failed)
  | raises error h failed =>
      rw [h r s]
      refine ⟨fun _ _ => rfl, List.Subset.refl _, rfl, trivial, fun args' x he' hx => ?_⟩
      cases hx
      exact failed

/-- A call that does not queue leaves the module alone. -/
theorem aside_segment {o : RouteOutcome MsgId} (he : e.queues = none) (h : Aside o s) :
    Segment n e s o := by
  have hstate : s = o.state := h.guarantee
  refine ⟨?_, ?_, ?_, ?_, fun args x he' _ => ?_⟩
  · exact fun _ _ => by rw [← hstate]
  · rw [← hstate]
    exact List.Subset.refl _
  · rw [← hstate]
  · cases o with
    | ret s' a => trivial
    | throw s' e' => trivial
    | await s' k' =>
        simp only [Outcome.status, Pends, he]
        exact fun r' s'' => h.2.2 r' s'' trivial trivial
  · rw [he] at he'
    cases he'

/-- Every segment of a pending call. -/
theorem rest_segment {s' : Outgoing MsgId} (h : Pends n e s (.pending k))
    (hgoes : GoesOn (.resume n r) s s') : Segment n e s (k r s) := by
  cases he : e.queues with
  | some args =>
      simp only [Pends, he] at h
      exact progress_segment he h hgoes
  | none =>
      simp only [Pends, he] at h
      exact aside_segment he (h r s)

section Aside

variable {α β : Type}

/-- Over every state, the coroutine leaves it alone. -/
def AsideCo (co : RouteCo MsgId α) : Prop :=
  ∀ s, Co.Triple (fun _ _ => True) Eq (fun _ _ => True) co s

theorem AsideCo.value (a : α) : AsideCo (pure a : RouteCo MsgId α) :=
  fun _ => Co.Triple.value (fun _ => rfl) trivial

theorem AsideCo.ofExcept (x : Except JsError α) : AsideCo (Co.ofExcept x : RouteCo MsgId α) :=
  fun _ => Co.Triple.ofExcept (fun _ => rfl) trivial

theorem AsideCo.bind {co : RouteCo MsgId α} {f : α → RouteCo MsgId β} (h : AsideCo co)
    (hf : ∀ a, AsideCo (f a)) : AsideCo (co >>= f) :=
  fun s => Co.Triple.bind (G := Eq) (fun _ _ _ => Eq.trans) (h s) (fun s' a _ => hf a s')
    fun _ _ _ => trivial

theorem AsideCo.suspend {f : RouteReply → RouteCo MsgId β} (hf : ∀ r, AsideCo (f r)) :
    AsideCo (Co.suspend >>= f) :=
  fun _ => ⟨trivial, rfl, fun r s' _ _ => hf r s'⟩

end Aside

theorem routeOutgoing_aside {snapshot : Snapshot}
    (h : ¬(snapshot.online = false ∧ snapshot.peers = [])) :
    AsideCo (routeOutgoing n snapshot args) := by
  obtain ⟨online, peers⟩ := snapshot
  cases online with
  | true =>
      cases peers with
      | nil =>
          refine .suspend fun r => (AsideCo.ofExcept _).bind fun _ => .suspend fun r => ?_
          exact (AsideCo.ofExcept _).bind fun bridgeResult => .value _
      | cons peer peers =>
          refine .suspend fun r => (AsideCo.ofExcept _).bind fun _ => .suspend fun r => ?_
          refine (AsideCo.ofExcept _).bind fun bridgeResult => ?_
          cases r.sendToBle with
          | ok _ => exact .value _
          | error failure => exact .value _
  | false =>
      cases peers with
      | nil => exact absurd ⟨rfl, rfl⟩ h
      | cons peer peers =>
          exact .suspend fun r => (AsideCo.ofExcept _).bind fun _ => .value _

/-- The first segment of a call, after the call was counted. -/
theorem handle_segment (e : Event MsgId) (s : Outgoing MsgId) :
    Segment s.started e { s with started := s.started + 1 } (handle e s) := by
  cases e with
  | foreign act =>
      exact ⟨fun _ _ => rfl, List.Subset.refl _, rfl, trivial, fun _ _ he _ => nomatch he⟩
  | routeOutgoing snapshot args =>
      by_cases h : snapshot.online = false ∧ snapshot.peers = []
      · have he : (Event.routeOutgoing snapshot args).queues = some args := if_pos h
        have hhandle : handle (.routeOutgoing snapshot args) s =
            (queueOutgoing s.started args >>= fun x => pure (some x))
              { s with started := s.started + 1 } := by
          obtain ⟨online, peers⟩ := snapshot
          obtain ⟨rfl, rfl⟩ := h
          rfl
        rw [hhandle]
        exact queueOutgoing_segment he
      · have he : (Event.routeOutgoing snapshot args).queues = none := if_neg h
        exact aside_segment he (((routeOutgoing_aside h).bind fun _ => .value _) _)

/-! ## Every run -/

/-- The pool of the module: the calls are counted, and each stands as it may. -/
structure Running (p : RoutePool MsgId) : Prop where
  started : p.shared.started = p.calls.length
  pends : ∀ i e st, p.calls[i]? = some ⟨e, st⟩ → Pends i e p.shared st

variable {p : RoutePool MsgId}

theorem running_fresh (outbox : Outbox MsgId) : Running (Pool.fresh (loadOutgoing outbox)) :=
  ⟨rfl, fun _ _ _ h => nomatch h⟩

theorem Progress.frame {s' : Outgoing MsgId} (h : Progress n args s k)
    (hstage : s'.stage n = s.stage n) (hfailures : s.failures ⊆ s'.failures) :
    Progress n args s' k := by
  cases h with
  | opens h => exact .opens h
  | opened h => exact .opened h
  | enters h stage => exact .enters h (hstage.trans stage)
  | stores h stage => exact .stores h (hstage.trans stage)
  | relays error h failed => exact .relays error h (hfailures failed)
  | raises error h failed => exact .raises error h (hfailures failed)

/-- A call stands as before while another one moves. -/
theorem Pends.frame {s' : Outgoing MsgId} {st : RouteStatus MsgId} (h : Pends n e s st)
    (hstage : s'.stage n = s.stage n) (hfailures : s.failures ⊆ s'.failures) :
    Pends n e s' st := by
  cases st with
  | settled x => trivial
  | pending k =>
      cases he : e.queues with
      | some args =>
          simp only [Pends, he] at h ⊢
          exact h.frame hstage hfailures
      | none =>
          simp only [Pends, he] at h ⊢
          exact h

/-- A step and the call it moved: which call, from which state, and its segment. -/
theorem Running.step (hp : Running p) (m : Move (Event MsgId) RouteReply)
    (hgoes : GoesOn m p.shared (p.step handle m).shared) :
    Running (p.step handle m) ∧
      ∀ i e x args, (p.step handle m).calls[i]? = some ⟨e, .settled x⟩ →
        (∀ y, p.calls[i]? ≠ some ⟨e, .settled y⟩) → e.queues = some args →
        Truthful i args (p.step handle m).shared x := by
  cases m with
  | start a =>
      have hsegment := handle_segment a p.shared
      rw [hp.started] at hsegment
      refine ⟨⟨?_, ?_⟩, ?_⟩
      · show (handle a p.shared).state.started = (p.calls ++ [_]).length
        rw [hsegment.started, List.length_append]
        rfl
      · intro i e st hcall
        rcases Pool.concat_cases hcall with ⟨hlt, hold⟩ | ⟨rfl, hnew⟩
        · exact (hp.pends i e st hold).frame (hsegment.others i (Nat.ne_of_lt hlt))
            hsegment.failures
        · injection hnew with he hstatus
          subst he hstatus
          exact hsegment.pends
      · intro i e x args hcall hbefore he
        rcases Pool.concat_cases hcall with ⟨-, hold⟩ | ⟨rfl, hnew⟩
        · exact absurd hold (hbefore x)
        · injection hnew with he' hstatus
          subst he'
          exact hsegment.settles args x he hstatus.symm
  | resume j r =>
      rcases Pool.resume_cases p j r with hsame | ⟨a, k, hj, hstep⟩
      · have hstep : p.step handle (.resume j r) = p := hsame
        rw [hstep]
        exact ⟨hp, fun i e x _ hcall hbefore _ => absurd hcall (hbefore x)⟩
      · have hsegment := rest_segment (hp.pends j a _ hj) hgoes
        have hstep' : p.step handle (.resume j r) = _ := hstep
        rw [hstep']
        refine ⟨⟨?_, ?_⟩, ?_⟩
        · show (k r p.shared).state.started = (p.calls.set j _).length
          rw [hsegment.started, List.length_set, hp.started]
        · intro i e st hcall
          rcases Pool.set_cases hcall with ⟨hne, hold⟩ | ⟨rfl, hnew⟩
          · exact (hp.pends i e st hold).frame (hsegment.others i hne.symm) hsegment.failures
          · injection hnew with he hstatus
            subst he hstatus
            exact hsegment.pends
        · intro i e x args hcall hbefore he
          rcases Pool.set_cases hcall with ⟨-, hold⟩ | ⟨rfl, hnew⟩
          · exact absurd hold (hbefore x)
          · injection hnew with he' hstatus
            subst he'
            exact hsegment.settles args x he hstatus.symm

theorem running_exec {outbox : Outbox MsgId} {ms : List (Move (Event MsgId) RouteReply)}
    (hgoes : Pool.Each handle (Pool.fresh (loadOutgoing outbox)) GoesOn ms) :
    Running (run outbox ms) := by
  induction ms using List.reverseRecOn with
  | nil => exact running_fresh outbox
  | append_singleton ms m ih =>
      have hstep := (ih hgoes.init).step m hgoes.last
      rw [run, Pool.exec_concat]
      exact hstep.1

/-- **Queued means stored**: in every run in which each call that goes on to
`enqueue` finds the database open, and no transaction is aborted after its `put`
succeeded, a call made without the bridge and without a peer rejects only with a
failure of one of its own IndexedDB operations, and when it resolves its bundle
is a pending entry. -/
theorem queued_means_stored (outbox : Outbox MsgId)
    (pre post : List (Move (Event MsgId) RouteReply)) (m : Move (Event MsgId) RouteReply)
    (hgoes : Pool.Each handle (Pool.fresh (loadOutgoing outbox)) GoesOn (pre ++ m :: post))
    (i : ℕ) (args : RouteOutgoingArgs MsgId) (x : Except JsError (Option RouteResult))
    (hsettled : (run outbox (pre ++ [m])).calls[i]? =
      some ⟨.routeOutgoing ⟨false, []⟩ args, .settled x⟩)
    (hbefore : ∀ y, (run outbox pre).calls[i]? ≠
      some ⟨.routeOutgoing ⟨false, []⟩ args, .settled y⟩) :
    Truthful i args (run outbox (pre ++ [m])).shared x := by
  have hrun : (run outbox (pre ++ [m])) = (run outbox pre).step handle m := Pool.exec_concat pre m
  have hpre : Running (run outbox pre) := running_exec hgoes.prefix
  rw [hrun] at hsettled ⊢
  exact (hpre.step m (hgoes pre m post rfl)).2 i _ x args hsettled hbefore rfl

/-! ### Two calls -/

def sampleReply : RouteReply := ⟨.ok (), .stored, .ok (), .ok, .ok ()⟩

def sampleArgs (msgId : ℕ) : RouteOutgoingArgs ℕ := ⟨[], msgId, []⟩

def sampleCall (msgId : ℕ) : Move (Event ℕ) RouteReply :=
  .start (.routeOutgoing ⟨false, []⟩ (sampleArgs msgId))

/-- The second call comes when the first has its database. -/
def sampleMoves : List (Move (Event ℕ) RouteReply) :=
  [sampleCall 7, .resume 0 sampleReply, sampleCall 8, .resume 1 sampleReply,
    .resume 0 sampleReply, .resume 0 sampleReply, .resume 0 sampleReply]

/-- `GoesOn`, tested. -/
def goesOn : Move (Event ℕ) RouteReply → Outgoing ℕ → Outgoing ℕ → Bool
  | .start _, _, _ => true
  | .resume i r, s, _ =>
      (s.stage i ≠ .entering || s.db) && (s.stage i ≠ .storing || r.enqueue ≠ .commitFails)

theorem goesOn_sound (m : Move (Event ℕ) RouteReply) (s s' : Outgoing ℕ)
    (h : goesOn m s s' = true) : GoesOn m s s' := by
  cases m with
  | start e => trivial
  | resume i r =>
      simp only [goesOn, Bool.and_eq_true, Bool.or_eq_true, decide_eq_true_eq] at h
      exact ⟨fun hstage => h.1.resolve_left fun hne => hne hstage,
        fun hstage => h.2.resolve_left fun hne => hne hstage⟩

theorem queued_means_stored_sample :
    Truthful 1 (sampleArgs 8)
      (run ⟨ObjectStore.empty, 5⟩ (sampleMoves ++ [.resume 1 sampleReply])).shared
      (.ok (some ⟨.queued, none, none⟩)) :=
  queued_means_stored ⟨ObjectStore.empty, 5⟩ sampleMoves [] (.resume 1 sampleReply)
    (Pool.Each.of_checks goesOn_sound rfl) 1 (sampleArgs 8) _ rfl fun _ h => nomatch h

/-- **A call that comes while the first one opens the database is rejected**,
though nothing failed. -/
theorem second_call_rejected :
    ¬∀ (pre : List (Move (Event ℕ) RouteReply)) (m : Move (Event ℕ) RouteReply) (i : ℕ)
      (args : RouteOutgoingArgs ℕ) (x : Except JsError (Option RouteResult)),
      (run ⟨ObjectStore.empty, 5⟩ (pre ++ [m])).calls[i]? =
        some ⟨.routeOutgoing ⟨false, []⟩ args, .settled x⟩ →
      (∀ y, (run ⟨ObjectStore.empty, 5⟩ pre).calls[i]? ≠
        some ⟨.routeOutgoing ⟨false, []⟩ args, .settled y⟩) →
      Truthful i args (run ⟨ObjectStore.empty, 5⟩ (pre ++ [m])).shared x := by
  intro h
  have hrejected := h [sampleCall 7, sampleCall 8] (.resume 1 sampleReply) 1 (sampleArgs 8)
    (.error (.error "Outbox: call open() first")) rfl fun _ h => nomatch h
  exact List.not_mem_nil hrejected

end Outgoing

end Oxpulse.MeshCore
