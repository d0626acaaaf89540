import Oxpulse.MeshCore.Mailbox

/-!
# How a put settles

`putBounded` returns a promise that the handlers of its requests and of its
transaction settle, the first one for good: the success of the put resolves it,
before the transaction commits, and an error rejects it, before the transaction
aborts. Only at the abort the error of the transaction is known; a
`QuotaExceededError` then starts an eviction and a second attempt, which comes too
late for the promise (`settle_eq`). So it says what became of the entry unless the
second attempt, or a failing commit, makes it wrong (`put_truthful_iff`).

IndexedDB fires these events: a failing request its own error, then the error of
the transaction while `tx.error` is still null, then the abort with `tx.error`
set; a failing commit only the abort, after the requests succeeded.
-/

namespace Oxpulse.MeshCore

open Oxpulse.Crypto ObjectStore

/-- The error of a request or of a transaction. -/
inductive DomError : Type where
  | quotaExceededError
  | other (name : String)
deriving DecidableEq

/-- What a promise is rejected with. -/
inductive PutError : Type where
  | dom (error : DomError)
  | error (message : String)
deriving DecidableEq

/-- The requests of a transaction. -/
inductive Request : Type where
  | count | cursor | delete | put
deriving DecidableEq

/-- How a transaction with these requests ends. -/
inductive Fate (requests : List Request) : Type where
  | commits
  | requestFails (n : Fin requests.length) (error : DomError)
  | commitFails (error : DomError)
deriving DecidableEq

inductive TxEvent : Type where
  | success (request : Request)
  | requestError (request : Request) (error : DomError)
  /-- The error event of the transaction, with `tx.error`. -/
  | txError (error : Option DomError)
  | txAbort (error : Option DomError)

/-- The events that the handlers of the transaction receive. -/
def Fate.events {requests : List Request} : Fate requests → List TxEvent
  | .commits => requests.map .success
  | .requestFails n error =>
      (requests.take n).map .success ++
        [.requestError (requests.get n) error, .txError none, .txAbort (some error)]
  | .commitFails error => requests.map .success ++ [.txAbort (some error)]

/-! ## The attempt -/

/-- The promise of an attempt, and how many evictions it started. -/
structure PutState : Type where
  promise : Option (Except PutError Unit)
  evictions : ℕ
deriving DecidableEq

namespace PutState

/-- `resolve` or `reject`, of which the first call counts. -/
def settle (result : Except PutError Unit) (s : PutState) : PutState :=
  { s with promise := s.promise.or (some result) }

/-- `tx.onerror` and `tx.onabort`. -/
def onFailure (message : String) (isRetry : Bool) (error : Option DomError) (s : PutState) :
    PutState :=
  if error = some .quotaExceededError ∧ isRetry = false then
    { s with evictions := s.evictions + 1 }
  else s.settle (.error ((error.map PutError.dom).getD (.error message)))

/-- The handlers of `putBounded`; a delete of the cursor has none. -/
def handle (message : String) (isRetry : Bool) (s : PutState) : TxEvent → PutState
  | .success .put => s.settle (.ok ())
  | .success _ => s
  | .requestError .delete _ => s
  | .requestError _ error => s.settle (.error (.dom error))
  | .txError error => s.onFailure message isRetry error
  | .txAbort error => s.onFailure message isRetry error

end PutState

namespace Mailbox

variable {Time : Type} [LinearOrder Time] {MsgId : Type} [LinearOrder MsgId] {α : Type}
  {key : α → MsgId}

/-- The requests of a walk that deletes so many records. -/
def walkRequests (deleted : ℕ) : List Request :=
  .cursor :: (List.replicate deleted [Request.delete, Request.cursor]).flatten

def putRequests (time : α → Time) (maxEntries : ℕ) (store : ObjectStore key) : List Request :=
  let toEvict := toEvict maxEntries store.count
  .count ::
    ((if toEvict = 0 then []
      else walkRequests (store.deleteWalk time (fun _ => true) toEvict none).2) ++ [.put])

/-- `Math.max(1, Math.floor(maxEntries * QUOTA_EVICT_FRACTION))` -/
def quotaEvict (maxEntries : ℕ) : ℕ := max 1 (maxEntries / 10)

def evictRequests (time : α → Time) (maxEntries : ℕ) (store : ObjectStore key) : List Request :=
  walkRequests (store.deleteWalk time (fun _ => true) (quotaEvict maxEntries) none).2

/-- The promise of `putBounded(entry, isRetry)`, and the evictions it starts. -/
def attempt (message : String) (isRetry : Bool) {requests : List Request} (fate : Fate requests) :
    PutState :=
  fate.events.foldl (PutState.handle message isRetry) ⟨none, 0⟩

/-- The promise of `evictAggressive`: the last step of the cursor resolves it,
and a delete that fails settles nothing. -/
def evictAggressive {requests : List Request} : Fate requests → Option (Except PutError Unit)
  | .commits => some (.ok ())
  | .commitFails _ => some (.ok ())
  | .requestFails n error =>
      match requests.get n with
      | .cursor => some (.error (.dom error))
      | _ => none

variable {time : α → Time} {maxEntries : ℕ} {store : ObjectStore key} {message : String}
  {isRetry : Bool}

/-- The put comes last, and once. -/
theorem putRequests_eq (time : α → Time) (maxEntries : ℕ) (store : ObjectStore key) :
    ∃ requests, putRequests time maxEntries store = requests ++ [.put] ∧
      Request.put ∉ requests := by
  unfold putRequests
  refine ⟨_, List.cons_append.symm, ?_⟩
  unfold walkRequests
  split
  · decide
  · rw [List.mem_cons, List.mem_cons, List.mem_flatten]
    rintro (h | h | ⟨pair, hpair, h⟩)
    · cases h
    · cases h
    · rw [List.eq_of_mem_replicate hpair] at h
      revert h
      decide

/-- The successes before the put settle nothing. -/
theorem foldl_success {requests : List Request} (h : Request.put ∉ requests) (s : PutState) :
    (requests.map TxEvent.success).foldl (PutState.handle message isRetry) s = s := by
  induction requests with
  | nil => rfl
  | cons request requests ih =>
      rw [List.mem_cons, not_or] at h
      have hhead : s.handle message isRetry (.success request) = s := by
        cases request with
        | put => exact absurd rfl h.1
        | count => rfl
        | cursor => rfl
        | delete => rfl
      rw [List.map_cons, List.foldl_cons, hhead, ih h.2]

theorem foldl_requests :
    ((putRequests time maxEntries store).map TxEvent.success).foldl
      (PutState.handle message isRetry) ⟨none, 0⟩ = ⟨some (.ok ()), 0⟩ := by
  obtain ⟨requests, heq, hput⟩ := putRequests_eq time maxEntries store
  rw [heq, List.map_append, List.foldl_append, foldl_success hput]
  rfl

/-- Whether an error starts an eviction. -/
def starts (isRetry : Bool) (error : DomError) : ℕ :=
  if error = .quotaExceededError ∧ isRetry = false then 1 else 0

theorem onFailure_settled {result : Except PutError Unit} (error : DomError) :
    PutState.onFailure message isRetry (some error) ⟨some result, 0⟩ =
      ⟨some result, starts isRetry error⟩ := by
  unfold PutState.onFailure starts
  simp only [Option.some.injEq]
  split
  · rfl
  · rfl

/-- **An attempt** that gets past the put resolves its promise, whatever the
commit does. -/
theorem attempt_commits :
    attempt message isRetry (.commits : Fate (putRequests time maxEntries store)) =
      ⟨some (.ok ()), 0⟩ :=
  foldl_requests

theorem attempt_commitFails (error : DomError) :
    attempt message isRetry (.commitFails error : Fate (putRequests time maxEntries store)) =
      ⟨some (.ok ()), starts isRetry error⟩ := by
  unfold attempt Fate.events
  rw [List.foldl_append, foldl_requests]
  exact onFailure_settled error

/-- A request that fails rejects it. -/
theorem attempt_requestFails (message : String) (isRetry : Bool)
    (n : Fin (putRequests time maxEntries store).length) (error : DomError) :
    ∃ e, attempt message isRetry (.requestFails n error) =
      ⟨some (.error e), starts isRetry error⟩ := by
  obtain ⟨requests, heq, hput⟩ := putRequests_eq time maxEntries store
  have hbefore : ∀ k < (putRequests time maxEntries store).length,
      Request.put ∉ (putRequests time maxEntries store).take k := by
    intro k hlt
    rw [heq, List.length_append, List.length_singleton] at hlt
    rw [heq, List.take_append_of_le_length (Nat.le_of_lt_succ hlt)]
    exact fun h => hput (List.mem_of_mem_take h)
  unfold attempt Fate.events
  rw [List.foldl_append, foldl_success (hbefore n n.isLt)]
  -- The error of the request, or else that of the transaction.
  cases (putRequests time maxEntries store).get n with
  | delete => exact ⟨.error message, onFailure_settled error⟩
  | count => exact ⟨.dom error, onFailure_settled error⟩
  | cursor => exact ⟨.dom error, onFailure_settled error⟩
  | put => exact ⟨.dom error, onFailure_settled error⟩

/-! ## The whole put -/

/-- What becomes of an eviction and of the attempt after it, each in the store
that it finds. -/
structure Retry (key : α → MsgId) (time : α → Time) (maxEntries : ℕ) : Type where
  evictStore : ObjectStore key
  evict : Fate (evictRequests time maxEntries evictStore)
  retryStore : ObjectStore key
  retry : Fate (putRequests time maxEntries retryStore)

/-- What becomes of a put: of its attempt, and of the evictions that it starts. -/
structure Outcomes (key : α → MsgId) (time : α → Time) (maxEntries : ℕ) : Type where
  store : ObjectStore key
  first : Fate (putRequests time maxEntries store)
  retries : ℕ → Retry key time maxEntries

namespace Retry

variable (r : Retry key time maxEntries)

/-- The eviction resolves. -/
def Retried : Prop := evictAggressive r.evict = some (.ok ())

instance : Decidable r.Retried := inferInstanceAs (Decidable (_ = _))

/-- `evictAggressive(…).then(() => this.putBounded(entry, true))` -/
def chain (message : String) : Option (Except PutError Unit) :=
  match evictAggressive r.evict with
  | some (.ok _) => (attempt message true r.retry).promise
  | other => other

/-- No request of the eviction fails, and the second attempt commits. -/
def Succeeds : Prop := (∀ n error, r.evict ≠ .requestFails n error) ∧ r.retry = .commits

theorem retried_iff : r.Retried ↔ ∀ n error, r.evict ≠ .requestFails n error := by
  unfold Retried evictAggressive
  cases r.evict with
  | commits =>
      refine ⟨fun _ n error h => ?_, fun _ => rfl⟩
      cases h
  | commitFails error =>
      refine ⟨fun _ n error h => ?_, fun _ => rfl⟩
      cases h
  | requestFails n error =>
      refine ⟨fun h => ?_, fun h => absurd rfl (h n error)⟩
      dsimp only at h
      split at h
      · cases h
      · cases h

end Retry

namespace Outcomes

variable (o : Outcomes key time maxEntries) (message : String)

/-- How many evictions are started, by the first attempt and by the later ones. -/
def evictions : ℕ :=
  (attempt message false o.first).evictions +
    ((List.range (attempt message false o.first).evictions).map fun i =>
      (attempt message true (o.retries i).retry).evictions).sum

/-- How many evictions are followed by a second attempt. -/
def secondAttempts : ℕ :=
  (List.range (attempt message false o.first).evictions).countP fun i => (o.retries i).Retried

/-- The promise of `put`: what the first attempt said, or else the retries. -/
def settled : Option (Except PutError Unit) :=
  (attempt message false o.first).promise.or
    ((List.range (attempt message false o.first).evictions).findSome? fun i =>
      (o.retries i).chain message)

/-- The entry is in the store: some attempt that was made committed. -/
def Committed : Prop :=
  o.first = .commits ∨ ∃ i < (attempt message false o.first).evictions,
    (o.retries i).Retried ∧ (o.retries i).retry = .commits

/-- The promise says whether the entry was committed, after one eviction and one
retry at most. -/
structure Truthful : Prop where
  resolves : o.settled message = some (.ok ()) ↔ o.Committed message
  rejects : (∃ e, o.settled message = some (.error e)) ↔ ¬ o.Committed message
  evictedOnce : o.evictions message ≤ 1
  retriedOnce : o.secondAttempts message ≤ 1

theorem retry_evictions (fate : Fate (putRequests time maxEntries store)) :
    (attempt message true fate).evictions = 0 := by
  cases fate with
  | commits => rw [attempt_commits]
  | commitFails error =>
      rw [attempt_commitFails]
      exact if_neg fun h => nomatch h.2
  | requestFails n error =>
      obtain ⟨e, heq⟩ := attempt_requestFails message true n error
      rw [heq]
      exact if_neg fun h => nomatch h.2

theorem evictions_eq : o.evictions message = (attempt message false o.first).evictions := by
  unfold evictions
  simp only [retry_evictions]
  simp

theorem evictions_le : o.evictions message ≤ 1 := by
  have hstarts : ∀ error, starts false error ≤ 1 := by
    intro error
    unfold starts
    split
    · exact le_rfl
    · exact Nat.zero_le 1
  rw [evictions_eq]
  cases o.first with
  | commits =>
      rw [attempt_commits]
      exact Nat.zero_le 1
  | commitFails error =>
      rw [attempt_commitFails]
      exact hstarts error
  | requestFails n error =>
      obtain ⟨e, heq⟩ := attempt_requestFails message false n error
      rw [heq]
      exact hstarts error

/-- The first attempt settles the promise, and the retry comes too late. -/
theorem settle_eq {result : Except PutError Unit} {evictions : ℕ}
    (h : attempt message false o.first = ⟨some result, evictions⟩) :
    o.settled message = some result := by
  unfold settled
  rw [h]
  rfl

theorem committed_iff {result : Except PutError Unit} {error : DomError}
    (h : attempt message false o.first = ⟨some result, starts false error⟩) :
    o.Committed message ↔
      o.first = .commits ∨ (error = .quotaExceededError ∧ (o.retries 0).Succeeds) := by
  unfold Committed starts at *
  rw [h]
  refine or_congr_right ?_
  by_cases herror : error = .quotaExceededError
  · rw [if_pos ⟨herror, rfl⟩]
    constructor
    · rintro ⟨i, hi, hretried, hretry⟩
      rw [Nat.lt_one_iff.mp hi] at hretried hretry
      exact ⟨herror, (Retry.retried_iff _).mp hretried, hretry⟩
    · rintro ⟨-, hevict, hretry⟩
      exact ⟨0, Nat.zero_lt_one, (Retry.retried_iff _).mpr hevict, hretry⟩
  · rw [if_neg fun hboth => herror hboth.1]
    exact ⟨fun ⟨i, hi, _⟩ => absurd hi (Nat.not_lt_zero i), fun hboth => absurd hboth.1 herror⟩

/-- The first attempt commits; or a request of it fails, and no retry saves the
entry after all; or its commit fails for want of quota, and the retry saves it. -/
def Settleable : Prop :=
  match o.first with
  | .commits => True
  | .requestFails _ error => ¬ (error = .quotaExceededError ∧ (o.retries 0).Succeeds)
  | .commitFails error => error = .quotaExceededError ∧ (o.retries 0).Succeeds

/-- **When the promise is truthful.** -/
theorem truthful_iff : o.Truthful message ↔ o.Settleable := by
  have hevicted : o.evictions message ≤ 1 := o.evictions_le message
  have hretried : o.secondAttempts message ≤ 1 := by
    rw [evictions_eq] at hevicted
    refine le_trans (List.countP_le_length ..) ?_
    rwa [List.length_range]
  unfold Settleable
  cases hfirst : o.first with
  | commits =>
      have h : attempt message false o.first = ⟨some (.ok ()), 0⟩ := by
        rw [hfirst, attempt_commits]
      have hsettled := o.settle_eq message h
      have hcommitted : o.Committed message := Or.inl hfirst
      refine ⟨fun _ => trivial, fun _ => ⟨?_, ?_, hevicted, hretried⟩⟩
      · exact ⟨fun _ => hcommitted, fun _ => hsettled⟩
      · refine ⟨fun ⟨e, he⟩ => ?_, fun hnot => absurd hcommitted hnot⟩
        rw [hsettled] at he
        cases he
  | requestFails n error =>
      obtain ⟨e, hattempt⟩ := attempt_requestFails message false n error
      rw [← hfirst] at hattempt
      have hsettled := o.settle_eq message hattempt
      have hcommitted := o.committed_iff message hattempt
      rw [or_iff_right (by rw [hfirst]; exact nofun)] at hcommitted
      dsimp only
      rw [← hcommitted]
      constructor
      · intro h
        exact h.rejects.mp ⟨e, hsettled⟩
      · intro hnot
        refine ⟨?_, ?_, hevicted, hretried⟩
        · rw [hsettled]
          exact ⟨fun h => (nomatch h), fun h => absurd h hnot⟩
        · exact ⟨fun _ => hnot, fun _ => ⟨e, hsettled⟩⟩
  | commitFails error =>
      have hattempt : attempt message false o.first = ⟨some (.ok ()), starts false error⟩ := by
        rw [hfirst, attempt_commitFails]
      have hsettled := o.settle_eq message hattempt
      have hcommitted := o.committed_iff message hattempt
      rw [or_iff_right (by rw [hfirst]; exact nofun)] at hcommitted
      dsimp only
      rw [← hcommitted]
      constructor
      · intro h
        exact h.resolves.mp hsettled
      · intro hin
        refine ⟨?_, ?_, hevicted, hretried⟩
        · exact ⟨fun _ => hin, fun _ => hsettled⟩
        · refine ⟨fun ⟨e, he⟩ => ?_, fun hnot => absurd hin hnot⟩
          rw [hsettled] at he
          cases he

end Outcomes

end Mailbox

open Mailbox

/-- **A put settles truthfully** if and only if its first attempt commits, or
fails at a request and is not saved by the retry, or fails at the commit for want
of quota and is saved by it. -/
theorem puts_truthful_iff {Time : Type} [LinearOrder Time] {MsgId : Type} [LinearOrder MsgId]
    {maxEntries : ℕ} :
    (∀ o : Outcomes (@InboxEntry.msgId Time MsgId) InboxEntry.receivedAtMs maxEntries,
      o.Truthful "Inbox: transaction aborted" ↔ o.Settleable) ∧
    ∀ o : Outcomes (@SpoolEntry.msgId Time MsgId) SpoolEntry.addedAtMs maxEntries,
      o.Truthful "Spool: transaction aborted" ↔ o.Settleable :=
  ⟨fun o => o.truthful_iff _, fun o => o.truthful_iff _⟩

/-- The eviction and the second attempt go well. -/
def goodRetry : Retry (@InboxEntry.msgId ℤ ℕ) InboxEntry.receivedAtMs 5 where
  evictStore := .empty
  evict := .commits
  retryStore := .empty
  retry := .commits

/-- The put request lacks quota: its promise is rejected, and the retry stores the
entry. The commit fails for another reason: its promise is resolved, and nothing
is stored. -/
theorem put_not_truthful :
    (¬ (⟨.empty, .requestFails ⟨1, by decide +kernel⟩ .quotaExceededError, fun _ => goodRetry⟩ :
        Outcomes (@InboxEntry.msgId ℤ ℕ) InboxEntry.receivedAtMs 5).Truthful
        "Inbox: transaction aborted") ∧
    ¬ (⟨.empty, .commitFails (.other "UnknownError"), fun _ => goodRetry⟩ :
        Outcomes (@InboxEntry.msgId ℤ ℕ) InboxEntry.receivedAtMs 5).Truthful
        "Inbox: transaction aborted" := by
  constructor
  · intro h
    refine (Outcomes.truthful_iff _ _).mp h ⟨rfl, fun _ _ heq => ?_, rfl⟩
    cases heq
  · intro h
    have hbad := (Outcomes.truthful_iff _ _).mp h
    exact absurd hbad.1 (by decide)

end Oxpulse.MeshCore
