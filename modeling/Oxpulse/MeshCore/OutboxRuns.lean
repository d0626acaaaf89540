import Mathlib.Data.String.Basic
import Oxpulse.Foundation.Histories
import Oxpulse.Foundation.IndexCursor
import Oxpulse.MeshCore.OutboxDrainer

/-!
# The outbox over a run

Every operation of `Outbox` is one transaction, so a run of drains and tabs over one
store is a sequence of operations. What one of them may do to an entry is said once
(`step_entry`). Two things that the schema means depend on who applies which update:
that `lastAttemptMs` tells whether an entry was attempted (`tells_attempts_iff`), and
that an entry which is sent or failed stays so (`terminal_sticks_iff`).
-/

namespace Oxpulse.MeshCore

open Oxpulse.Crypto ObjectStore

variable {MsgId : Type} [LinearOrder MsgId]

/-- A key of the index `status`. -/
def OutboxStatus.text : OutboxStatus → String
  | .pending => "pending"
  | .sent => "sent"
  | .failed => "failed"

namespace Outbox

/-- An outbox over an empty database. -/
def new (maxEntries : ℕ) : Outbox MsgId := ⟨.empty, maxEntries⟩

def failedEntries (outbox : Outbox MsgId) : List (OutboxEntry MsgId) :=
  outbox.store.records.filter fun e => e.status = .failed

/-- The cursor goes over the index `status` at `failed`. -/
def clearFailed (outbox : Outbox MsgId) : Outbox MsgId :=
  { outbox with
    store := (outbox.store.deleteWalk (fun e => e.status.text) (fun t => t = "failed")
      outbox.store.count none).1 }

/-- The cursor goes over the index `lastAttemptMs` from 1 to the cutoff; there is no
such range when the cutoff lies below. -/
def evictOlderThan (now : ℕ) (ms : ℤ) (outbox : Outbox MsgId) : Outbox MsgId × Except JsError Unit :=
  let cutoff : ℤ := now - ms
  if cutoff < 1 then (outbox, .error (.error "DataError"))
  else
    ({ outbox with
        store := (outbox.store.deleteWalk OutboxEntry.lastAttemptMs
          (fun t => decide (1 ≤ t) && decide ((t : ℤ) ≤ cutoff)) outbox.store.count none).1 },
      .ok ())

end Outbox

/-- The operations; those that mark an entry come with the time, whether they ask for
it or not. -/
inductive OutboxOp (MsgId : Type) : Type where
  | enqueue (args : EnqueueArgs MsgId)
  | nextPending
  | markSent (msgId : MsgId) (now : ℕ)
  | markFailed (msgId : MsgId) (now : ℕ)
  | failedEntries
  | clearFailed
  | evictOlderThan (now : ℕ) (ms : ℤ)
deriving DecidableEq

/-- The entry that the operation writes. -/
def OutboxOp.msgId? : OutboxOp MsgId → Option MsgId
  | .enqueue args => some args.msgId
  | .markSent msgId _ => some msgId
  | .markFailed msgId _ => some msgId
  | _ => none

namespace Outbox

/-- One transaction. -/
def step (outbox : Outbox MsgId) : OutboxOp MsgId → Outbox MsgId
  | .enqueue args => outbox.enqueue args
  | .nextPending => outbox
  | .markSent msgId _ => outbox.markSent msgId
  | .markFailed msgId now => outbox.markFailed msgId now
  | .failedEntries => outbox
  | .clearFailed => outbox.clearFailed
  | .evictOlderThan now ms => (outbox.evictOlderThan now ms).1

def run (maxEntries : ℕ) (ops : List (OutboxOp MsgId)) : Outbox MsgId :=
  ops.foldl step (new maxEntries)

variable {outbox : Outbox MsgId} {op : OutboxOp MsgId} {ops : List (OutboxOp MsgId)}
  {e : OutboxEntry MsgId} {maxEntries : ℕ} {msgId : MsgId}

theorem run_concat (maxEntries : ℕ) (ops : List (OutboxOp MsgId)) (op : OutboxOp MsgId) :
    run maxEntries (ops ++ [op]) = (run maxEntries ops).step op :=
  List.foldl_append ..

/-! ## What an operation does to an entry -/

/-- Where an entry that is there after an operation comes from. -/
inductive EntryStep (outbox : Outbox MsgId) : OutboxOp MsgId → OutboxEntry MsgId → Prop where
  | kept (op : OutboxOp MsgId) (e : OutboxEntry MsgId) (h : e ∈ outbox.store.records)
      (hop : op.msgId? ≠ some e.msgId) : EntryStep outbox op e
  | enqueued (args : EnqueueArgs MsgId) : EntryStep outbox (.enqueue args) (newEntry args)
  | sent (e : OutboxEntry MsgId) (now : ℕ) (h : e ∈ outbox.store.records) :
      EntryStep outbox (.markSent e.msgId now) { e with status := .sent }
  | failed (e : OutboxEntry MsgId) (now : ℕ) (h : e ∈ outbox.store.records) :
      EntryStep outbox (.markFailed e.msgId now)
        { e with
          status := if e.attempts + 1 ≥ MAX_OUTBOX_ATTEMPTS then .failed else .pending
          attempts := e.attempts + 1
          lastAttemptMs := now }

/-- An update writes the entry with the message id, if there is one. -/
theorem mem_updateEntry {fn : OutboxEntry MsgId → OutboxEntry MsgId}
    (h : e ∈ (outbox.updateEntry msgId fn).store.records) (hfn : ∀ e, (fn e).msgId = e.msgId) :
    (e ∈ outbox.store.records ∧ e.msgId ≠ msgId) ∨
      ∃ old ∈ outbox.store.records, old.msgId = msgId ∧ e = fn old := by
  unfold updateEntry update at h
  dsimp only at h
  cases hget : outbox.store.get? msgId with
  | none =>
      rw [hget] at h
      refine Or.inl ⟨h, ?_⟩
      rintro rfl
      exact get?_eq_none.mp hget (List.mem_map_of_mem h)
  | some old =>
      rw [hget] at h
      obtain ⟨hold, hkey⟩ := get?_eq_some.mp hget
      rcases mem_put.mp h with rfl | ⟨hkept, hne⟩
      · exact Or.inr ⟨old, hold, hkey, rfl⟩
      · rw [hfn, hkey] at hne
        exact Or.inl ⟨hkept, hne⟩

theorem mem_clearFailed :
    e ∈ outbox.clearFailed.store.records ↔ e ∈ outbox.store.records ∧ e.status ≠ .failed := by
  unfold clearFailed
  rw [mem_deleteWalk_range aheadIn_none le_rfl, decide_eq_false_iff_not]
  refine and_congr_right fun _ => not_congr ?_
  cases e.status <;> decide

/-- **What `evictOlderThan` leaves**: what was never attempted, and what is newer than
the cutoff. -/
theorem mem_evictOlderThan (now : ℕ) (ms : ℤ) :
    e ∈ (outbox.evictOlderThan now ms).1.store.records ↔
      e ∈ outbox.store.records ∧ (e.lastAttemptMs = 0 ∨ (now : ℤ) - ms < e.lastAttemptMs) := by
  unfold evictOlderThan
  dsimp only
  split
  next hcutoff =>
    refine ⟨fun h => ⟨h, ?_⟩, fun h => h.1⟩
    by_cases hzero : e.lastAttemptMs = 0
    · exact Or.inl hzero
    · exact Or.inr (by omega)
  next hcutoff =>
    rw [mem_deleteWalk_range aheadIn_none le_rfl, Bool.and_eq_false_iff, decide_eq_false_iff_not,
      decide_eq_false_iff_not]
    refine and_congr_right fun _ => ?_
    omega

theorem step_entry (h : e ∈ (outbox.step op).store.records) : EntryStep outbox op e := by
  cases op with
  | enqueue args =>
      have hput : e = newEntry args ∨ e ∈ outbox.store.records ∧ e.msgId ≠ args.msgId := by
        simp only [step, enqueue] at h
        split at h
        · rcases mem_put.mp h with hnew | ⟨hold, hne⟩
          · exact Or.inl hnew
          · exact Or.inr ⟨(mem_filter.mp hold).1, hne⟩
        · exact mem_put.mp h
      rcases hput with rfl | ⟨hold, hne⟩
      · exact .enqueued args
      · refine .kept _ e hold fun heq => hne ?_
        exact (Option.some.inj heq).symm
  | nextPending => exact .kept _ e h nofun
  | markSent msgId now =>
      simp only [step, markSent] at h
      rcases mem_updateEntry h fun _ => rfl with ⟨hold, hne⟩ | ⟨old, hold, rfl, rfl⟩
      · exact .kept _ e hold fun heq => hne (Option.some.inj heq).symm
      · exact .sent old now hold
  | markFailed msgId now =>
      simp only [step, markFailed] at h
      rcases mem_updateEntry h fun _ => rfl with ⟨hold, hne⟩ | ⟨old, hold, rfl, rfl⟩
      · exact .kept _ e hold fun heq => hne (Option.some.inj heq).symm
      · have hfailed : EntryStep outbox (.markFailed old.msgId now) _ := .failed old now hold
        simpa using hfailed
  | failedEntries => exact .kept _ e h nofun
  | clearFailed => exact .kept _ e (mem_clearFailed.mp h).1 nofun
  | evictOlderThan now ms => exact .kept _ e ((mem_evictOlderThan now ms).mp h).1 nofun

/-- An update writes what it makes of the entry. -/
theorem mem_updateEntry_of_mem {fn : OutboxEntry MsgId → OutboxEntry MsgId}
    (h : e ∈ outbox.store.records) : fn e ∈ (outbox.updateEntry e.msgId fn).store.records := by
  unfold updateEntry
  dsimp only
  rw [update_of_mem h]
  exact mem_put.mpr (Or.inl rfl)

/-! ## Whether an entry was attempted -/

end Outbox

/-- The time of the last attempt after an operation; a new entry has none. -/
def OutboxOp.attempt (msgId : MsgId) (last : Option ℕ) : OutboxOp MsgId → Option ℕ
  | .enqueue args => if args.msgId = msgId then none else last
  | .markSent id now => if id = msgId then some now else last
  | .markFailed id now => if id = msgId then some now else last
  | _ => last

/-- The last `markSent` or `markFailed` of the entry that these operations leave. -/
def lastAttempt (ops : List (OutboxOp MsgId)) (msgId : MsgId) : Option ℕ :=
  ops.foldl (OutboxOp.attempt msgId) none

/-- An entry is enqueued without a time, and the clock is above 0. -/
def OutboxOp.Usual : OutboxOp MsgId → Prop
  | .enqueue args => args.lastAttemptMs = none
  | .markSent _ now => 0 < now
  | .markFailed _ now => 0 < now
  | _ => True

/-- `lastAttemptMs` is 0 for the entries that were never attempted and for no others;
`evictOlderThan` removes those whose last attempt is older, and keeps the former. -/
structure TellsAttempts (ops : List (OutboxOp MsgId)) (outbox : Outbox MsgId) : Prop where
  zero : ∀ e ∈ outbox.store.records, e.lastAttemptMs = 0 ↔ lastAttempt ops e.msgId = none
  removes : ∀ e ∈ outbox.store.records, ∀ t, lastAttempt ops e.msgId = some t →
    ∀ (now : ℕ) (ms : ℤ), (t : ℤ) ≤ now - ms →
      e ∉ (outbox.evictOlderThan now ms).1.store.records
  keeps : ∀ e ∈ outbox.store.records, lastAttempt ops e.msgId = none →
    ∀ (now : ℕ) (ms : ℤ), e ∈ (outbox.evictOlderThan now ms).1.store.records

namespace Outbox

variable {outbox : Outbox MsgId} {op : OutboxOp MsgId} {ops : List (OutboxOp MsgId)}
  {e : OutboxEntry MsgId} {maxEntries : ℕ} {msgId : MsgId}

/-- A `markSent` hits an entry that failed before, by the clock. -/
def SendsAttempted (outbox : Outbox MsgId) : OutboxOp MsgId → Prop
  | .markSent msgId now => ∀ e ∈ outbox.store.records, e.msgId = msgId →
      e.lastAttemptMs ≠ 0 ∧ e.lastAttemptMs ≤ now
  | _ => True

theorem lastAttempt_concat (ops : List (OutboxOp MsgId)) (op : OutboxOp MsgId) (msgId : MsgId) :
    lastAttempt (ops ++ [op]) msgId = op.attempt msgId (lastAttempt ops msgId) :=
  List.foldl_append ..

theorem attempt_of_ne (last : Option ℕ) (h : op.msgId? ≠ some msgId) :
    op.attempt msgId last = last := by
  cases op with
  | enqueue args => exact if_neg fun heq => h (congrArg some heq)
  | markSent id now => exact if_neg fun heq => h (congrArg some heq)
  | markFailed id now => exact if_neg fun heq => h (congrArg some heq)
  | nextPending => rfl
  | failedEntries => rfl
  | clearFailed => rfl
  | evictOlderThan now ms => rfl

/-- An entry is dated if and only if it was attempted, not later than that. -/
structure Dated (ops : List (OutboxOp MsgId)) (outbox : Outbox MsgId) : Prop where
  never : ∀ e ∈ outbox.store.records, lastAttempt ops e.msgId = none → e.lastAttemptMs = 0
  before : ∀ e ∈ outbox.store.records, ∀ t, lastAttempt ops e.msgId = some t →
    0 < e.lastAttemptMs ∧ e.lastAttemptMs ≤ t

theorem Dated.tells (h : Dated ops outbox) : TellsAttempts ops outbox := by
  constructor
  · intro e he
    refine ⟨fun hzero => ?_, h.never e he⟩
    cases hlast : lastAttempt ops e.msgId with
    | none => rfl
    | some t =>
        have hpos := (h.before e he t hlast).1
        omega
  · intro e he t hlast now ms hold hmem
    obtain ⟨hpos, hle⟩ := h.before e he t hlast
    rcases ((mem_evictOlderThan now ms).mp hmem).2 with hzero | hnew
    · omega
    · omega
  · intro e he hlast now ms
    exact (mem_evictOlderThan now ms).mpr ⟨he, Or.inl (h.never e he hlast)⟩

theorem Dated.step (h : Dated ops outbox) (husual : op.Usual)
    (hattempted : outbox.SendsAttempted op) : Dated (ops ++ [op]) (outbox.step op) := by
  -- What is left of an entry is dated, whatever was done to it.
  have hentry : ∀ e ∈ (outbox.step op).store.records,
      (lastAttempt (ops ++ [op]) e.msgId = none → e.lastAttemptMs = 0) ∧
        ∀ t, lastAttempt (ops ++ [op]) e.msgId = some t →
          0 < e.lastAttemptMs ∧ e.lastAttemptMs ≤ t := by
    intro e he
    rw [lastAttempt_concat]
    cases step_entry he with
    | kept _ _ hold hop =>
        rw [attempt_of_ne _ hop]
        exact ⟨h.never e hold, h.before e hold⟩
    | enqueued args =>
        have hzero : (newEntry args).lastAttemptMs = 0 := by
          show args.lastAttemptMs.getD 0 = 0
          rw [show args.lastAttemptMs = none from husual]
          rfl
        have hnone : (OutboxOp.enqueue args).attempt (newEntry args).msgId
            (lastAttempt ops (newEntry args).msgId) = none := if_pos rfl
        rw [hnone]
        exact ⟨fun _ => hzero, nofun⟩
    | sent old now hold =>
        have hsome : (OutboxOp.markSent old.msgId now).attempt old.msgId
            (lastAttempt ops old.msgId) = some now := if_pos rfl
        obtain ⟨hne, hle⟩ := hattempted old hold rfl
        dsimp only
        rw [hsome]
        refine ⟨nofun, fun t ht => ?_⟩
        cases ht
        exact ⟨Nat.pos_of_ne_zero hne, hle⟩
    | failed old now hold =>
        have hsome : (OutboxOp.markFailed old.msgId now).attempt old.msgId
            (lastAttempt ops old.msgId) = some now := if_pos rfl
        dsimp only
        rw [hsome]
        refine ⟨nofun, fun t ht => ?_⟩
        cases ht
        exact ⟨husual, Nat.le_refl _⟩
  exact ⟨fun e he => (hentry e he).1, fun e he => (hentry e he).2⟩

/-- The operation after which nothing is wrong was none to make it so. -/
theorem sendsAttempted_of_tells (h : TellsAttempts (ops ++ [op]) (outbox.step op)) :
    outbox.SendsAttempted op := by
  cases op with
  | markSent msgId now =>
      rintro old hold rfl
      have hmem : { old with status := .sent } ∈ (outbox.step (.markSent old.msgId now)).store.records :=
        mem_updateEntry_of_mem hold
      have hlast : lastAttempt (ops ++ [.markSent old.msgId now]) old.msgId = some now := by
        rw [lastAttempt_concat]
        exact if_pos rfl
      constructor
      · intro hzero
        have hnone := (h.zero _ hmem).mp hzero
        rw [hlast] at hnone
        cases hnone
      · have hgone := h.removes _ hmem now hlast now 0 (by omega)
        rw [mem_evictOlderThan] at hgone
        by_contra hlater
        refine hgone ⟨hmem, Or.inr ?_⟩
        dsimp only
        omega
  | enqueue args => trivial
  | nextPending => trivial
  | markFailed msgId now => trivial
  | failedEntries => trivial
  | clearFailed => trivial
  | evictOlderThan now ms => trivial

theorem dated_run (husual : ∀ op ∈ ops, op.Usual)
    (hattempted : ∀ pre op post, ops = pre ++ op :: post → (run maxEntries pre).SendsAttempted op) :
    Dated ops (run maxEntries ops) := by
  induction ops using List.reverseRecOn with
  | nil =>
      constructor
      · exact fun e he => absurd he List.not_mem_nil
      · exact fun e he => absurd he List.not_mem_nil
  | append_singleton ops op ih =>
      have hlast := husual op (List.mem_append_right _ (List.mem_singleton_self op))
      rw [run_concat]
      exact (ih (fun op' h => husual op' (List.mem_append_left _ h))
        (Histories.each_left hattempted)).step hlast (hattempted ops op [] rfl)

end Outbox

open Outbox

/-- **`lastAttemptMs` tells whether a message was attempted**, in every state of a run,
if and only if every `markSent` hits an entry that was marked as failed before: a
`markSent` sets no time of its own. -/
theorem tells_attempts_iff {maxEntries : ℕ} {ops : List (OutboxOp MsgId)}
    (husual : ∀ op ∈ ops, op.Usual) :
    (∀ pre post, ops = pre ++ post → TellsAttempts pre (run maxEntries pre)) ↔
      ∀ pre op post, ops = pre ++ op :: post → (run maxEntries pre).SendsAttempted op := by
  constructor
  · rintro h pre op post rfl
    have htells := h (pre ++ [op]) post (List.append_cons pre op post)
    rw [run_concat] at htells
    exact sendsAttempted_of_tells htells
  · rintro h pre post rfl
    exact (dated_run (fun op hop => husual op (List.mem_append_left _ hop))
      (Histories.each_left h)).tells

/-- A message that is sent at the second attempt. -/
def sentLater : List (OutboxOp ℕ) :=
  [.enqueue ⟨1, [], [], none⟩, .markFailed 1 5, .markSent 1 7]

theorem tells_attempts_sample : TellsAttempts sentLater (run 10 sentLater) := by
  have husual : ∀ op ∈ sentLater, op.Usual := by
    intro op hop
    simp only [sentLater, List.mem_cons, List.not_mem_nil, or_false] at hop
    rcases hop with rfl | rfl | rfl
    · rfl
    · exact Nat.succ_pos 4
    · exact Nat.succ_pos 6
  refine (tells_attempts_iff husual).mpr ?_ sentLater [] (List.append_nil _).symm
  intro pre op post heq
  rcases pre with _ | ⟨first, _ | ⟨second, _ | ⟨third, pre⟩⟩⟩
  · cases heq
    trivial
  · cases heq
    trivial
  · cases heq
    have hfailed : ∀ e ∈ (run 10 [.enqueue ⟨1, [], [], none⟩, .markFailed 1 5] : Outbox ℕ).store.records,
        e.msgId = 1 → e.lastAttemptMs ≠ 0 ∧ e.lastAttemptMs ≤ 7 := by
      decide +kernel
    exact hfailed
  · simp [sentLater] at heq

/-- A message that is sent at the first attempt looks as if it never was: no
`evictOlderThan` removes it. -/
theorem sent_looks_unattempted :
    ¬ ∀ (maxEntries : ℕ) (ops : List (OutboxOp ℕ)), (∀ op ∈ ops, op.Usual) →
      TellsAttempts ops (run maxEntries ops) := by
  intro h
  have htells := h 10 [.enqueue ⟨1, [], [], none⟩, .markSent 1 5] (by
    intro op hop
    simp only [List.mem_cons, List.not_mem_nil, or_false] at hop
    rcases hop with rfl | rfl
    · rfl
    · exact Nat.succ_pos 4)
  have hnone := (htells.zero ⟨1, [], [], 0, 0, .sent⟩ (by decide +kernel)).mp rfl
  revert hnone
  decide

/-! ## Whether an entry stays sent or failed -/

/-- What was sent or failed is not pending again, what was sent did not fail, and no
attempt is forgotten. -/
structure Sticks (e e' : OutboxEntry MsgId) : Prop where
  terminal : e.status ≠ .pending → e'.status ≠ .pending
  sent : e.status = .sent → e'.status = .sent
  attempts : e.attempts ≤ e'.attempts

omit [LinearOrder MsgId] in
theorem Sticks.refl (e : OutboxEntry MsgId) : Sticks e e := ⟨id, id, Nat.le_refl _⟩

omit [LinearOrder MsgId] in
theorem Sticks.trans {e e' e'' : OutboxEntry MsgId} (h : Sticks e e') (h' : Sticks e' e'') :
    Sticks e e'' :=
  ⟨fun hne => h'.terminal (h.terminal hne), fun heq => h'.sent (h.sent heq),
    Nat.le_trans h.attempts h'.attempts⟩

/-- In the run an entry is the same message as long as it is not enqueued again: its
status sticks, and once it is terminal `nextPending` does not return it. -/
def TerminalSticks (maxEntries : ℕ) (ops : List (OutboxOp MsgId)) : Prop :=
  ∀ pre mid post, ops = pre ++ mid ++ post → ∀ e ∈ (run maxEntries pre).store.records,
    ∀ e' ∈ (run maxEntries (pre ++ mid)).store.records, e'.msgId = e.msgId →
      (∀ args, .enqueue args ∈ mid → args.msgId ≠ e.msgId) →
        Sticks e e' ∧
          (e.status ≠ .pending → (run maxEntries (pre ++ mid)).nextPending ≠ some e')

namespace Outbox

variable {outbox : Outbox MsgId} {op : OutboxOp MsgId} {ops pre mid : List (OutboxOp MsgId)}
  {e e' : OutboxEntry MsgId} {maxEntries : ℕ} {msgId : MsgId}

/-- A `markFailed` does not hit an entry that is sent. -/
def FailsUnsent (outbox : Outbox MsgId) : OutboxOp MsgId → Prop
  | .markFailed msgId _ => ∀ e ∈ outbox.store.records, e.msgId = msgId → e.status ≠ .sent
  | _ => True

/-- An entry that failed has no attempt left. -/
def FailedSpent (outbox : Outbox MsgId) : Prop :=
  ∀ e ∈ outbox.store.records, e.status = .failed → MAX_OUTBOX_ATTEMPTS ≤ e.attempts

theorem FailedSpent.step (h : FailedSpent outbox) (op : OutboxOp MsgId) :
    FailedSpent (outbox.step op) := by
  intro e he hfailed
  cases step_entry he with
  | kept _ _ hold _ => exact h e hold hfailed
  | enqueued args => cases hfailed
  | sent old now hold => cases hfailed
  | failed old now hold =>
      dsimp only at hfailed ⊢
      split at hfailed
      next hspent => exact hspent
      next => cases hfailed

theorem failedSpent_run (maxEntries : ℕ) (ops : List (OutboxOp MsgId)) :
    FailedSpent (run maxEntries ops) := by
  induction ops using List.reverseRecOn with
  | nil => exact fun e he => absurd he List.not_mem_nil
  | append_singleton ops op ih =>
      rw [run_concat]
      exact ih.step op

/-- The message that an operation leaves was there before, and its status stuck. -/
theorem step_sticks (hspent : FailedSpent outbox) (hfails : outbox.FailsUnsent op)
    (he' : e' ∈ (outbox.step op).store.records)
    (henqueue : ∀ args, op = .enqueue args → args.msgId ≠ e'.msgId) :
    ∃ e ∈ outbox.store.records, e.msgId = e'.msgId ∧ Sticks e e' := by
  cases step_entry he' with
  | kept _ _ hold _ => exact ⟨e', hold, rfl, .refl e'⟩
  | enqueued args => exact absurd rfl (henqueue args rfl)
  | sent old now hold => exact ⟨old, hold, rfl, ⟨fun _ => nofun, fun _ => rfl, Nat.le_refl _⟩⟩
  | failed old now hold =>
      refine ⟨old, hold, rfl, ⟨fun hne => ?_, fun hsent => ?_, Nat.le_succ _⟩⟩
      · -- It is not sent, so it has failed as often as it may.
        have hunsent := hfails old hold rfl
        cases hstatus : old.status with
        | pending => exact absurd hstatus hne
        | sent => exact absurd hstatus hunsent
        | failed =>
            have hmax := hspent old hold hstatus
            rw [if_pos (Nat.le_succ_of_le hmax)]
            nofun
      · exact absurd hsent (hfails old hold rfl)

theorem run_sticks
    (hfails : ∀ pre' op post, mid = pre' ++ op :: post →
      (run maxEntries (pre ++ pre')).FailsUnsent op)
    (henqueue : ∀ args, .enqueue args ∈ mid → args.msgId ≠ e.msgId)
    (he : e ∈ (run maxEntries pre).store.records)
    (he' : e' ∈ (run maxEntries (pre ++ mid)).store.records) (hid : e'.msgId = e.msgId) :
    Sticks e e' := by
  induction mid using List.reverseRecOn generalizing e' with
  | nil =>
      rw [List.append_nil] at he'
      rw [eq_of_key he' he hid]
      exact .refl e
  | append_singleton mid op ih =>
      rw [← List.append_assoc, run_concat] at he'
      obtain ⟨old, hold, hold', hsticks⟩ := step_sticks (failedSpent_run maxEntries (pre ++ mid))
        (hfails mid op [] rfl) he' fun args hop hsame => by
          refine henqueue args ?_ (hsame.trans hid)
          rw [← hop]
          exact List.mem_append_right _ (List.mem_singleton_self op)
      exact (ih (Histories.each_left hfails)
        (fun args hmem => henqueue args (List.mem_append_left _ hmem)) hold
        (hold'.trans hid)).trans hsticks

/-- A failed attempt never leaves an entry that is sent. -/
theorem mem_markFailed (now : ℕ) (he : e ∈ outbox.store.records) :
    ∃ e' ∈ (outbox.markFailed e.msgId now).store.records, e'.msgId = e.msgId ∧ e'.status ≠ .sent := by
  unfold markFailed
  refine ⟨_, mem_updateEntry_of_mem he, rfl, ?_⟩
  dsimp only
  split
  · exact nofun
  · exact nofun

theorem nextPending_status (h : outbox.nextPending = some e) : e.status = .pending := by
  have hfound := List.find?_some h
  exact of_decide_eq_true hfound

end Outbox

open Outbox

/-- **Terminal states are sticky** in a run, whoever shares the store, if and only if
no `markFailed` hits an entry that is sent. -/
theorem terminal_sticks_iff (maxEntries : ℕ) (ops : List (OutboxOp MsgId)) :
    TerminalSticks maxEntries ops ↔
      ∀ pre op post, ops = pre ++ op :: post → (run maxEntries pre).FailsUnsent op := by
  constructor
  · rintro h pre op post rfl
    cases op with
    | markFailed msgId now =>
        rintro e he rfl hsent
        obtain ⟨e', he', hid, hne⟩ := mem_markFailed now he
        refine hne ((h pre [.markFailed e.msgId now] post ?_ e he e' ?_ hid ?_).1.sent hsent)
        · rw [List.append_assoc]
          rfl
        · rw [run_concat]
          exact he'
        · intro args hmem
          cases List.mem_singleton.mp hmem
    | enqueue args => trivial
    | nextPending => trivial
    | markSent msgId now => trivial
    | failedEntries => trivial
    | clearFailed => trivial
    | evictOlderThan now ms => trivial
  · rintro h pre mid post rfl e he e' he' hid henqueue
    have hsticks : Sticks e e' :=
      run_sticks (Histories.each_right (Histories.each_left h)) henqueue he he' hid
    exact ⟨hsticks, fun hne hnext => hsticks.terminal hne (nextPending_status hnext)⟩

/-- Two drainers hold the same message: one has sent it when the other one fails. -/
theorem sent_becomes_pending :
    ¬ ∀ (maxEntries : ℕ) (ops : List (OutboxOp ℕ)), TerminalSticks maxEntries ops := by
  intro h
  have hsticks := (h 10 [.enqueue ⟨1, [], [], none⟩, .markSent 1 5, .markFailed 1 6]
    [.enqueue ⟨1, [], [], none⟩, .markSent 1 5] [.markFailed 1 6] [] rfl
    ⟨1, [], [], 0, 0, .sent⟩ (by decide +kernel) ⟨1, [], [], 1, 6, .pending⟩ (by decide +kernel)
    rfl (by simp)).1
  exact hsticks.terminal nofun rfl

end Oxpulse.MeshCore
