import Mathlib.Data.List.Perm.Subperm
import Mathlib.Data.Nat.Basic
import Oxpulse.MeshCore.OutboxDrainer

/-!
# The accounts of the drainer

While a drain runs nobody else touches the bridge or an entry that is there: a
second `online` event is dropped, and `enqueue` only adds. So the drain can rely
on what it read, and the accounts — what the bridge was asked, what it answered
and what the outbox says of it — are settled again whenever no drain runs.
-/

namespace Oxpulse.MeshCore

open Oxpulse.Coroutine Oxpulse.Crypto

variable {MsgId : Type} [LinearOrder MsgId]

/-! ## What happened at the bridge -/

namespace BridgeEvent

def msgIdOf : BridgeEvent MsgId → MsgId
  | .sending _ msgId => msgId
  | .returned msgId _ => msgId

def isSending : BridgeEvent MsgId → Bool
  | .sending _ _ => true
  | .returned _ _ => false

def isReturned : BridgeEvent MsgId → Bool
  | .sending _ _ => false
  | .returned _ _ => true

/-- A `bridgeSend` of this drain. -/
def sentBy (drain : ℕ) : BridgeEvent MsgId → Bool
  | .sending n _ => n = drain
  | .returned _ _ => false

end BridgeEvent

open BridgeEvent

/-- The calls of `bridgeSend` that did not settle yet. -/
def inFlight (bridge : List (BridgeEvent MsgId)) : ℕ :=
  bridge.countP isSending - bridge.countP isReturned

/-- How often `bridgeSend` answered `{ ok: false }` for the entry. -/
def refusals (bridge : List (BridgeEvent MsgId)) (msgId : MsgId) : ℕ :=
  bridge.count (.returned msgId .notOk)

/-- **The accounts of the bridge**: one call at a time, none for an entry that
was accepted, no entry refused too often, and no drain that sends too much. -/
structure Accounting (bridge : List (BridgeEvent MsgId)) : Prop where
  answered : bridge.countP isReturned ≤ bridge.countP isSending
  oneInFlight : inFlight bridge ≤ 1
  acceptedOnce : ∀ pre drain msgId post, bridge = pre ++ .sending drain msgId :: post →
    .returned msgId .ok ∉ pre
  refused : ∀ msgId, refusals bridge msgId ≤ MAX_OUTBOX_ATTEMPTS
  perDrain : ∀ drain, bridge.countP (sentBy drain) ≤ MAX_DRAIN_PER_CYCLE

section Bridge

variable {bridge : List (BridgeEvent MsgId)} {msgId : MsgId} {drain : ℕ} {outcome : BridgeSend}

theorem Accounting.nil : Accounting ([] : List (BridgeEvent MsgId)) := by
  constructor
  · exact Nat.le_refl _
  · exact Nat.zero_le _
  · intro pre drain msgId post h
    cases pre <;> cases h
  · exact fun _ => Nat.zero_le _
  · exact fun _ => Nat.zero_le _

theorem Accounting.sending (h : Accounting bridge)
    (hall : bridge.countP isReturned = bridge.countP isSending)
    (hok : .returned msgId .ok ∉ bridge)
    (hroom : bridge.countP (sentBy drain) < MAX_DRAIN_PER_CYCLE) :
    Accounting (bridge ++ [.sending drain msgId]) := by
  constructor
  · simp [List.countP_append, isSending, isReturned, hall]
  · simp [inFlight, List.countP_append, isSending, isReturned, hall]
  · intro pre drain' msgId' post heq
    rcases List.eq_nil_or_concat post with rfl | ⟨post, last, rfl⟩
    · obtain ⟨hpre, hlast⟩ := List.append_inj' heq rfl
      cases hlast
      exact hpre ▸ hok
    · have hsplit : bridge ++ [.sending drain msgId] =
          (pre ++ .sending drain' msgId' :: post) ++ [last] := by
        rw [heq]
        simp
      exact h.acceptedOnce pre drain' msgId' post (List.append_inj' hsplit rfl).1
  · intro msgId'
    have hsame : refusals (bridge ++ [.sending drain msgId]) msgId' = refusals bridge msgId' := by
      simp [refusals, List.count_append]
    rw [hsame]
    exact h.refused msgId'
  · intro drain'
    rw [List.countP_append, List.countP_singleton]
    by_cases hd : drain = drain'
    · subst hd
      simpa [sentBy] using Nat.succ_le_of_lt hroom
    · simpa [sentBy, hd] using h.perDrain drain'

theorem Accounting.returned (h : Accounting bridge)
    (hone : bridge.countP isReturned < bridge.countP isSending)
    (hrefused : outcome = .notOk → refusals bridge msgId < MAX_OUTBOX_ATTEMPTS) :
    Accounting (bridge ++ [.returned msgId outcome]) := by
  constructor
  · simpa [List.countP_append, isSending, isReturned] using Nat.succ_le_of_lt hone
  · have := h.oneInFlight
    simp only [inFlight, List.countP_append, List.countP_singleton, isSending, isReturned] at this ⊢
    simp only [Bool.false_eq_true, if_false, if_true, Nat.add_zero]
    omega
  · intro pre drain' msgId' post heq
    rcases List.eq_nil_or_concat post with rfl | ⟨post, last, rfl⟩
    · cases (List.append_inj' heq rfl).2
    · have hsplit : bridge ++ [.returned msgId outcome] =
          (pre ++ .sending drain' msgId' :: post) ++ [last] := by
        rw [heq]
        simp
      exact h.acceptedOnce pre drain' msgId' post (List.append_inj' hsplit rfl).1
  · intro msgId'
    have hold := h.refused msgId'
    simp only [refusals, List.count_append, List.count_singleton] at hold hrefused ⊢
    split
    next heq =>
      simp only [beq_iff_eq, BridgeEvent.returned.injEq] at heq
      obtain ⟨rfl, rfl⟩ := heq
      exact hrefused rfl
    next => exact hold
  · intro drain'
    simpa [List.countP_append, sentBy] using h.perDrain drain'

end Bridge

/-! ## The outbox against the bridge -/

/-- An entry that may still be sent: it was never accepted, and its counter knows
of every refusal. -/
def Owed (bridge : List (BridgeEvent MsgId)) (entry : OutboxEntry MsgId) : Prop :=
  .returned entry.msgId .ok ∉ bridge ∧ refusals bridge entry.msgId < MAX_OUTBOX_ATTEMPTS ∧
    refusals bridge entry.msgId ≤ entry.attempts

/-- Every call was answered, the bridge saw entries of the outbox only, and every
pending entry — besides `exempt`, whose answer is being written down — is owed. -/
structure Balanced (exempt : Option MsgId) (bridge : List (BridgeEvent MsgId))
    (store : OutboxStore MsgId) : Prop where
  answered : bridge.countP isReturned = bridge.countP isSending
  known : ∀ e ∈ bridge, e.msgIdOf ∈ store.keys
  owed : ∀ entry ∈ store.records, entry.status = .pending → some entry.msgId ≠ exempt →
    Owed bridge entry

/-- `store'` holds the entries of `store` and new ones. -/
def Extends (store store' : OutboxStore MsgId) : Prop :=
  (∀ entry ∈ store.records, entry ∈ store'.records) ∧
    ∀ entry ∈ store'.records, entry ∈ store.records ∨ entry.msgId ∉ store.keys

section Store

variable {bridge : List (BridgeEvent MsgId)} {store store' store'' : OutboxStore MsgId}
  {exempt : Option MsgId} {entry : OutboxEntry MsgId} {drain : ℕ} {outcome : BridgeSend}

theorem Extends.refl (store : OutboxStore MsgId) : Extends store store :=
  ⟨fun _ h => h, fun _ h => Or.inl h⟩

theorem Extends.keys (h : Extends store store') {k : MsgId} (hk : k ∈ store.keys) :
    k ∈ store'.keys := by
  obtain ⟨entry, hentry, rfl⟩ := List.mem_map.mp hk
  exact List.mem_map_of_mem (h.1 entry hentry)

theorem Extends.trans (h : Extends store store') (h' : Extends store' store'') :
    Extends store store'' := by
  refine ⟨fun entry hentry => h'.1 entry (h.1 entry hentry), fun entry hentry => ?_⟩
  rcases h'.2 entry hentry with hold | hnew
  · exact h.2 entry hold
  · exact Or.inr fun hk => hnew (h.keys hk)

theorem Extends.put (h : entry.msgId ∉ store.keys) : Extends store (store.put entry) := by
  constructor
  · intro entry' hentry'
    refine ObjectStore.mem_put.mpr (Or.inr ⟨hentry', fun heq => h ?_⟩)
    exact heq ▸ List.mem_map_of_mem hentry'
  · intro entry' hentry'
    rcases ObjectStore.mem_put.mp hentry' with rfl | ⟨hold, -⟩
    · exact Or.inr h
    · exact Or.inl hold

/-- Nothing is known of an entry that was not there. -/
theorem owed_of_unknown (h : ∀ e ∈ bridge, e.msgIdOf ≠ entry.msgId) : Owed bridge entry := by
  have hnone : ∀ outcome, BridgeEvent.returned entry.msgId outcome ∉ bridge :=
    fun outcome hmem => h _ hmem rfl
  have hzero : refusals bridge entry.msgId = 0 := List.count_eq_zero.mpr (hnone _)
  refine ⟨hnone _, ?_, ?_⟩ <;> rw [hzero]
  · exact Nat.succ_pos _
  · exact Nat.zero_le _

theorem Balanced.extends (h : Balanced exempt bridge store) (hext : Extends store store') :
    Balanced exempt bridge store' := by
  refine ⟨h.answered, fun e he => hext.keys (h.known e he), fun entry hentry hp hne => ?_⟩
  rcases hext.2 entry hentry with hold | hnew
  · exact h.owed entry hold hp hne
  · exact owed_of_unknown fun e he heq => hnew (heq ▸ h.known e he)

/-- The answer for an entry concerns no other one. -/
theorem Balanced.answer (h : Balanced none bridge store) (hentry : entry ∈ store.records) :
    Balanced (some entry.msgId)
      (bridge ++ [.sending drain entry.msgId, .returned entry.msgId outcome]) store := by
  constructor
  · simp [List.countP_append, List.countP_cons, isSending, isReturned, h.answered]
  · intro e he
    rcases List.mem_append.mp he with hold | hnew
    · exact h.known e hold
    · have hid : e.msgIdOf = entry.msgId := by
        simp only [List.mem_cons, List.not_mem_nil, or_false] at hnew
        rcases hnew with rfl | rfl <;> rfl
      rw [hid]
      exact List.mem_map_of_mem hentry
  · intro entry' hentry' hp hne
    obtain ⟨hok, hfew, hcount⟩ := h.owed entry' hentry' hp (by simp)
    have hid : entry.msgId ≠ entry'.msgId := fun heq => hne (congrArg some heq.symm)
    have hsame : refusals (bridge ++ [.sending drain entry.msgId, .returned entry.msgId outcome])
        entry'.msgId = refusals bridge entry'.msgId := by
      simp [refusals, List.count_append, hid]
    refine ⟨?_, ?_, ?_⟩
    · simp [hok, Ne.symm hid]
    · rw [hsame]
      exact hfew
    · rw [hsame]
      exact hcount

/-- An exception is no answer. -/
theorem Balanced.thrown (h : Balanced none bridge store) (hentry : entry ∈ store.records) :
    Balanced none
      (bridge ++ [.sending drain entry.msgId, .returned entry.msgId .thrown]) store := by
  have hanswer : Balanced (some entry.msgId)
      (bridge ++ [.sending drain entry.msgId, .returned entry.msgId .thrown]) store :=
    h.answer hentry
  refine ⟨hanswer.answered, hanswer.known, fun entry' hentry' hp _ => ?_⟩
  obtain ⟨hok, hfew, hcount⟩ := h.owed entry' hentry' hp (by simp)
  have hsame : refusals (bridge ++ [.sending drain entry.msgId, .returned entry.msgId .thrown])
      entry'.msgId = refusals bridge entry'.msgId := by
    simp [refusals, List.count_append]
  exact ⟨by simp [hok], hsame ▸ hfew, hsame ▸ hcount⟩

/-- Writing the answer down settles the accounts. -/
theorem Balanced.settle {fn : OutboxEntry MsgId → OutboxEntry MsgId}
    (h : Balanced (some entry.msgId) bridge store) (hfn : ∀ e, (fn e).msgId = e.msgId)
    (hentry : entry ∈ store.records) (howed : (fn entry).status = .pending → Owed bridge (fn entry)) :
    Balanced none bridge (store.update entry.msgId fn) := by
  have hput : store.update entry.msgId fn = store.put (fn entry) :=
    ObjectStore.update_of_mem hentry
  rw [hput]
  refine ⟨h.answered, fun e he => ?_, fun entry' hentry' hp _ => ?_⟩
  · exact ObjectStore.mem_keys_put.mpr (Or.inr (h.known e he))
  · rcases ObjectStore.mem_put.mp hentry' with rfl | ⟨hold, hne⟩
    · exact howed hp
    · exact h.owed entry' hold hp fun heq => hne ((Option.some.inj heq).trans (hfn entry).symm)

end Store

/-! ## What a call keeps and relies on -/

namespace Drainer

/-- The entries of `s` are still in `s'`, and where a status changed the bridge
has answered. -/
def Follows (s s' : Drainer MsgId) : Prop :=
  s.bridge <+: s'.bridge ∧ ∀ entry ∈ s.outbox.store.records, ∃ entry' ∈ s'.outbox.store.records,
    (entry'.msgId = entry.msgId ∧ entry'.channelId = entry.channelId ∧
      entry'.bundle = entry.bundle) ∧
    (entry'.status = entry.status ∨
      entry'.status = .sent ∧ .returned entry.msgId .ok ∈ s'.bridge ∨
      entry'.status = .failed ∧ .returned entry.msgId .notOk ∈ s'.bridge)

/-- What holds between the segments of the calls. `known` are the ids that the
outbox ever holds. -/
structure Inv (known : List MsgId) (maxEntries : ℕ) (s : Drainer MsgId) : Prop where
  accounting : Accounting s.bridge
  keys : ∀ k ∈ s.outbox.store.keys, k ∈ known
  maxEntries : s.outbox.maxEntries = maxEntries
  numbered : ∀ drain msgId, .sending drain msgId ∈ s.bridge → drain < s.events
  idle : s.draining = false → Balanced none s.bridge s.outbox.store

/-- A segment of call `i`. While another one drains, it adds entries at most. -/
structure Segment (i : ℕ) (e : Event MsgId) (s s' : Drainer MsgId) : Prop where
  events : s'.events = s.events
  follows : Follows s s'
  others : s.draining = true → s.drain ≠ i → s'.draining = true ∧ s'.drain = s.drain ∧
    s'.bridge = s.bridge ∧ Extends s.outbox.store s'.outbox.store
  adds : ∀ k ∈ s'.outbox.store.keys, k ∈ s.outbox.store.keys ∨
    ∃ args, e = .enqueue args ∧ args.msgId = k

/-- What call `i` relies on: the invariant, nobody interferes with its drain, and
nobody enqueues its `msgId`. -/
structure Rely (known : List MsgId) (maxEntries : ℕ) (fired : List (Event MsgId)) (i : ℕ)
    (s s' : Drainer MsgId) : Prop where
  events : s.events ≤ s'.events
  inv : Inv known maxEntries s → Inv known maxEntries s'
  mine : s.draining = true → s.drain = i → s'.draining = true ∧ s'.drain = s.drain ∧
    s'.bridge = s.bridge ∧ Extends s.outbox.store s'.outbox.store
  fresh : ∀ args, fired[i]? = some (.enqueue args) → args.msgId ∉ s.outbox.store.keys →
    args.msgId ∉ s'.outbox.store.keys

/-- What call `i`, started by the `i`-th event, guarantees. -/
structure Guarantee (known : List MsgId) (maxEntries : ℕ) (fired : List (Event MsgId)) (i : ℕ)
    (e : Event MsgId) (s s' : Drainer MsgId) : Prop where
  event : fired[i]? = some e
  segment : Segment i e s s'
  inv : Inv known maxEntries s → Inv known maxEntries s'

theorem Follows.refl (s : Drainer MsgId) : Follows s s :=
  ⟨List.prefix_refl _, fun entry hentry => ⟨entry, hentry, ⟨rfl, rfl, rfl⟩, Or.inl rfl⟩⟩

theorem Follows.trans {s s' s'' : Drainer MsgId} (h : Follows s s') (h' : Follows s' s'') :
    Follows s s'' := by
  refine ⟨h.1.trans h'.1, fun entry hentry => ?_⟩
  obtain ⟨e₁, he₁, ⟨hid₁, hc₁, hb₁⟩, hs₁⟩ := h.2 entry hentry
  obtain ⟨e₂, he₂, ⟨hid₂, hc₂, hb₂⟩, hs₂⟩ := h'.2 e₁ he₁
  refine ⟨e₂, he₂, ⟨hid₂.trans hid₁, hc₂.trans hc₁, hb₂.trans hb₁⟩, ?_⟩
  rw [hid₁] at hs₂
  rcases hs₂ with hsame | hanswer
  · rw [hsame]
    rcases hs₁ with hsame₁ | ⟨hsent, hok⟩ | ⟨hfailed, hnotOk⟩
    · exact Or.inl hsame₁
    · exact Or.inr (Or.inl ⟨hsent, h'.1.subset hok⟩)
    · exact Or.inr (Or.inr ⟨hfailed, h'.1.subset hnotOk⟩)
  · exact Or.inr hanswer

theorem Segment.refl (i : ℕ) (e : Event MsgId) (s : Drainer MsgId) : Segment i e s s :=
  ⟨rfl, Follows.refl s, fun hd _ => ⟨hd, rfl, rfl, Extends.refl _⟩, fun _ hk => Or.inl hk⟩

theorem Segment.trans {i : ℕ} {e : Event MsgId} {s s' s'' : Drainer MsgId} (h : Segment i e s s')
    (h' : Segment i e s' s'') : Segment i e s s'' := by
  refine ⟨h'.events.trans h.events, h.follows.trans h'.follows, fun hd hne => ?_, fun k hk => ?_⟩
  · obtain ⟨hd₁, hi₁, hb₁, hext₁⟩ := h.others hd hne
    obtain ⟨hd₂, hi₂, hb₂, hext₂⟩ := h'.others hd₁ (by rw [hi₁]; exact hne)
    exact ⟨hd₂, hi₂.trans hi₁, hb₂.trans hb₁, hext₁.trans hext₂⟩
  · rcases h'.adds k hk with hold | hnew
    · exact h.adds k hold
    · exact Or.inr hnew

section Calls

variable {known : List MsgId} {maxEntries : ℕ} {fired : List (Event MsgId)} {i : ℕ}
  {e : Event MsgId} {s s' : Drainer MsgId}

theorem Guarantee.refl (hevent : fired[i]? = some e) (s : Drainer MsgId) :
    Guarantee known maxEntries fired i e s s :=
  ⟨hevent, Segment.refl i e s, id⟩

theorem Guarantee.trans {s'' : Drainer MsgId} (h : Guarantee known maxEntries fired i e s s')
    (h' : Guarantee known maxEntries fired i e s' s'') :
    Guarantee known maxEntries fired i e s s'' :=
  ⟨h.event, h.segment.trans h'.segment, fun hs => h'.inv (h.inv hs)⟩

/-! ## Transactions -/

/-- **A transaction**: what is known before it takes effect and what is known
after have to be stable. -/
theorem transaction_triple {R G : Drainer MsgId → Drainer MsgId → Prop} {α : Type}
    {act : ℕ → Outbox MsgId → Outbox MsgId} {result : Outbox MsgId → α}
    {U : Drainer MsgId → Prop} {V : α → Drainer MsgId → Prop} (refl : ∀ s, G s s)
    (hU : ∀ s s', U s → R s s' → U s') (hV : ∀ a s s', V a s → R s s' → V a s')
    (hact : ∀ now s, U s → G s { s with outbox := act now s.outbox } ∧
      V (result s.outbox) { s with outbox := act now s.outbox }) (hs : U s) :
    Co.Triple R G (fun s x => ∃ a, x = .ok a ∧ V a s) (transaction act result) s := by
  refine ⟨trivial, refl s, fun r s' _ hR => ?_⟩
  obtain ⟨hG, hres⟩ := hact r.now s' (hU s s' hs hR)
  exact ⟨trivial, hG, fun _ s'' _ hR' => ⟨refl s'', _, rfl, hV _ _ _ hres hR'⟩⟩

/-! ## The drain -/

/-- The drain of event `i` runs. -/
structure Holder (known : List MsgId) (maxEntries : ℕ) (i : ℕ) (s : Drainer MsgId) : Prop where
  inv : Inv known maxEntries s
  draining : s.draining = true
  drain : s.drain = i
  event : i < s.events

/-- The drain is between two entries, with room for `left` more. -/
structure AtTop (known : List MsgId) (maxEntries : ℕ) (i left : ℕ) (s : Drainer MsgId) : Prop where
  holder : Holder known maxEntries i s
  balanced : Balanced none s.bridge s.outbox.store
  room : s.bridge.countP (sentBy i) + left ≤ MAX_DRAIN_PER_CYCLE

/-- The drain holds a pending entry that it has read. -/
def Reads (entry : OutboxEntry MsgId) (s : Drainer MsgId) : Prop :=
  entry ∈ s.outbox.store.records ∧ entry.status = .pending

/-- The bridge answered for the entry and the answer is not yet written down. -/
structure Answered (known : List MsgId) (maxEntries : ℕ) (i left : ℕ) (entry : OutboxEntry MsgId)
    (outcome : BridgeSend) (s : Drainer MsgId) : Prop where
  holder : Holder known maxEntries i s
  reads : Reads entry s
  answer : ∃ bridge, s.bridge =
      bridge ++ [.sending i entry.msgId, .returned entry.msgId outcome] ∧
    Balanced none bridge s.outbox.store
  room : s.bridge.countP (sentBy i) + left ≤ MAX_DRAIN_PER_CYCLE

variable {left : ℕ} {entry : OutboxEntry MsgId} {outcome : BridgeSend}

theorem Holder.stable (h : Holder known maxEntries i s) (hR : Rely known maxEntries fired i s s') :
    Holder known maxEntries i s' ∧ s'.bridge = s.bridge ∧
      Extends s.outbox.store s'.outbox.store := by
  obtain ⟨hd, hi, hb, hext⟩ := hR.mine h.draining h.drain
  exact ⟨⟨hR.inv h.inv, hd, hi.trans h.drain, Nat.lt_of_lt_of_le h.event hR.events⟩, hb, hext⟩

theorem AtTop.stable (h : AtTop known maxEntries i left s)
    (hR : Rely known maxEntries fired i s s') : AtTop known maxEntries i left s' := by
  obtain ⟨hholder, hb, hext⟩ := h.holder.stable hR
  refine ⟨hholder, ?_, ?_⟩
  · rw [hb]
    exact h.balanced.extends hext
  · rw [hb]
    exact h.room

theorem Answered.stable (h : Answered known maxEntries i left entry outcome s)
    (hR : Rely known maxEntries fired i s s') :
    Answered known maxEntries i left entry outcome s' := by
  obtain ⟨hholder, hb, hext⟩ := h.holder.stable hR
  obtain ⟨bridge, hbridge, hbalanced⟩ := h.answer
  refine ⟨hholder, ⟨hext.1 _ h.reads.1, h.reads.2⟩, ⟨bridge, ?_, hbalanced.extends hext⟩, ?_⟩
  · rw [hb, hbridge]
  · rw [hb]
    exact h.room

/-- What the drain itself does to the drainer. -/
theorem Holder.guarantee (hevent : fired[i]? = some e) (h : Holder known maxEntries i s)
    (hevents : s'.events = s.events) (hfollows : Follows s s')
    (hkeys : ∀ k ∈ s'.outbox.store.keys, k ∈ s.outbox.store.keys)
    (hinv : Inv known maxEntries s') : Guarantee known maxEntries fired i e s s' :=
  ⟨hevent, ⟨hevents, hfollows, fun _ hne => absurd h.drain hne, fun k hk => Or.inl (hkeys k hk)⟩,
    fun _ => hinv⟩

/-- An update of the entry in hand that the bridge accounts for. -/
theorem Holder.update (fn : OutboxEntry MsgId → OutboxEntry MsgId) (hevent : fired[i]? = some e)
    (h : Holder known maxEntries i s) (hreads : Reads entry s)
    (hfn : ∀ e, (fn e).msgId = e.msgId ∧ (fn e).channelId = e.channelId ∧ (fn e).bundle = e.bundle)
    (hstatus : (fn entry).status = entry.status ∨
      (fn entry).status = .sent ∧ .returned entry.msgId .ok ∈ s.bridge ∨
      (fn entry).status = .failed ∧ .returned entry.msgId .notOk ∈ s.bridge) :
    Guarantee known maxEntries fired i e s
        { s with outbox := s.outbox.updateEntry entry.msgId fn } ∧
      Holder known maxEntries i { s with outbox := s.outbox.updateEntry entry.msgId fn } := by
  have hput : s.outbox.store.update entry.msgId fn = s.outbox.store.put (fn entry) :=
    ObjectStore.update_of_mem hreads.1
  have hkeys : ∀ k ∈ (s.outbox.store.update entry.msgId fn).keys, k ∈ s.outbox.store.keys := by
    intro k hk
    rw [hput] at hk
    rcases ObjectStore.mem_keys_put.mp hk with rfl | hold
    · exact (hfn entry).1 ▸ List.mem_map_of_mem hreads.1
    · exact hold
  have hinv : Inv known maxEntries { s with outbox := s.outbox.updateEntry entry.msgId fn } := by
    refine ⟨h.inv.accounting, fun k hk => h.inv.keys k (hkeys k hk), h.inv.maxEntries,
      h.inv.numbered, fun hidle => ?_⟩
    rw [h.draining] at hidle
    cases hidle
  refine ⟨h.guarantee hevent rfl ⟨List.prefix_refl _, fun entry' hentry' => ?_⟩ hkeys hinv,
    ⟨hinv, h.draining, h.drain, h.event⟩⟩
  show ∃ entry'' ∈ (s.outbox.store.update entry.msgId fn).records, _
  rw [hput]
  by_cases hid : entry'.msgId = entry.msgId
  · have heq := ObjectStore.eq_of_key hentry' hreads.1 hid
    subst heq
    exact ⟨fn entry', ObjectStore.mem_put.mpr (Or.inl rfl), hfn entry', hstatus⟩
  · refine ⟨entry', ObjectStore.mem_put.mpr (Or.inr ⟨hentry', ?_⟩), ⟨rfl, rfl, rfl⟩, Or.inl rfl⟩
    rw [(hfn entry).1]
    exact hid

/-- More at the bridge. -/
theorem Holder.bridged (hevent : fired[i]? = some e) (h : Holder known maxEntries i s)
    (more : List (BridgeEvent MsgId)) (hmore : Accounting (s.bridge ++ more))
    (hnumbered : ∀ drain msgId, .sending drain msgId ∈ more → drain = i) :
    Guarantee known maxEntries fired i e s { s with bridge := s.bridge ++ more } ∧
      Holder known maxEntries i { s with bridge := s.bridge ++ more } := by
  have hinv : Inv known maxEntries { s with bridge := s.bridge ++ more } := by
    refine ⟨hmore, h.inv.keys, h.inv.maxEntries, fun drain msgId hmem => ?_, fun hidle => ?_⟩
    · rcases List.mem_append.mp hmem with hold | hnew
      · exact h.inv.numbered drain msgId hold
      · exact hnumbered drain msgId hnew ▸ h.event
    · rw [h.draining] at hidle
      cases hidle
  refine ⟨h.guarantee hevent rfl ⟨List.prefix_append _ _, fun entry hentry => ?_⟩
    (fun _ hk => hk) hinv, ⟨hinv, h.draining, h.drain, h.event⟩⟩
  exact ⟨entry, hentry, ⟨rfl, rfl, rfl⟩, Or.inl rfl⟩

theorem nextPending_triple (hevent : fired[i]? = some e) (h : AtTop known maxEntries i left s) :
    Co.Triple (Rely known maxEntries fired i) (Guarantee known maxEntries fired i e)
      (fun s x => ∃ entry?, x = .ok entry? ∧ AtTop known maxEntries i left s ∧
        ∀ entry, entry? = some entry → Reads entry s) nextPending s := by
  refine transaction_triple (V := fun entry? s => AtTop known maxEntries i left s ∧
    ∀ entry, entry? = some entry → Reads entry s) (Guarantee.refl hevent)
    (fun _ _ hs hR => hs.stable hR) ?_ (fun _ s hs => ⟨Guarantee.refl hevent s, hs, ?_⟩) h
  · rintro entry? s s' ⟨hs, hreads⟩ hR
    refine ⟨hs.stable hR, fun entry hentry => ?_⟩
    exact ⟨(hs.holder.stable hR).2.2.1 entry (hreads entry hentry).1, (hreads entry hentry).2⟩
  · intro entry hentry
    have hpending := List.find?_some hentry
    exact ⟨List.mem_of_find?_eq_some hentry, of_decide_eq_true hpending⟩

/-- What `bridgeSend` leaves. -/
def Sent (known : List MsgId) (maxEntries : ℕ) (i left : ℕ) (entry : OutboxEntry MsgId)
    (s : Drainer MsgId) : Except JsError Bool → Prop
  | .ok true => Answered known maxEntries i left entry .ok s
  | .ok false => Answered known maxEntries i left entry .notOk s
  | .error _ => Answered known maxEntries i left entry .thrown s

theorem bridgeSend_triple (hevent : fired[i]? = some e)
    (h : AtTop known maxEntries i (left + 1) s) (hreads : Reads entry s) :
    Co.Triple (Rely known maxEntries fired i) (Guarantee known maxEntries fired i e)
      (Sent known maxEntries i left entry) (bridgeSend i entry) s := by
  obtain ⟨hok, hfew, -⟩ := h.balanced.owed entry hreads.1 hreads.2 (by simp)
  obtain ⟨hsending, hholder⟩ := h.holder.bridged hevent
    [.sending i entry.msgId]
    (h.holder.inv.accounting.sending h.balanced.answered hok
      (Nat.lt_of_lt_of_le (Nat.lt_succ_of_le (Nat.le_add_right _ _)) h.room))
    (fun drain msgId hmem => by simp at hmem; exact hmem.1)
  refine ⟨trivial, hsending, fun r s' _ hR => ?_⟩
  obtain ⟨hholder', hb, hext⟩ := hholder.stable hR
  have hbridge : s'.bridge = s.bridge ++ [.sending i entry.msgId] := hb
  have hbalanced := h.balanced.extends hext
  have hone : s'.bridge.countP isReturned < s'.bridge.countP isSending := by
    rw [hbridge, List.countP_append, List.countP_append, h.balanced.answered]
    exact Nat.lt_succ_self _
  have hrefused : r.bridgeSend = .notOk → refusals s'.bridge entry.msgId < MAX_OUTBOX_ATTEMPTS := by
    intro _
    rw [hbridge]
    simpa [refusals, List.count_append] using hfew
  obtain ⟨hreturned, hholder''⟩ := hholder'.bridged hevent
    [.returned entry.msgId r.bridgeSend]
    (hholder'.inv.accounting.returned hone hrefused)
    (fun drain msgId hmem => by simp at hmem)
  have hanswered : Answered known maxEntries i left entry r.bridgeSend
      { s' with bridge := s'.bridge ++ [.returned entry.msgId r.bridgeSend] } := by
    refine ⟨hholder'', ⟨hext.1 _ hreads.1, hreads.2⟩, ⟨s.bridge, ?_, hbalanced⟩, ?_⟩
    · show s'.bridge ++ _ = _
      rw [hbridge, List.append_assoc]
      rfl
    · show (s'.bridge ++ _).countP (sentBy i) + left ≤ _
      rw [hbridge, List.append_assoc, List.countP_append]
      have hroom := h.room
      have htwo : ([.sending i entry.msgId] ++ [.returned entry.msgId r.bridgeSend] :
          List (BridgeEvent MsgId)).countP (sentBy i) = 1 := by
        simp [sentBy]
      rw [htwo]
      omega
  show Outcome.Sat _ _ _ _ s' ((Co.ofExcept r.bridgeSend.result : DrainCo MsgId Bool) _)
  generalize r.bridgeSend = outcome at hreturned hanswered ⊢
  cases outcome with
  | ok => exact ⟨hreturned, hanswered⟩
  | notOk => exact ⟨hreturned, hanswered⟩
  | thrown => exact ⟨hreturned, hanswered⟩

theorem markSent_triple (hevent : fired[i]? = some e)
    (h : Answered known maxEntries i left entry .ok s) :
    Co.Triple (Rely known maxEntries fired i) (Guarantee known maxEntries fired i e)
      (fun s x => ∃ a, x = .ok a ∧ AtTop known maxEntries i left s) (markSent entry.msgId) s := by
  refine transaction_triple (V := fun _ => AtTop known maxEntries i left) (Guarantee.refl hevent)
    (fun _ _ hs hR => hs.stable hR) (fun _ _ _ hs hR => hs.stable hR) (fun _ s hs => ?_) h
  obtain ⟨bridge, hbridge, hbalanced⟩ := hs.answer
  have haccepted : .returned entry.msgId .ok ∈ s.bridge := by
    rw [hbridge]
    simp
  obtain ⟨hupdate, hholder⟩ := hs.holder.update (fun e => { e with status := .sent }) hevent
    hs.reads (fun _ => ⟨rfl, rfl, rfl⟩) (Or.inr (Or.inl ⟨rfl, haccepted⟩))
  refine ⟨hupdate, hholder, ?_, hs.room⟩
  show Balanced none s.bridge _
  rw [hbridge]
  exact (hbalanced.answer hs.reads.1).settle (fun _ => rfl) hs.reads.1 fun hp => nomatch hp

/-- The entry as `markFailed` leaves it is owed, if it is still pending. -/
theorem markFailed_triple (hevent : fired[i]? = some e)
    (h : Answered known maxEntries i left entry .notOk s) :
    Co.Triple (Rely known maxEntries fired i) (Guarantee known maxEntries fired i e)
      (fun s x => ∃ a, x = .ok a ∧ AtTop known maxEntries i left s) (markFailed entry.msgId) s := by
  refine transaction_triple (V := fun _ => AtTop known maxEntries i left) (Guarantee.refl hevent)
    (fun _ _ hs hR => hs.stable hR) (fun _ _ _ hs hR => hs.stable hR) (fun now s hs => ?_) h
  obtain ⟨bridge, hbridge, hbalanced⟩ := hs.answer
  have hrefused : .returned entry.msgId .notOk ∈ s.bridge := by
    rw [hbridge]
    simp
  have hstatus : ∀ b : Bool, (if b then OutboxStatus.failed else .pending) = entry.status ∨
      (if b then OutboxStatus.failed else .pending) = .failed := by
    intro b
    rw [hs.reads.2]
    cases b
    · exact Or.inl rfl
    · exact Or.inr rfl
  obtain ⟨hupdate, hholder⟩ : Guarantee known maxEntries fired i e s
        { s with outbox := s.outbox.markFailed entry.msgId now } ∧
      Holder known maxEntries i { s with outbox := s.outbox.markFailed entry.msgId now } :=
    hs.holder.update _ hevent hs.reads (fun _ => ⟨rfl, rfl, rfl⟩)
      ((hstatus _).imp_right fun hfailed => Or.inr ⟨hfailed, hrefused⟩)
  refine ⟨hupdate, hholder, ?_, hs.room⟩
  show Balanced none s.bridge _
  rw [hbridge]
  refine (hbalanced.answer hs.reads.1).settle (fun _ => rfl) hs.reads.1 fun hp => ?_
  obtain ⟨hok, -, hcount⟩ := hbalanced.owed entry hs.reads.1 hs.reads.2 (by simp)
  have hrefusals : refusals (bridge ++ [.sending i entry.msgId, .returned entry.msgId .notOk])
      entry.msgId = refusals bridge entry.msgId + 1 := by
    simp [refusals, List.count_append]
  have hfew : entry.attempts + 1 < MAX_OUTBOX_ATTEMPTS := by
    by_contra hge
    have hterminal : (if decide (entry.attempts + 1 ≥ MAX_OUTBOX_ATTEMPTS) = true
        then OutboxStatus.failed else .pending) = .pending := hp
    rw [decide_eq_true (Nat.le_of_not_lt hge)] at hterminal
    cases hterminal
  refine ⟨by simp [hok], ?_, ?_⟩
  · rw [hrefusals]
    exact Nat.lt_of_le_of_lt (Nat.succ_le_succ hcount) hfew
  · rw [hrefusals]
    exact Nat.succ_le_succ hcount

/-- The loop leaves the accounts settled, also when `bridgeSend` threw. -/
theorem drainLoop_triple (hevent : fired[i]? = some e) :
    ∀ {left : ℕ} {s : Drainer MsgId}, AtTop known maxEntries i left s →
      Co.Triple (Rely known maxEntries fired i) (Guarantee known maxEntries fired i e)
        (fun s _ => AtTop known maxEntries i 0 s) (drainLoop i left) s := by
  intro left
  induction left with
  | zero =>
      intro s h
      exact Co.Triple.value (Guarantee.refl hevent) h
  | succ left ih =>
      intro s h
      have hless : ∀ {n : ℕ} {s : Drainer MsgId}, AtTop known maxEntries i n s →
          AtTop known maxEntries i 0 s := fun hs =>
        ⟨hs.holder, hs.balanced, Nat.le_trans (Nat.le_add_right _ _) hs.room⟩
      refine (nextPending_triple hevent h).bind (fun _ _ _ => Guarantee.trans) ?_ ?_
      · rintro s₁ entry? ⟨_, hentry, hs₁, hreads⟩
        cases hentry
        cases entry? with
        | none => exact Co.Triple.value (Guarantee.refl hevent) (hless hs₁)
        | some entry =>
            refine (bridgeSend_triple hevent hs₁ (hreads entry rfl)).bind
              (fun _ _ _ => Guarantee.trans) ?_ ?_
            · intro s₂ ok hs₂
              cases ok with
              | true =>
                  refine (markSent_triple hevent hs₂).bind (fun _ _ _ => Guarantee.trans) ?_ ?_
                  · rintro s₃ _ ⟨_, -, hs₃⟩
                    exact ih hs₃
                  · rintro s₃ err ⟨_, herr, -⟩
                    cases herr
              | false =>
                  refine (markFailed_triple hevent hs₂).mono ?_
                  rintro s₃ _ ⟨_, -, hs₃⟩
                  exact hless hs₃
            · intro s₂ err hs₂
              obtain ⟨bridge, hbridge, hbalanced⟩ := hs₂.answer
              refine ⟨hs₂.holder, ?_, Nat.le_trans (Nat.le_add_right _ _) hs₂.room⟩
              rw [hbridge]
              exact hbalanced.thrown hs₂.reads.1
      · rintro s₁ err ⟨_, herr, -⟩
        cases herr

/-- A drain that starts in settled accounts leaves them settled. -/
theorem drainOn_triple (hevent : fired[i]? = some e) (hs : Inv known maxEntries s)
    (hnew : ∀ msgId, .sending i msgId ∉ s.bridge) (hi : i < s.events) :
    Co.Triple (Rely known maxEntries fired i) (Guarantee known maxEntries fired i e)
      (fun _ _ => True) (drainOn i) s := by
  cases hd : s.draining with
  | true =>
      have hreturn : (drainOn i : DrainCo MsgId Unit) s = .ret s () := by
        simp only [drainOn, Co.bind_apply, Co.get_apply, Outcome.bind, Co.ite_apply, hd, if_true,
          Co.pure_apply]
      unfold Co.Triple
      rw [hreturn]
      exact ⟨Guarantee.refl hevent s, trivial⟩
  | false =>
      have hbody : (drainOn i : DrainCo MsgId Unit) s =
          ((modify fun s => { s with draining := true, drain := i }) >>= fun _ =>
            Co.attempt (drainLoop i MAX_DRAIN_PER_CYCLE) >>= fun _ =>
              modify fun s => { s with draining := false } : DrainCo MsgId Unit) s := by
        simp only [drainOn, Co.bind_apply, Co.get_apply, Outcome.bind, Co.ite_apply, hd,
          Bool.false_eq_true, if_false]
      have hnone : s.bridge.countP (sentBy i) = 0 := by
        refine List.countP_eq_zero.mpr fun e he hsent => ?_
        cases e with
        | sending drain msgId =>
            have hdrain : drain = i := of_decide_eq_true hsent
            exact hnew msgId (hdrain ▸ he)
        | returned msgId outcome => cases hsent
      have htaken : AtTop known maxEntries i MAX_DRAIN_PER_CYCLE
          { s with draining := true, drain := i } := by
        refine ⟨⟨⟨hs.accounting, hs.keys, hs.maxEntries, hs.numbered, fun h => ?_⟩, rfl, rfl, hi⟩,
          hs.idle hd, ?_⟩
        · cases h
        · show s.bridge.countP (sentBy i) + MAX_DRAIN_PER_CYCLE ≤ _
          rw [hnone, Nat.zero_add]
      have hfollows : ∀ draining drain (s : Drainer MsgId),
          Follows s { s with draining := draining, drain := drain } := fun _ _ s =>
        ⟨List.prefix_refl _, fun entry hentry => ⟨entry, hentry, ⟨rfl, rfl, rfl⟩, Or.inl rfl⟩⟩
      unfold Co.Triple
      rw [hbody]
      refine Co.Triple.assign_bind (fun _ _ _ => Guarantee.trans) ?_ ?_
      · refine ⟨hevent, ⟨rfl, hfollows _ _ _, fun h => ?_, fun _ hk => Or.inl hk⟩, ?_⟩
        · rw [hd] at h
          cases h
        · exact fun _ => htaken.holder.inv
      · refine Co.Triple.attempt_bind (fun _ _ _ => Guarantee.trans)
          (drainLoop_triple hevent htaken) fun s' _ hs' => ?_
        have hinv : Inv known maxEntries { s' with draining := false } :=
          ⟨hs'.holder.inv.accounting, hs'.holder.inv.keys, hs'.holder.inv.maxEntries,
            hs'.holder.inv.numbered, fun _ => hs'.balanced⟩
        exact Co.Triple.assign
          (hs'.holder.guarantee hevent rfl (hfollows _ _ _) (fun _ hk => hk) hinv) trivial

/-! ## The enqueue -/

/-- Below the cap a fresh entry is put and nothing is evicted. -/
theorem enqueue_below_cap {args : EnqueueArgs MsgId} {outbox : Outbox MsgId}
    (hknown : ∀ k ∈ outbox.store.keys, k ∈ known) (hfresh : args.msgId ∉ outbox.store.keys)
    (hmsgId : args.msgId ∈ known) (hcap : known.length ≤ outbox.maxEntries) :
    outbox.enqueue args = { outbox with store := outbox.store.put (Outbox.newEntry args) } := by
  have hsub : (args.msgId :: outbox.store.keys).Subperm known := by
    have hnodup := List.nodup_cons.mpr ⟨hfresh, outbox.store.keys_nodup⟩
    refine List.subperm_of_subset hnodup fun k hk => ?_
    rcases List.mem_cons.mp hk with rfl | hold
    · exact hmsgId
    · exact hknown k hold
  have hcount : outbox.store.count < outbox.maxEntries := by
    have hlength := hsub.length_le
    rw [List.length_cons, ObjectStore.length_keys] at hlength
    exact Nat.lt_of_lt_of_le hlength hcap
  unfold Outbox.enqueue
  exact if_neg (Nat.not_le_of_lt hcount)

theorem enqueue_triple {args : EnqueueArgs MsgId} (hevent : fired[i]? = some (.enqueue args))
    (hmsgId : args.msgId ∈ known) (hcap : known.length ≤ maxEntries)
    (hs : Inv known maxEntries s) (hfresh : args.msgId ∉ s.outbox.store.keys) :
    Co.Triple (Rely known maxEntries fired i) (Guarantee known maxEntries fired i (.enqueue args))
      (fun _ _ => True) (enqueue args) s := by
  refine Co.Triple.mono (transaction_triple (V := fun _ _ => True)
    (U := fun s => Inv known maxEntries s ∧ args.msgId ∉ s.outbox.store.keys)
    (Guarantee.refl hevent) (fun s s' h hR => ⟨hR.inv h.1, hR.fresh args hevent h.2⟩)
    (fun _ _ _ _ _ => trivial) (fun _ s h => ⟨?_, trivial⟩) ⟨hs, hfresh⟩) fun _ _ _ => trivial
  obtain ⟨hs, hfresh⟩ := h
  rw [enqueue_below_cap hs.keys hfresh hmsgId (hs.maxEntries.symm ▸ hcap)]
  have hext : Extends s.outbox.store (s.outbox.store.put (Outbox.newEntry args)) :=
    Extends.put hfresh
  refine ⟨hevent, ⟨rfl, ⟨List.prefix_refl _, fun entry hentry => ?_⟩, fun hd _ => ?_,
    fun k hk => ?_⟩, fun _ => ⟨hs.accounting, fun k hk => ?_, hs.maxEntries, hs.numbered,
    fun hidle => (hs.idle hidle).extends hext⟩⟩
  · exact ⟨entry, hext.1 entry hentry, ⟨rfl, rfl, rfl⟩, Or.inl rfl⟩
  · exact ⟨hd, rfl, rfl, hext⟩
  · rcases ObjectStore.mem_keys_put.mp hk with rfl | hold
    · exact Or.inr ⟨args, rfl, rfl⟩
    · exact Or.inl hold
  · rcases ObjectStore.mem_keys_put.mp hk with rfl | hold
    · exact hmsgId
    · exact hs.keys k hold

end Calls

/-! ## Runs -/

/-- The ids that a schedule enqueues. -/
def enqueued (fired : List (Event MsgId)) : List MsgId :=
  fired.filterMap fun
    | .online => none
    | .enqueue args => some args.msgId

section Runs

variable {known : List MsgId} {maxEntries : ℕ} {fired : List (Event MsgId)}

omit [LinearOrder MsgId] in
theorem enqueued_ne (hnodup : (enqueued fired).Nodup) {i j : ℕ} {args args' : EnqueueArgs MsgId}
    (hne : i ≠ j) (hi : fired[i]? = some (.enqueue args)) (hj : fired[j]? = some (.enqueue args')) :
    args.msgId ≠ args'.msgId := by
  have hpair : ∀ {i j : ℕ} {args args' : EnqueueArgs MsgId}, i < j →
      fired[i]? = some (.enqueue args) → fired[j]? = some (.enqueue args') →
      args.msgId ≠ args'.msgId := by
    intro i j args args' hlt hi hj
    obtain ⟨hi', hgi⟩ := List.getElem?_eq_some_iff.mp hi
    obtain ⟨hj', hgj⟩ := List.getElem?_eq_some_iff.mp hj
    have hpairwise := List.pairwise_iff_getElem.mp (List.pairwise_filterMap.mp hnodup) i j hi' hj' hlt
    rw [hgi, hgj] at hpairwise
    exact hpairwise _ rfl _ rfl
  rcases Nat.lt_or_gt_of_ne hne with hlt | hgt
  · exact hpair hlt hi hj
  · exact (hpair hgt hj hi).symm

/-- A new event is counted before its call does anything. -/
def Fires (s s₀ : Drainer MsgId) : Prop := s₀ = { s with events := s.events + 1 }

theorem Inv.fires {s s₀ : Drainer MsgId} (h : Inv known maxEntries s) (hf : Fires s s₀) :
    Inv known maxEntries s₀ := by
  subst hf
  exact ⟨h.accounting, h.keys, h.maxEntries,
    fun drain msgId hmem => Nat.lt_succ_of_lt (h.numbered drain msgId hmem), h.idle⟩

/-- The other calls give what a call relies on. -/
theorem Guarantee.rely {i j : ℕ} {e : Event MsgId} {s s' : Drainer MsgId}
    (hnodup : (enqueued fired).Nodup) (hne : i ≠ j)
    (h : Guarantee known maxEntries fired i e s s') : Rely known maxEntries fired j s s' := by
  refine ⟨Nat.le_of_eq h.segment.events.symm, h.inv, fun hd hdrain => ?_, fun args hj hold hk => ?_⟩
  · exact h.segment.others hd fun hi => hne (hi.symm.trans hdrain)
  · rcases h.segment.adds _ hk with hold' | ⟨args', rfl, hid⟩
    · exact hold hold'
    · exact enqueued_ne hnodup hne h.event hj hid

theorem Rely.trans {j : ℕ} {s s' s'' : Drainer MsgId} (h : Rely known maxEntries fired j s s')
    (h' : Rely known maxEntries fired j s' s'') : Rely known maxEntries fired j s s'' := by
  refine ⟨Nat.le_trans h.events h'.events, fun hs => h'.inv (h.inv hs), fun hd hdrain => ?_,
    fun args hj hold => h'.fresh args hj (h.fresh args hj hold)⟩
  obtain ⟨hd₁, hi₁, hb₁, hext₁⟩ := h.mine hd hdrain
  obtain ⟨hd₂, hi₂, hb₂, hext₂⟩ := h'.mine hd₁ (hi₁.trans hdrain)
  exact ⟨hd₂, hi₂.trans hi₁, hb₂.trans hb₁, hext₁.trans hext₂⟩

/-- `k` events were handled, and the outbox holds entries of these and initial
ones only. -/
structure Counted (initial : List MsgId) (fired : List (Event MsgId)) (maxEntries k : ℕ)
    (s : Drainer MsgId) : Prop where
  events : s.events = k
  inv : Inv (initial ++ enqueued fired) maxEntries s
  keys : ∀ id ∈ s.outbox.store.keys, id ∈ initial ∨ id ∈ enqueued (fired.take k)

omit [LinearOrder MsgId] in
theorem mem_enqueued_take {i k : ℕ} {args : EnqueueArgs MsgId}
    (hi : fired[i]? = some (.enqueue args)) (hlt : i < k) :
    args.msgId ∈ enqueued (fired.take k) := by
  refine List.mem_filterMap.mpr ⟨.enqueue args, ?_, rfl⟩
  refine List.mem_of_getElem? (i := i) ?_
  rw [List.getElem?_take_of_lt hlt, hi]

variable {initial : List MsgId}

omit [LinearOrder MsgId] in
theorem exists_of_mem_take {k : ℕ} {id : MsgId} (h : id ∈ enqueued (fired.take k)) :
    ∃ j args, j < k ∧ fired[j]? = some (.enqueue args) ∧ args.msgId = id := by
  obtain ⟨e, he, hid⟩ := List.mem_filterMap.mp h
  obtain ⟨j, hj⟩ := List.mem_iff_getElem?.mp he
  cases e with
  | online => cases hid
  | enqueue args =>
      have hlt : j < k := by
        by_contra hge
        rw [List.getElem?_take_eq_none (Nat.le_of_not_lt hge)] at hj
        cases hj
      rw [List.getElem?_take_of_lt hlt] at hj
      exact ⟨j, args, hlt, hj, Option.some.inj hid⟩

theorem Counted.segment {i k : ℕ} {e : Event MsgId} {s s' : Drainer MsgId}
    (h : Counted initial fired maxEntries k s) (hi : i < k)
    (hsegment : Guarantee (initial ++ enqueued fired) maxEntries fired i e s s') :
    Counted initial fired maxEntries k s' := by
  refine ⟨hsegment.segment.events.trans h.events, hsegment.inv h.inv, fun id hid => ?_⟩
  rcases hsegment.segment.adds id hid with hold | ⟨args, rfl, rfl⟩
  · exact h.keys id hold
  · exact Or.inr (mem_enqueued_take hsegment.event hi)

theorem Counted.fires {k : ℕ} {s s₀ : Drainer MsgId} (h : Counted initial fired maxEntries k s)
    (hf : Fires s s₀) : Counted initial fired maxEntries (k + 1) s₀ := by
  refine ⟨?_, h.inv.fires hf, fun id hid => ?_⟩
  · rw [hf, h.events]
  · have hkeys : s₀.outbox.store.keys = s.outbox.store.keys := by rw [hf]
    rw [hkeys] at hid
    refine (h.keys id hid).imp_right fun hold => ?_
    have hsub : (fired.take k).Sublist (fired.take (k + 1)) :=
      (List.take_prefix_take_left (Nat.le_succ k)).sublist
    exact (hsub.filterMap _).subset hold

theorem compatible (hnodup : (enqueued fired).Nodup) :
    Pool.Compatible (ρ := DrainReply) (Counted initial fired maxEntries) (fun _ _ _ => True)
      (fun _ _ => Fires) (Guarantee (initial ++ enqueued fired) maxEntries fired)
      (Rely (initial ++ enqueued fired) maxEntries fired) where
  refl := fun _ s => ⟨Nat.le_refl _, id, fun hd _ => ⟨hd, rfl, rfl, Extends.refl _⟩,
    fun _ _ h => h⟩
  trans := fun _ _ _ _ => Rely.trans
  start := by
    rintro i j e s s₀ s' hj - hfires hsegment -
    refine Rely.trans ?_ (hsegment.rely hnodup (Nat.ne_of_gt hj))
    refine ⟨?_, fun hs => hs.fires hfires, ?_, ?_⟩ <;> subst hfires
    · exact Nat.le_succ _
    · exact fun hd _ => ⟨hd, rfl, rfl, Extends.refl _⟩
    · exact fun _ _ h => h
  resume := fun _ _ _ _ _ _ hne hsegment _ => hsegment.rely hnodup hne
  enters := fun _ _ _ _ _ hcount hfires hsegment =>
    (hcount.fires hfires).segment (Nat.lt_succ_self _) hsegment
  counts := fun _ _ _ _ _ hi hcount hsegment => hcount.segment hi hsegment

/-- Every event opens a call that keeps its part. -/
theorem handle_opens (hnodup : (initial ++ enqueued fired).Nodup)
    (hcap : (initial ++ enqueued fired).length ≤ maxEntries) {k : ℕ} {e : Event MsgId}
    {s : Drainer MsgId} (hs : Counted initial fired maxEntries k s) (hevent : fired[k]? = some e) :
    Pool.Opens (fun _ _ => Fires) (Guarantee (initial ++ enqueued fired) maxEntries fired)
      (Rely (initial ++ enqueued fired) maxEntries fired) (fun _ _ _ _ => True) handle k e s := by
  have hfires : Fires s { s with events := s.events + 1 } := rfl
  have hs₀ := hs.fires hfires
  refine ⟨{ s with events := s.events + 1 }, hfires, ?_⟩
  obtain ⟨hevents, hinv, hkeys⟩ := hs
  subst hevents
  cases e with
  | online =>
      refine drainOn_triple hevent hs₀.inv (fun msgId hmem => ?_) (Nat.lt_succ_self _)
      exact Nat.lt_irrefl _ (hinv.numbered _ msgId hmem)
  | enqueue args =>
      have hmem : args.msgId ∈ enqueued fired := by
        have hlt := (List.getElem?_eq_some_iff.mp hevent).1
        have htake := mem_enqueued_take hevent hlt
        rwa [List.take_length] at htake
      refine enqueue_triple hevent (List.mem_append_right _ hmem) hcap hs₀.inv fun hold => ?_
      rcases hkeys _ hold with hinitial | htake
      · exact (List.nodup_append.mp hnodup).2.2 _ hinitial _ hmem rfl
      · obtain ⟨j, args', hlt, hj, hid⟩ := exists_of_mem_take htake
        exact enqueued_ne (List.nodup_append.mp hnodup).2.1 (Nat.ne_of_lt hlt) hj hevent hid


/-! ### Every call ends -/

theorem transaction_endsIn {α : Type} (act : ℕ → Outbox MsgId → Outbox MsgId)
    (result : Outbox MsgId → α) : (transaction act result).EndsIn 2 :=
  fun _ _ _ _ _ => trivial

theorem bridgeSend_endsIn (drain : ℕ) (entry : OutboxEntry MsgId) :
    (bridgeSend drain entry).EndsIn 1 :=
  (Co.EndsIn.assign _).bind fun _ => Co.EndsIn.suspend.bind fun _ =>
    (Co.EndsIn.assign _).bind fun _ => Co.EndsIn.ofExcept (n := 0) _

theorem drainLoop_endsIn (drain : ℕ) : ∀ left,
    (drainLoop drain left : DrainCo MsgId Unit).EndsIn (5 * left) := by
  intro left
  induction left with
  | zero => exact Co.EndsIn.value ()
  | succ left ih =>
      have hsum : 5 * (left + 1) = 2 + (1 + (2 + 5 * left)) := by omega
      rw [hsum]
      unfold drainLoop
      refine (transaction_endsIn _ _).bind fun entry? => ?_
      cases entry? with
      | none => exact Co.EndsIn.value ()
      | some entry =>
          refine (bridgeSend_endsIn drain entry).bind fun ok => ?_
          cases ok with
          | true =>
              have hsent : (markSent entry.msgId).EndsIn 2 := transaction_endsIn _ _
              exact hsent.bind fun _ => ih
          | false =>
              have hfailed : (markFailed entry.msgId).EndsIn 2 := transaction_endsIn _ _
              exact hfailed.mono (Nat.le_add_right _ _)

theorem drainOn_endsIn (drain : ℕ) :
    (drainOn drain : DrainCo MsgId Unit).EndsIn (5 * MAX_DRAIN_PER_CYCLE) := by
  refine Co.EndsIn.read fun s => ?_
  cases s.draining with
  | true => exact Co.EndsIn.value ()
  | false =>
      have hloop : (Co.attempt (drainLoop drain MAX_DRAIN_PER_CYCLE) :
          DrainCo MsgId (Except JsError Unit)).EndsIn (5 * MAX_DRAIN_PER_CYCLE) :=
        Co.EndsIn.attempt (drainLoop_endsIn drain _)
      rw [← Nat.zero_add (5 * MAX_DRAIN_PER_CYCLE)]
      exact (Co.EndsIn.assign _).bind fun _ => hloop.bind fun _ => Co.EndsIn.assign _

theorem handle_endsIn (e : Event MsgId) : (handle e).EndsIn (5 * MAX_DRAIN_PER_CYCLE) := by
  refine Co.EndsIn.read fun s : Drainer MsgId => ?_
  rw [← Nat.zero_add (5 * MAX_DRAIN_PER_CYCLE)]
  refine (Co.EndsIn.assign _).bind fun _ => ?_
  cases e with
  | online => exact drainOn_endsIn s.events
  | enqueue args =>
      have htwo : 2 ≤ 5 * MAX_DRAIN_PER_CYCLE := by decide
      have henqueue : (enqueue args).EndsIn 2 := transaction_endsIn _ _
      exact henqueue.mono htwo

/-! ### The whole run -/

/-- The outbox of the drainer stays below its cap, and every enqueued id is new. -/
structure FreshBelowCap (outbox : Outbox MsgId) (fired : List (Event MsgId)) : Prop where
  fresh : (outbox.store.keys ++ enqueued fired).Nodup
  belowCap : outbox.store.count + (enqueued fired).length ≤ outbox.maxEntries

section Whole

variable {outbox : Outbox MsgId} {ms pre post : List (Move (Event MsgId) DrainReply)}

theorem run_opens {e : Event MsgId} (h : FreshBelowCap outbox (starts ms))
    (heq : ms = pre ++ .start e :: post)
    (hpre : Counted outbox.store.keys (starts ms) outbox.maxEntries (run outbox pre).calls.length
      (run outbox pre).shared) :
    Pool.Opens (fun _ _ => Fires)
      (Guarantee (outbox.store.keys ++ enqueued (starts ms)) outbox.maxEntries (starts ms))
      (Rely (outbox.store.keys ++ enqueued (starts ms)) outbox.maxEntries (starts ms))
      (fun _ _ _ _ => True) handle (run outbox pre).calls.length e (run outbox pre).shared := by
  have hcap : (outbox.store.keys ++ enqueued (starts ms)).length ≤ outbox.maxEntries := by
    rw [List.length_append, ObjectStore.length_keys]
    exact h.belowCap
  refine handle_opens h.fresh hcap hpre ?_
  have hsplit : starts ms = starts pre ++ e :: starts post := by
    rw [heq, starts_append]
    rfl
  rw [hsplit, show (run outbox pre).calls.length = (starts pre).length from Pool.exec_length pre]
  simp

theorem startOutboxDrainer_counted (fired : List (Event MsgId)) :
    Counted outbox.store.keys fired outbox.maxEntries 0 (startOutboxDrainer outbox) := by
  refine ⟨rfl, ⟨Accounting.nil, fun k hk => List.mem_append_left _ hk, rfl, ?_, fun _ => ?_⟩,
    fun id hid => Or.inl hid⟩
  · intro drain msgId hmem
    cases hmem
  · refine ⟨rfl, ?_, fun entry _ _ _ => owed_of_unknown ?_⟩
    · intro e he
      cases he
    · intro e he
      cases he

theorem run_sound (h : FreshBelowCap outbox (starts ms)) (heq : ms = pre ++ post) :
    (run outbox pre).Sound (Counted outbox.store.keys (starts ms) outbox.maxEntries)
      (Guarantee (outbox.store.keys ++ enqueued (starts ms)) outbox.maxEntries (starts ms))
      (Rely (outbox.store.keys ++ enqueued (starts ms)) outbox.maxEntries (starts ms))
      (fun _ _ _ _ => True) := by
  refine Pool.exec_sound (compatible (List.nodup_append.mp h.fresh).2.1)
    (Pool.fresh_sound (startOutboxDrainer_counted _)) pre (fun _ _ _ _ => trivial)
    fun pre' e post' heq' hpre => ?_
  have hsplit : ms = pre' ++ .start e :: (post' ++ post) := by
    rw [heq, heq', List.append_assoc]
    rfl
  exact run_opens h hsplit hpre.count

/-- Every step keeps the entries. -/
theorem step_follows {mv : Move (Event MsgId) DrainReply} (h : FreshBelowCap outbox (starts ms))
    (heq : ms = pre ++ mv :: post) :
    Follows (run outbox pre).shared ((run outbox pre).step handle mv).shared := by
  have hpre := run_sound h heq
  have hcase := hpre.stepCase (compatible (List.nodup_append.mp h.fresh).2.1) mv
    fun e hmv => run_opens h (hmv ▸ heq) hpre.count
  generalize (run outbox pre).step handle mv = p' at hcase
  cases hcase with
  | idle m hidle =>
      rw [hidle]
      exact Follows.refl _
  | start e s₀ st hfires hsegment hcalls hsettled =>
      refine Follows.trans ?_ hsegment.segment.follows
      rw [hfires]
      exact Follows.refl _
  | resume i e r k st hi hsegment hcalls hsettled => exact hsegment.segment.follows

end Whole

/-- **The accounts of the drainer.** Over an outbox that stays below its cap, for
every schedule of `online` events, fresh enqueues and outcomes of `bridgeSend`:
the bridge's accounts are in order, an entry that is pending at some time is
still there at the end and pending unless the bridge has answered for it, and
every call — every drain, with its at most 50 sends — ends. -/
theorem drains_account (outbox : Outbox MsgId) (ms : List (Move (Event MsgId) DrainReply))
    (h : FreshBelowCap outbox (starts ms)) :
    Accounting (run outbox ms).shared.bridge ∧
      (∀ pre post, ms = pre ++ post →
        Follows (run outbox pre).shared (run outbox ms).shared) ∧
      ∀ pre e post, ms = pre ++ .start e :: post →
        5 * MAX_DRAIN_PER_CYCLE ≤ post.countP (Pool.resumes (starts pre).length) →
        ∃ x, (run outbox ms).calls[(starts pre).length]? = some ⟨e, .settled x⟩ := by
  refine ⟨(run_sound h (List.append_nil ms).symm).count.inv.accounting, ?_, ?_⟩
  · rintro pre post rfl
    have hrun : run outbox (pre ++ post) = (run outbox pre).exec handle post :=
      Pool.exec_append pre post
    rw [hrun]
    refine Pool.exec_keeps (Follows.refl _) fun post₁ mv post₂ heq hfollows => ?_
    have hsplit : pre ++ post = (pre ++ post₁) ++ mv :: post₂ := by
      rw [heq, List.append_assoc]
    have hstep := step_follows h hsplit
    rw [show run outbox (pre ++ post₁) = _ from Pool.exec_append pre post₁] at hstep
    exact hfollows.trans hstep
  · rintro pre e post rfl hcount
    exact Pool.exec_settles (handle_endsIn e) hcount

/-! ### A run -/

def sampleEntry (msgId : ℕ) : OutboxEntry ℕ := ⟨msgId, [], [], 0, 0, .pending⟩

def sampleOutbox : Outbox ℕ :=
  ⟨(ObjectStore.empty.put (sampleEntry 1)).put (sampleEntry 3), MESH_OUTBOX_MAX_ENTRIES⟩

/-- An `online` event, a second one while the first entry is on its way, an
enqueue between the two sends, and a refusal. -/
def sampleRun : List (Move (Event ℕ) DrainReply) :=
  [.start .online, .resume 0 ⟨.ok, 0⟩, .resume 0 ⟨.ok, 0⟩, .start .online, .resume 0 ⟨.ok, 0⟩,
    .start (.enqueue ⟨2, [], [], none⟩), .resume 2 ⟨.ok, 0⟩, .resume 0 ⟨.ok, 0⟩,
    .resume 0 ⟨.ok, 0⟩, .resume 0 ⟨.ok, 0⟩, .resume 0 ⟨.ok, 0⟩, .resume 0 ⟨.notOk, 7⟩,
    .resume 0 ⟨.ok, 7⟩, .resume 0 ⟨.ok, 7⟩]

theorem drains_account_sample :
    (run sampleOutbox sampleRun).shared.bridge =
        [.sending 0 1, .returned 1 .ok, .sending 0 2, .returned 2 .notOk] ∧
      Accounting (run sampleOutbox sampleRun).shared.bridge ∧
      Follows (run sampleOutbox []).shared (run sampleOutbox sampleRun).shared := by
  have hfresh : FreshBelowCap sampleOutbox (starts sampleRun) := ⟨by decide, by decide⟩
  obtain ⟨hbridge, hfollows, -⟩ := drains_account sampleOutbox sampleRun hfresh
  exact ⟨by decide +kernel, hbridge, hfollows [] sampleRun rfl⟩

end Runs

end Drainer

end Oxpulse.MeshCore
