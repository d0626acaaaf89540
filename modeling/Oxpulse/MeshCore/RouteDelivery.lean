import Oxpulse.Foundation.PromiseAll
import Oxpulse.MeshCore.RouteOutgoing

/-!
# What a routed bundle reaches

A call of `routeOutgoing` waits for the token, for the bridge and for the frames to
the peers, and these settle at times of their own. `routeOutgoing` here says how the
call stands when so much of it has settled; with everything settled it ends as the
coroutine does (`result_eq_run`), and so it does where it has a result before
(`run_of_result`).

The strategy that it resolves with is that of the branch it took. It reports what
happened unless the bridge said no, a peer failed without a text, or the outbox lost
the entry at its commit (`strategy_reports_iff`). In dual mode the frames wait for the
token, and the call waits for the frames only as long as nothing fails
(`backup_delivers_iff`).

The sink of the metrics is taken to return.
-/

namespace Oxpulse.MeshCore

open Oxpulse.Coroutine Oxpulse.Crypto

/-- What the calls have settled with so far. A call that was not made has no reply. -/
structure Replies (peers : ℕ) : Type where
  getToken : Option (Except JsError Unit)
  bridgeSend : Option BridgeSend
  sendFrame : Settled peers BleFailure Unit
  getOutbox : Option (Except JsError Unit)
  enqueue : Option Transaction

/-- No frame has settled. -/
def Replies.unsent {peers : ℕ} (getToken : Option (Except JsError Unit))
    (bridgeSend : Option BridgeSend) : Replies peers :=
  ⟨getToken, bridgeSend, ⟨[], List.nodup_nil⟩, none, none⟩

/-- How a call stands: what it has called, and how it has settled. -/
structure RouteCall : Type where
  bridged : Bool := false
  attempted : List String := []
  enqueued : Bool := false
  result : Option (Except JsError RouteResult) := none

/-- `ob.enqueue` resolves with the request of its put. -/
def Transaction.result : Transaction → Except JsError Unit
  | .stored => .ok ()
  | .requestFails e => .error e
  | .commitFails => .ok ()

namespace RouteCall

/-- `Promise.all([bridgeSend(…), sendToBle(…).catch(…)])`, once the bridge has settled. -/
def dualResult (bridgeSend : BridgeSend) (sendToBle : Option (Except BleFailure Unit)) :
    Option (Except JsError RouteResult) :=
  match bridgeSend.result with
  | .error e => some (.error e)
  | .ok bridgeResult =>
      match sendToBle with
      | none => none
      | some (.ok ()) => some (.ok ⟨.onlineBle, some bridgeResult, none⟩)
      | some (.error failure) =>
          -- an empty text is as good as none
          let strategy := if failure.message = "" then .onlineBle else .online
          some (.ok ⟨strategy, some bridgeResult, some failure.message⟩)

def routeOutgoing (snapshot : Snapshot) (replies : Replies snapshot.peers.length) : RouteCall :=
  let hasBle : Bool := snapshot.peers.length > 0
  if snapshot.online && !hasBle then
    match replies.getToken with
    | none => {}
    | some (.error e) => { result := some (.error e) }
    | some (.ok ()) =>
        { bridged := true
          result := replies.bridgeSend.map fun bridgeSend =>
            bridgeSend.result.map fun bridgeResult => ⟨.online, some bridgeResult, none⟩ }
  else if !snapshot.online && hasBle then
    { attempted := snapshot.peers
      result := replies.sendFrame.all.map fun sendToBle =>
        (sendToBle.mapError BleFailure.error).map fun () => ⟨.ble, none, none⟩ }
  else if snapshot.online && hasBle then
    match replies.getToken with
    | none => {}
    | some (.error e) => { result := some (.error e) }
    | some (.ok ()) =>
        { bridged := true
          attempted := snapshot.peers
          result := replies.bridgeSend.bind fun bridgeSend =>
            dualResult bridgeSend replies.sendFrame.all }
  else
    match replies.getOutbox with
    | none => {}
    | some (.error e) => { result := some (.error e) }
    | some (.ok ()) =>
        { enqueued := true
          result := replies.enqueue.map fun enqueue =>
            enqueue.result.map fun () => ⟨.queued, none, none⟩ }

/-! ## The coroutine -/

section Run

variable {MsgId : Type} [LinearOrder MsgId]

/-- The replies to a call that runs alone from the state `s`. An `Outbox` that another
call has published is not opened again, and has no database before it is open. -/
structure Alone (s : Outgoing MsgId) (reply : RouteReply) {peers : ℕ} (replies : Replies peers) :
    Prop where
  getToken : replies.getToken = some reply.getToken
  bridgeSend : replies.bridgeSend = some reply.bridgeSend
  sendFrame : replies.sendFrame.all = some reply.sendToBle
  getOutbox : replies.getOutbox = some (if s.published || s.db then .ok () else reply.outboxOpen)
  enqueue : replies.enqueue = some
    (if s.published && !s.db then .requestFails (.error "Outbox: call open() first")
      else reply.enqueue)

/-- **With everything settled**, the call ends as the coroutine that gets these
replies. -/
theorem result_eq_run {s : Outgoing MsgId} {reply : RouteReply} {snapshot : Snapshot}
    {replies : Replies snapshot.peers.length} (h : Alone s reply replies) (n : ℕ)
    (args : RouteOutgoingArgs MsgId) :
    (routeOutgoing snapshot replies).result =
      some ((Outgoing.routeOutgoing n snapshot args).run reply s).2 := by
  obtain ⟨online, peers⟩ := snapshot
  obtain ⟨getToken?, bridgeSend?, sendFrame, getOutbox?, enqueue?⟩ := replies
  obtain ⟨outboxOpen, enqueue, getToken, bridgeSend, sendToBle⟩ := reply
  obtain ⟨hgetToken, hbridgeSend, hsendFrame, hgetOutbox, henqueue⟩ := h
  dsimp only at hgetToken hbridgeSend hsendFrame hgetOutbox henqueue
  subst hgetToken hbridgeSend hgetOutbox henqueue
  cases online with
  | true =>
      cases getToken with
      | error e => cases peers <;> rfl
      | ok _ =>
          cases peers with
          | nil => cases bridgeSend <;> rfl
          | cons peer peers =>
              show dualResult bridgeSend sendFrame.all = _
              rw [hsendFrame]
              cases bridgeSend <;> cases sendToBle <;> rfl
  | false =>
      cases peers with
      | nil =>
          obtain ⟨published, db, outbox, started, stage, failures⟩ := s
          cases published <;> cases db <;> cases outboxOpen <;> cases enqueue <;> rfl
      | cons peer peers =>
          show sendFrame.all.map _ = _
          rw [hsendFrame]
          cases sendToBle <;> rfl

end Run

/-! ## How a call settles -/

variable {snapshot : Snapshot} {replies replies' : Replies snapshot.peers.length}

theorem bridged_iff : (routeOutgoing snapshot replies).bridged = true ↔
    snapshot.online = true ∧ replies.getToken = some (.ok ()) := by
  obtain ⟨online, peers⟩ := snapshot
  obtain ⟨getToken, bridgeSend, sendFrame, getOutbox, enqueue⟩ := replies
  cases online <;> cases peers <;> rcases getToken with _ | ⟨e | _⟩ <;>
    rcases getOutbox with _ | ⟨e | _⟩ <;> simp [routeOutgoing]

/-- The frames wait for the token, in dual mode. -/
theorem attempted_eq (htoken : snapshot.online = true → replies.getToken = some (.ok ())) :
    (routeOutgoing snapshot replies).attempted = snapshot.peers := by
  obtain ⟨online, peers⟩ := snapshot
  obtain ⟨getToken, bridgeSend, sendFrame, getOutbox, enqueue⟩ := replies
  cases online with
  | true =>
      cases htoken rfl
      cases peers <;> rfl
  | false =>
      cases peers with
      | nil => rcases getOutbox with _ | ⟨e | _⟩ <;> rfl
      | cons peer peers => rfl

theorem attempted_offline (honline : snapshot.online = false) :
    (routeOutgoing snapshot replies).attempted = snapshot.peers := by
  refine attempted_eq fun h => ?_
  rw [honline] at h
  cases h

theorem enqueued_iff : (routeOutgoing snapshot replies).enqueued = true ↔
    snapshot.online = false ∧ snapshot.peers = [] ∧ replies.getOutbox = some (.ok ()) := by
  obtain ⟨online, peers⟩ := snapshot
  obtain ⟨getToken, bridgeSend, sendFrame, getOutbox, enqueue⟩ := replies
  cases online <;> cases peers <;> rcases getToken with _ | ⟨e | _⟩ <;>
    rcases getOutbox with _ | ⟨e | _⟩ <;> simp [routeOutgoing]

/-- More has settled. -/
structure Extends {peers : ℕ} (replies' replies : Replies peers) : Prop where
  getToken : ∀ r, replies.getToken = some r → replies'.getToken = some r
  bridgeSend : ∀ r, replies.bridgeSend = some r → replies'.bridgeSend = some r
  sendFrame : ∃ more, replies'.sendFrame.events = replies.sendFrame.events ++ more
  getOutbox : ∀ r, replies.getOutbox = some r → replies'.getOutbox = some r
  enqueue : ∀ r, replies.enqueue = some r → replies'.enqueue = some r

/-- What a call with a result has waited for, and the result. -/
inductive Ends (snapshot : Snapshot) (replies : Replies snapshot.peers.length) :
    Except JsError RouteResult → Prop where
  | noToken (e : JsError) (online : snapshot.online = true)
      (getToken : replies.getToken = some (.error e)) : Ends snapshot replies (.error e)
  | bridge (bridgeSend : BridgeSend) (online : snapshot.online = true) (peers : snapshot.peers = [])
      (getToken : replies.getToken = some (.ok ()))
      (replied : replies.bridgeSend = some bridgeSend) :
      Ends snapshot replies
        (bridgeSend.result.map fun bridgeResult => ⟨.online, some bridgeResult, none⟩)
  | ble (sendToBle : Except BleFailure Unit) (online : snapshot.online = false)
      (peers : snapshot.peers ≠ []) (sent : replies.sendFrame.all = some sendToBle) :
      Ends snapshot replies
        ((sendToBle.mapError BleFailure.error).map fun () => ⟨.ble, none, none⟩)
  | dual (bridgeSend : BridgeSend) (result : Except JsError RouteResult)
      (online : snapshot.online = true) (peers : snapshot.peers ≠ [])
      (getToken : replies.getToken = some (.ok ()))
      (replied : replies.bridgeSend = some bridgeSend)
      (joined : dualResult bridgeSend replies.sendFrame.all = some result) :
      Ends snapshot replies result
  | noOutbox (e : JsError) (online : snapshot.online = false) (peers : snapshot.peers = [])
      (getOutbox : replies.getOutbox = some (.error e)) : Ends snapshot replies (.error e)
  | queued (enqueue : Transaction) (online : snapshot.online = false) (peers : snapshot.peers = [])
      (getOutbox : replies.getOutbox = some (.ok ())) (replied : replies.enqueue = some enqueue) :
      Ends snapshot replies (enqueue.result.map fun () => ⟨.queued, none, none⟩)

theorem ends_of_result {result : Except JsError RouteResult}
    (h : (routeOutgoing snapshot replies).result = some result) : Ends snapshot replies result := by
  obtain ⟨online, peers⟩ := snapshot
  obtain ⟨getToken, bridgeSend, sendFrame, getOutbox, enqueue⟩ := replies
  cases online with
  | true =>
      rcases getToken with _ | ⟨e | _⟩
      · cases peers <;> cases h
      · cases peers <;> cases h <;> exact .noToken e rfl rfl
      · cases peers with
        | nil =>
            rcases bridgeSend with _ | bridgeSend
            · cases h
            · cases h
              exact .bridge bridgeSend rfl rfl rfl rfl
        | cons peer peers =>
            rcases bridgeSend with _ | bridgeSend
            · cases h
            · exact .dual bridgeSend result rfl nofun rfl rfl h
  | false =>
      cases peers with
      | nil =>
          rcases getOutbox with _ | ⟨e | _⟩
          · cases h
          · cases h
            exact .noOutbox e rfl rfl rfl
          · rcases enqueue with _ | enqueue
            · cases h
            · cases h
              exact .queued enqueue rfl rfl rfl rfl
      | cons peer peers =>
          obtain ⟨sendToBle, hsent, rfl⟩ := Option.map_eq_some_iff.mp h
          exact .ble sendToBle rfl nofun hsent

theorem result_of_ends {result : Except JsError RouteResult} (h : Ends snapshot replies result) :
    (routeOutgoing snapshot replies).result = some result := by
  obtain ⟨online, peers⟩ := snapshot
  obtain ⟨getToken, bridgeSend, sendFrame, getOutbox, enqueue⟩ := replies
  cases h with
  | noToken e honline hgetToken =>
      cases honline
      cases hgetToken
      cases peers <;> rfl
  | bridge bridgeSend honline hpeers hgetToken hreplied =>
      cases honline
      cases hpeers
      cases hgetToken
      cases hreplied
      rfl
  | ble sendToBle honline hpeers hsent =>
      cases honline
      cases peers with
      | nil => exact absurd rfl hpeers
      | cons peer peers => exact Option.map_eq_some_iff.mpr ⟨sendToBle, hsent, rfl⟩
  | dual bridgeSend result honline hpeers hgetToken hreplied hjoined =>
      cases honline
      cases hgetToken
      cases hreplied
      cases peers with
      | nil => exact absurd rfl hpeers
      | cons peer peers => exact hjoined
  | noOutbox e honline hpeers hgetOutbox =>
      cases honline
      cases hpeers
      cases hgetOutbox
      rfl
  | queued enqueue honline hpeers hgetOutbox hreplied =>
      cases honline
      cases hpeers
      cases hgetOutbox
      cases hreplied
      rfl

theorem thrown_of_dualResult {bridgeSend : BridgeSend}
    {sendToBle : Option (Except BleFailure Unit)} {e : JsError}
    (h : dualResult bridgeSend sendToBle = some (.error e)) : bridgeSend = .thrown := by
  rcases sendToBle with _ | ⟨failure | _⟩ <;> cases bridgeSend <;> first | rfl | cases h

/-- Unless the bridge rejects, the result waits for the frames. -/
theorem sent_of_dualResult {bridgeSend : BridgeSend} {sendToBle : Option (Except BleFailure Unit)}
    {result : Except JsError RouteResult} (h : dualResult bridgeSend sendToBle = some result)
    (hbridge : bridgeSend ≠ .thrown) : ∃ sent, sendToBle = some sent := by
  cases sendToBle with
  | some sent => exact ⟨sent, rfl⟩
  | none =>
      cases bridgeSend with
      | ok => cases h
      | notOk => cases h
      | thrown => exact absurd rfl hbridge

theorem dualResult_stays {bridgeSend : BridgeSend} {sendToBle sendToBle' : Option (Except BleFailure Unit)}
    {result : Except JsError RouteResult} (h : dualResult bridgeSend sendToBle = some result)
    (hsent : ∀ r, sendToBle = some r → sendToBle' = some r) :
    dualResult bridgeSend sendToBle' = some result := by
  cases sendToBle with
  | none =>
      cases bridgeSend with
      | ok => cases h
      | notOk => cases h
      | thrown => exact h
  | some sent =>
      rw [hsent sent rfl]
      exact h

/-- **A result stays**, whatever settles later. -/
theorem result_stays {result : Except JsError RouteResult} (hmore : Extends replies' replies)
    (h : (routeOutgoing snapshot replies).result = some result) :
    (routeOutgoing snapshot replies').result = some result := by
  obtain ⟨more, hevents⟩ := hmore.sendFrame
  apply result_of_ends
  cases ends_of_result h with
  | noToken e online getToken => exact .noToken e online (hmore.getToken _ getToken)
  | bridge bridgeSend online peers getToken replied =>
      exact .bridge bridgeSend online peers (hmore.getToken _ getToken)
        (hmore.bridgeSend _ replied)
  | ble sendToBle online peers sent =>
      exact .ble sendToBle online peers (Settled.all_stays hevents sent)
  | dual bridgeSend _ online peers getToken replied joined =>
      refine .dual bridgeSend result online peers (hmore.getToken _ getToken)
        (hmore.bridgeSend _ replied) ?_
      exact dualResult_stays joined fun _ => Settled.all_stays hevents
  | noOutbox e online peers getOutbox =>
      exact .noOutbox e online peers (hmore.getOutbox _ getOutbox)
  | queued enqueue online peers getOutbox replied =>
      exact .queued enqueue online peers (hmore.getOutbox _ getOutbox) (hmore.enqueue _ replied)

/-- **A result is the coroutine's**, however early the call has it. -/
theorem run_of_result {MsgId : Type} [LinearOrder MsgId] {s : Outgoing MsgId} {reply : RouteReply}
    {result : Except JsError RouteResult} (hmore : Extends replies' replies)
    (hsettled : Alone s reply replies') (n : ℕ) (args : RouteOutgoingArgs MsgId)
    (h : (routeOutgoing snapshot replies).result = some result) :
    ((Outgoing.routeOutgoing n snapshot args).run reply s).2 = result := by
  have hstays := result_stays hmore h
  rw [result_eq_run hsettled n args] at hstays
  exact Option.some.inj hstays

end RouteCall

open RouteCall

/-! ## What the strategy reports -/

def RouteStrategy.hasOnline : RouteStrategy → Bool
  | .online => true
  | .onlineBle => true
  | .ble => false
  | .queued => false

def RouteStrategy.hasBle : RouteStrategy → Bool
  | .ble => true
  | .onlineBle => true
  | .online => false
  | .queued => false

/-- The strategy says what happened. -/
@[mk_iff]
structure Reports (snapshot : Snapshot) (replies : Replies snapshot.peers.length)
    (result : RouteResult) : Prop where
  online : result.strategy.hasOnline = true ↔
    (routeOutgoing snapshot replies).bridged = true ∧ replies.bridgeSend = some .ok
  ble : result.strategy.hasBle = true ↔
    (routeOutgoing snapshot replies).attempted ≠ [] ∧
      ∀ i, (i, .ok ()) ∈ replies.sendFrame.events
  queued : result.strategy = .queued ↔
    (routeOutgoing snapshot replies).enqueued = true ∧ replies.enqueue = some .stored

/-- The bridge did not say no, the first peer that failed did so with a text, and the
outbox did not lose the entry at its commit. -/
@[mk_iff]
structure Reportable (snapshot : Snapshot) (replies : Replies snapshot.peers.length) : Prop where
  bridge : snapshot.online = true → replies.bridgeSend ≠ some .notOk
  ble : snapshot.online = true → ∀ failure, replies.sendFrame.firstError = some failure →
    failure.message ≠ ""
  outbox : snapshot.online = false → snapshot.peers = [] → replies.enqueue ≠ some .commitFails

section Reporting

variable {snapshot : Snapshot} {replies : Replies snapshot.peers.length}

/-- Without a peer none has failed. -/
theorem firstError_of_nil (hpeers : snapshot.peers = []) : replies.sendFrame.firstError = none := by
  refine Settled.firstError_eq_none.mpr fun i => ?_
  have hlt : (i : ℕ) < 0 := lt_of_lt_of_eq i.isLt (congrArg List.length hpeers)
  exact absurd hlt (Nat.not_lt_zero _)

theorem sent_iff : replies.sendFrame.all = some (.ok ()) ↔
    ∀ i, (i, .ok ()) ∈ replies.sendFrame.events := by
  rw [Settled.all_resolved_iff]
  refine forall_congr' fun i => ⟨?_, fun h => ⟨(), h⟩⟩
  rintro ⟨⟨⟩, h⟩
  exact h

end Reporting

/-- **The strategy reports what happened** if and only if the bridge did not say no, the
first peer that failed gave a text, and the outbox kept the entry at its commit. -/
theorem strategy_reports_iff {snapshot : Snapshot} {replies : Replies snapshot.peers.length}
    {result : RouteResult} (h : (routeOutgoing snapshot replies).result = some (.ok result)) :
    Reports snapshot replies result ↔ Reportable snapshot replies := by
  have hends := ends_of_result h
  generalize hok : (Except.ok result : Except JsError RouteResult) = x at hends
  rw [reports_iff, reportable_iff, bridged_iff, enqueued_iff, ← sent_iff]
  cases hends with
  | noToken e online getToken => cases hok
  | noOutbox e online peers getOutbox => cases hok
  | bridge bridgeSend online peers getToken replied =>
      have hattempted : (routeOutgoing snapshot replies).attempted = snapshot.peers :=
        attempted_eq fun _ => getToken
      have hfirst : replies.sendFrame.firstError = none := firstError_of_nil peers
      cases bridgeSend with
      | thrown => cases hok
      | ok =>
          cases hok
          simp [RouteStrategy.hasOnline, RouteStrategy.hasBle, online, peers, getToken, replied,
            hattempted, hfirst]
      | notOk =>
          cases hok
          simp [RouteStrategy.hasOnline, RouteStrategy.hasBle, online, peers, getToken, replied,
            hattempted, hfirst]
  | ble sendToBle online peers sent =>
      have hattempted : (routeOutgoing snapshot replies).attempted = snapshot.peers :=
        attempted_offline online
      cases sendToBle with
      | error failure => cases hok
      | ok _ =>
          cases hok
          simp [RouteStrategy.hasOnline, RouteStrategy.hasBle, online, peers, sent, hattempted]
  | dual bridgeSend _ online peers getToken replied joined =>
      subst hok
      have hattempted : (routeOutgoing snapshot replies).attempted = snapshot.peers :=
        attempted_eq fun _ => getToken
      cases hsent : replies.sendFrame.all with
      | none =>
          rw [hsent] at joined
          cases bridgeSend <;> cases joined
      | some sent =>
          rw [hsent] at joined
          cases sent with
          | ok _ =>
              have hfirst : replies.sendFrame.firstError = none := by
                cases hfirst : replies.sendFrame.firstError with
                | none => rfl
                | some failure =>
                    rw [Settled.all_rejected_iff.mpr hfirst] at hsent
                    cases hsent
              cases bridgeSend <;> cases joined <;>
                simp [RouteStrategy.hasOnline, RouteStrategy.hasBle, online, peers, getToken, replied,
                  hattempted, hfirst]
          | error failure =>
              have hfirst := Settled.all_rejected_iff.mp hsent
              by_cases hmessage : failure.message = "" <;> cases bridgeSend <;> cases joined <;>
                simp [RouteStrategy.hasOnline, RouteStrategy.hasBle, online, peers, getToken, replied,
                  hattempted, hfirst, hmessage]
  | queued enqueue online peers getOutbox replied =>
      have hattempted : (routeOutgoing snapshot replies).attempted = snapshot.peers :=
        attempted_offline online
      cases enqueue with
      | requestFails e => cases hok
      | stored =>
          cases hok
          simp [RouteStrategy.hasOnline, RouteStrategy.hasBle, online, peers, getOutbox, replied,
            hattempted]
      | commitFails =>
          cases hok
          simp [RouteStrategy.hasOnline, RouteStrategy.hasBle, online, peers, getOutbox, replied,
            hattempted]

/-- Both transports take the bundle. -/
def bothTake : Replies 1 :=
  ⟨some (.ok ()), some .ok, ⟨[(0, .ok ())], List.nodup_singleton 0⟩, none, none⟩

theorem strategy_reports_sample :
    Reports ⟨true, ["p1"]⟩ bothTake ⟨.onlineBle, some true, none⟩ := by
  have hresult : (routeOutgoing ⟨true, ["p1"]⟩ bothTake).result =
      some (.ok ⟨.onlineBle, some true, none⟩) := rfl
  refine (strategy_reports_iff hresult).mpr ⟨fun _ h => ?_, fun _ failure hfirst => ?_, fun h => ?_⟩
  · cases h
  · cases hfirst
  · cases h

/-- The bridge says no, without a peer. -/
def bridgeSaysNo : Replies 0 := .unsent (some (.ok ())) (some .notOk)

/-- The strategy is `online`, though nothing was delivered. -/
theorem refused_reported_online :
    ¬ ∀ (snapshot : Snapshot) (replies : Replies snapshot.peers.length) (result : RouteResult),
      (routeOutgoing snapshot replies).result = some (.ok result) →
        Reports snapshot replies result := by
  intro h
  have hreports := h ⟨true, []⟩ bridgeSaysNo ⟨.online, some false, none⟩ rfl
  cases (hreports.online.mp rfl).2

/-! ## What the call waits for in dual mode -/

/-- How the calls of dual mode settle in the end. -/
structure Outcomes (peers : ℕ) : Type where
  getToken : Except JsError Unit
  bridgeSend : BridgeSend
  sendFrame : Fin peers → Except BleFailure Unit

/-- What has settled so far has these outcomes. -/
structure Replies.Of {peers : ℕ} (replies : Replies peers) (outcomes : Outcomes peers) : Prop where
  getToken : ∀ r, replies.getToken = some r → r = outcomes.getToken
  bridgeSend : ∀ r, replies.bridgeSend = some r → r = outcomes.bridgeSend
  sendFrame : ∀ i r, (i, r) ∈ replies.sendFrame.events → r = outcomes.sendFrame i

theorem of_unsent {peers : ℕ} {outcomes : Outcomes peers} {bridgeSend : Option BridgeSend}
    (hbridge : ∀ r, bridgeSend = some r → r = outcomes.bridgeSend) :
    (Replies.unsent (some outcomes.getToken) bridgeSend).Of outcomes := by
  refine ⟨fun r hr => ?_, hbridge, fun i r hmem => ?_⟩
  · cases hr
    rfl
  · exact absurd hmem List.not_mem_nil

/-- The call that has settled has handed the bundle to every transport that takes it,
and does not end with an exception when a peer took it. -/
structure HandsOver (snapshot : Snapshot) (replies : Replies snapshot.peers.length)
    (outcomes : Outcomes snapshot.peers.length) : Prop where
  attempted : (routeOutgoing snapshot replies).attempted = snapshot.peers
  frames : ∀ i, outcomes.sendFrame i = .ok () → (i, .ok ()) ∈ replies.sendFrame.events
  bridge : outcomes.getToken = .ok () → outcomes.bridgeSend = .ok →
    (routeOutgoing snapshot replies).bridged = true ∧ replies.bridgeSend = some .ok
  told : ∀ e, (routeOutgoing snapshot replies).result = some (.error e) →
    ∀ i, outcomes.sendFrame i ≠ .ok ()

/-- The backup does not depend on the primary: whenever the call has settled, the
bundle was handed over. -/
def BackupDelivers (snapshot : Snapshot) (outcomes : Outcomes snapshot.peers.length) : Prop :=
  ∀ replies : Replies snapshot.peers.length, replies.Of outcomes →
    ∀ result, (routeOutgoing snapshot replies).result = some result →
      HandsOver snapshot replies outcomes

/-- The token is there, and either nothing fails or no peer takes the bundle. -/
structure NothingLost {peers : ℕ} (outcomes : Outcomes peers) : Prop where
  getToken : outcomes.getToken = .ok ()
  all : (outcomes.bridgeSend ≠ .thrown ∧ ∀ i, outcomes.sendFrame i = .ok ()) ∨
    ∀ i, outcomes.sendFrame i ≠ .ok ()

/-- **The backup delivers** in dual mode, at every time at which the call may settle, if
and only if the token is there and either nothing fails or no peer takes the bundle. -/
theorem backup_delivers_iff (peer : String) (peers : List String)
    (outcomes : Outcomes (peer :: peers).length) :
    BackupDelivers ⟨true, peer :: peers⟩ outcomes ↔ NothingLost outcomes := by
  constructor
  · intro h
    have htoken : outcomes.getToken = .ok () := by
      cases hgetToken : outcomes.getToken with
      | ok _ => rfl
      | error e =>
          -- The call ends before it attempts anything.
          have hover := h (.unsent (some outcomes.getToken) none) (of_unsent nofun) (.error e) (by
            rw [hgetToken]
            rfl)
          have hattempted := hover.attempted
          rw [hgetToken] at hattempted
          cases hattempted
    refine ⟨htoken, ?_⟩
    by_contra hlost
    rw [not_or, not_and] at hlost
    obtain ⟨hfails, htakes⟩ := hlost
    rw [not_forall] at htakes
    obtain ⟨i, hi⟩ := htakes
    rw [not_not] at hi
    by_cases hthrown : outcomes.bridgeSend = .thrown
    · -- The bridge rejects while the frame to `i` is on its way.
      have hover := h (.unsent (some outcomes.getToken) (some outcomes.bridgeSend))
        (of_unsent fun r hr => (Option.some.inj hr).symm) (.error .library) (by
          rw [htoken, hthrown]
          rfl)
      exact List.not_mem_nil (hover.frames i hi)
    · have hsome := hfails hthrown
      rw [not_forall] at hsome
      obtain ⟨j, hj⟩ := hsome
      cases hsent : outcomes.sendFrame j with
      | ok _ => exact hj hsent
      | error failure =>
          -- The frame to `j` fails before the one to `i` is there.
          let replies : Replies (peer :: peers).length :=
            ⟨some (.ok ()), some outcomes.bridgeSend,
              ⟨[(j, .error failure)], List.nodup_singleton j⟩, none, none⟩
          have hof : replies.Of outcomes := by
            refine ⟨fun r hr => ?_, fun r hr => ?_, fun i r hmem => ?_⟩
            · cases hr
              exact htoken.symm
            · cases hr
              rfl
            · cases List.mem_singleton.mp hmem
              exact hsent.symm
          have hsettled : ∃ result,
              (routeOutgoing ⟨true, peer :: peers⟩ replies).result = some result := by
            have hall : replies.sendFrame.all = some (.error failure) :=
              Settled.all_rejected_iff.mpr rfl
            show ∃ result, dualResult outcomes.bridgeSend replies.sendFrame.all = some result
            rw [hall]
            cases outcomes.bridgeSend <;> exact ⟨_, rfl⟩
          obtain ⟨result, hresult⟩ := hsettled
          have hover := h replies hof result hresult
          cases List.mem_singleton.mp (hover.frames i hi)
  · rintro ⟨htoken, hall⟩ replies hof result hresult
    cases ends_of_result hresult with
    | noToken e online getToken =>
        have heq := hof.getToken _ getToken
        rw [htoken] at heq
        cases heq
    | bridge bridgeSend online hpeers getToken replied => cases hpeers
    | ble sendToBle online hpeers sent => cases online
    | noOutbox e online hpeers getOutbox => cases online
    | queued enqueue online hpeers getOutbox replied => cases online
    | dual bridgeSend _ online hpeers getToken replied joined =>
        have hbridge := hof.bridgeSend _ replied
        refine ⟨attempted_eq fun _ => getToken, fun i hi => ?_, fun _ hok => ?_, fun e he => ?_⟩
        · rcases hall with ⟨hnot, htake⟩ | hnone
          · obtain ⟨sent, hsent⟩ := sent_of_dualResult joined (hbridge ▸ hnot)
            cases sent with
            | ok _ => exact sent_iff.mp hsent i
            | error failure =>
                obtain ⟨j, hj⟩ := Settled.mem_of_firstError (Settled.all_rejected_iff.mp hsent)
                have heq := hof.sendFrame j _ hj
                rw [htake j] at heq
                cases heq
          · exact absurd hi (hnone i)
        · refine ⟨bridged_iff.mpr ⟨rfl, getToken⟩, ?_⟩
          rw [replied, hbridge, hok]
        · rw [hresult] at he
          cases he
          have hthrown := thrown_of_dualResult joined
          rcases hall with ⟨hnot, -⟩ | hnone
          · exact absurd (hbridge.symm.trans hthrown) hnot
          · exact hnone

/-- No token, and a peer that would take the bundle. -/
def noToken : Outcomes 1 := ⟨.error (.error "mesh-channel-token: HTTP 503"), .ok, fun _ => .ok ()⟩

/-- Nothing is sent to it. -/
theorem token_stops_backup :
    ¬ ∀ (peer : String) (peers : List String) (outcomes : Outcomes (peer :: peers).length),
      BackupDelivers ⟨true, peer :: peers⟩ outcomes := by
  intro h
  have hover := h "p1" [] noToken (.unsent (some noToken.getToken) none) (of_unsent nofun) _ rfl
  cases hover.attempted

end Oxpulse.MeshCore
