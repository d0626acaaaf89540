import Oxpulse.Crypto.InOrder
import Oxpulse.Foundation.Pauses
import Oxpulse.Transport.Framing
import Oxpulse.Transport.MeshSend

/-!
# One event after the other

What an event does to the mesh when it is let run to its end before the next one
(`Mesh.serve`): a chunk is put into its frame, a session frame is opened and delivered, a
frame is sealed, cut and written.
-/

namespace Oxpulse.Transport

open Oxpulse.Coroutine Oxpulse.Crypto

/-- The mesh after the event, played alone. -/
def Mesh.serve (P : Primitives) (e : Event) (m : Mesh) : Mesh := ((handle P e).run () m).1

section Served

variable {P : Primitives} {m : Mesh} {d : DeviceId} {ref : ℕ}

theorem serve_eq (P : Primitives) (e : Event) (m : Mesh) :
    m.serve P e = ((respond P m.calls e).run () m.number).1.land m.calls := by
  unfold Mesh.serve handle landing
  rw [Co.run_bind_ok (Co.run_get () m)]
  rw [Co.run_bind_ok (Co.run_modify () Mesh.number m)]
  rw [Co.run_bind_ok (Co.run_attempt () _ m.number)]
  cases ((respond P m.calls e).run () m.number).2 with
  | ok u => rfl
  | error err => rfl

/-- A call on a session object, played alone. -/
theorem run_onSession {α : Type} {k : ℕ} {s : RatchetSession} (s₀ : RatchetSession)
    (co : Co Unit RatchetSession JsError α) (href : ref < m.objects.length)
    (hsession : (m.object ref).session = some s) (hcount : (m.object ref).sessionCount = k) :
    (onSession ref k s₀ co).run () m =
      (m.setObject ref { m.object ref with session := some (co.run () s).1 }, (co.run () s).2) := by
  have hset : ∀ s', m.setSession ref k s' =
      m.setObject ref { m.object ref with session := some s' } := by
    intro s'
    unfold Mesh.setSession
    rw [if_pos hcount]
  have hobject : ∀ c : CryptoState, (m.setObject ref c).object ref = c :=
    fun c => object_of_set_self rfl href
  have hget : m.session ref k s₀ = s := by
    unfold Mesh.session
    rw [if_pos hcount, hsession]
    rfl
  have hrun : (onSession ref k s₀ co).run () m =
      (m.setSession ref k (co.run () (m.session ref k s₀)).1,
        (co.run () (m.session ref k s₀)).2) := by
    apply Co.Pauses.run_zoom (I := fun _ => True) ?_ ?_ (Outcome.pauses_true () _)
    · intro s' _
      rw [hset]
      unfold Mesh.session
      rw [hobject]
      exact if_pos hcount
    · intro s' s'' _
      rw [hset, hset]
      unfold Mesh.setSession
      rw [hobject]
      rw [if_pos (show (m.object ref).sessionCount = k from hcount)]
      unfold Mesh.setObject
      simp only [List.set_set]
  rw [hrun, hget, hset]

/-! ## A chunk -/

theorem serve_chunk (chunk : Bytes) (id : IdentityReplies) (hr : HandshakeReplies) (m : Mesh) :
    m.serve P (.chunk d chunk id hr) =
      match (m.reassemble d chunk).2 with
      | none => (m.number.setReassembler d (m.reassemble d chunk).1).land m.calls
      | some frame => ((routeFrame P m.calls d frame id hr).run ()
          (m.number.setReassembler d (m.reassemble d chunk).1)).1.land m.calls := by
  rw [serve_eq]
  unfold respond handleIncomingChunk
  rw [Co.run_bind_ok (Co.run_get () m.number)]
  show ((modify _ >>= _ : MeshCo Unit).run () m.number).1.land m.calls = _
  rw [Co.run_bind_ok (Co.run_modify () _ m.number)]
  show Mesh.land m.calls ((match (m.reassemble d chunk).2 with
      | none => pure ()
      | some frame => routeFrame P m.calls d frame id hr : MeshCo Unit).run ()
        (m.number.setReassembler d (m.reassemble d chunk).1)).1 = _
  cases (m.reassemble d chunk).2 with
  | none => rfl
  | some frame => rfl

/-- A chunk that does not complete its frame. -/
theorem serve_partial {chunk : Bytes} (id : IdentityReplies) (hr : HandshakeReplies)
    (hframe : (m.reassemble d chunk).2 = none) :
    ∃ calls flights, m.serve P (.chunk d chunk id hr) =
      { m with
        reassemblers := m.reassemblers.set d (m.reassemble d chunk).1
        calls := calls
        flights := flights } := by
  rw [serve_chunk, hframe]
  exact ⟨_, _, rfl⟩

/-- A chunk that completes a session frame which opens. -/
theorem serve_data {chunk payload plaintext : Bytes} {s s' : RatchetSession} (id : IdentityReplies)
    (hr : HandshakeReplies)
    (hframe : (m.reassemble d chunk).2 = some ⟨FrameType.SessionData, payload⟩)
    (hget : m.cryptoStates.get? d = some ref) (href : ref < m.objects.length)
    (hverdict : (m.object ref).verdict = .accepted) (hsession : (m.object ref).session = some s)
    (hrun : (RatchetSession.decrypt P payload []).run () s = (s', .ok plaintext)) :
    ∃ calls flights, m.serve P (.chunk d chunk id hr) =
      { m with
        reassemblers := m.reassemblers.set d (m.reassemble d chunk).1
        objects := m.objects.set ref { m.object ref with session := some s' }
        delivered := m.delivered ++ [⟨(m.object ref).peerIdHex, ref, plaintext⟩]
        calls := calls
        flights := flights } := by
  rw [serve_chunk, hframe]
  dsimp only
  let m₁ := m.number.setReassembler d (m.reassemble d chunk).1
  let m₂ := m₁.launch m.calls (.receiving ref)
  have hroute : (routeFrame P m.calls d ⟨FrameType.SessionData, payload⟩ id hr).run () m₁ =
      (receiveData P m.calls ref payload).run () m₁ := by
    unfold routeFrame
    rw [Co.run_bind_ok (Co.run_get () m₁)]
    rw [show m₁.cryptoStates.get? d = some ref from hget]
    rfl
  have hopen := run_onSession s (RatchetSession.decrypt P payload []) (m := m₂)
    href hsession rfl
  rw [hrun] at hopen
  have hdeliver : (receiveData P m.calls ref payload).run () m₁ =
      (deliver ref plaintext
        (m₂.setObject ref { m.object ref with session := some s' }), .ok ()) := by
    unfold receiveData
    rw [Co.run_bind_ok (Co.run_get () m₁)]
    rw [show (m₁.object ref).verdict = .accepted from hverdict,
      show (m₁.object ref).session = some s from hsession]
    dsimp only
    rw [Co.run_bind_ok (Co.run_modify () _ m₁), Co.run_bind_ok (Co.run_attempt () _ m₂),
      Co.run_await]
    rw [show (onSession ref (m₁.object ref).sessionCount s _).run () m₂ = _ from hopen]
    rfl
  have hid : ((m₂.setObject ref { m.object ref with session := some s' }).object ref).peerIdHex =
      (m.object ref).peerIdHex := by
    rw [object_of_set_self rfl (show ref < m₂.objects.length from href)]
  rw [hroute, hdeliver]
  unfold deliver
  rw [hid]
  exact ⟨_, _, rfl⟩

/-! ## A frame -/

theorem run_sendChunks {n : ℕ} {p : PeerIdHex} {outcome : ℕ → Except JsError Unit}
    (houtcome : ∀ i, outcome i = .ok ()) (chunks : List Bytes) :
    ∀ (i : ℕ) (m : Mesh), ∃ sent, (sendChunks n p ref d outcome chunks i).run () m =
      ({ m with written := m.written ++ chunks.map (Prod.mk d), sent := sent }, .ok ()) := by
  induction chunks with
  | nil =>
      intro i m
      refine ⟨m.sent, ?_⟩
      simp [sendChunks]
  | cons chunk chunks ih =>
      intro i m
      obtain ⟨sent, hrest⟩ := ih (i + 1) (logSent ⟨n, p, ref, d, chunk⟩ m)
      have hchunk : (sendChunk n p ref d (outcome i) chunk).run () m =
          (logSent ⟨n, p, ref, d, chunk⟩ m, .ok ()) := by
        unfold sendChunk
        rw [Co.run_bind_ok (Co.run_modify () _ m), Co.run_await, houtcome i]
        rfl
      refine ⟨sent, ?_⟩
      unfold sendChunks
      rw [Co.run_bind_ok hchunk, hrest]
      simp [logSent]

theorem sendTarget_session {p : PeerIdHex} {t : Mesh.SendTarget} (h : m.sendTarget p = .ok t) :
    (m.object t.ref).session = some t.session := by
  unfold Mesh.sendTarget at h
  split at h
  next => cases h
  next deviceId hdevice =>
    split at h
    next => cases h
    next ref' hget =>
      split at h
      next session hverdict hsession =>
        cases h
        exact hsession
      next => cases h

/-- A frame that is sealed and fits is written. -/
theorem serve_send {p : PeerIdHex} {frame wire : Bytes} {s s' : RatchetSession}
    {writeRx : ℕ → Except JsError Unit} {chunks : List Bytes} (hwrite : ∀ i, writeRx i = .ok ())
    (htarget : m.sendTarget p = .ok ⟨d, ref, s⟩)
    (hrun : (RatchetSession.encrypt P frame []).run () s = (s', .ok wire))
    (hcut : chunkFrame wire ((m.mtuCache.get? d).getD GATT_MTU_DEFAULT) FrameType.SessionData =
      .ok chunks) :
    ∃ calls flights sent, m.serve P (.sendFrame p frame writeRx) =
      { m with
        objects := m.objects.set ref { m.object ref with session := some s' }
        written := m.written ++ chunks.map (Prod.mk d)
        sent := sent
        calls := calls
        flights := flights } := by
  obtain ⟨-, husable⟩ := sendTarget_usable htarget
  have hsession := sendTarget_session htarget
  let m₁ := m.number.launch m.calls (.sending p ref d)
  have hseal := run_onSession s (RatchetSession.encrypt P frame []) (m := m₁)
    husable.lt hsession rfl
  rw [hrun] at hseal
  let m₂ := m₁.setObject ref { m.object ref with session := some s' }
  obtain ⟨sent, hchunks⟩ : ∃ sent, (sendChunks m.calls p ref d writeRx chunks 0).run () m₂ =
      ({ m₂ with written := m₂.written ++ chunks.map (Prod.mk d), sent := sent }, .ok ()) :=
    run_sendChunks hwrite chunks 0 m₂
  have hframe : (sendFrame P m.calls p frame writeRx).run () m.number =
      ({ m₂ with written := m₂.written ++ chunks.map (Prod.mk d), sent := sent }, .ok ()) := by
    unfold sendFrame
    rw [Co.run_bind_ok (Co.run_get () m.number)]
    rw [show m.number.sendTarget p = .ok ⟨d, ref, s⟩ from htarget]
    rw [Co.run_bind_ok (Co.run_ofExcept () _ m.number)]
    rw [Co.run_bind_ok (Co.run_modify () _ m.number)]
    rw [Co.run_bind_ok (show (Co.await (onSession ref _ s _)).run () m₁ = (m₂, .ok wire) by
      rw [Co.run_await]
      exact hseal)]
    rw [show chunkFrame wire ((m.number.mtuCache.get? d).getD GATT_MTU_DEFAULT) _ = _ from hcut]
    rw [Co.run_bind_ok (Co.run_ofExcept () _ m₂)]
    exact hchunks
  rw [serve_eq]
  unfold respond
  rw [hframe]
  exact ⟨_, _, _, rfl⟩

end Served

end Oxpulse.Transport
