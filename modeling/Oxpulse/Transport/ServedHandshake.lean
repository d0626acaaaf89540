import Oxpulse.Transport.Exchange
import Oxpulse.Transport.MeshCalls
import Oxpulse.Transport.Served

/-!
# A handshake, one event after the other

What the events of a handshake do to the mesh when each is let run to its end: a sighting
opens the handshake, and a handshake frame is read, answered and, when it was the last
one, concluded.
-/

namespace Oxpulse.Transport

open Oxpulse.Coroutine Oxpulse.Crypto

/-! ## A handshake call -/

/-- The session was not derived yet, and what no handshake call writes is as it was. -/
structure Held (v₀ v : HandshakeView) : Prop where
  derived : v.derived = false
  mtu : v.mtu = v₀.mtu
  now : v.now = v₀.now

section Calls

variable {P : Primitives} {deviceId : DeviceId} {v₀ v : HandshakeView} {α : Type}

theorem run_onHandshake (co : Co Unit NoiseXxHandshake JsError α) (v : HandshakeView) :
    (onHandshake co).run () v = (v.setHandshake (co.run () v.cs.handshake).1,
      (co.run () v.cs.handshake).2) :=
  Co.run_zoom (fun hs v => show (v.setHandshake hs).cs.handshake = hs from rfl)
    (fun hs hs' v => show (v.setHandshake hs').setHandshake hs = v.setHandshake hs from rfl) () co v

theorem pauses_onHandshake (co : Co Unit NoiseXxHandshake JsError α) (h : Held v₀ v) :
    (onHandshake co).Pauses (Held v₀) () v :=
  Outcome.pauses_zoom (fun _ _ hv => ⟨hv.derived, hv.mtu, hv.now⟩) () (co v.cs.handshake) h

/-- The call is awaited, and what follows finds the view held. -/
theorem pauses_onHandshake_bind {β : Type} {co : Co Unit NoiseXxHandshake JsError α}
    {f : α → Co Unit HandshakeView JsError β} (h : Held v₀ v)
    (hf : ∀ v' a, Held v₀ v' → (f a).Pauses (Held v₀) () v') :
    (Co.await (onHandshake co) >>= f).Pauses (Held v₀) () v := by
  have hheld : ∀ hs, Held v₀ (v.setHandshake hs) := fun _ => ⟨h.derived, h.mtu, h.now⟩
  apply Co.Pauses.bind
  · apply (pauses_onHandshake co h).await
    rw [run_onHandshake]
    exact hheld _
  · intro v' a hrun
    rw [Co.run_await, run_onHandshake] at hrun
    obtain ⟨rfl, -⟩ := Prod.mk.inj hrun
    exact hf _ a (hheld _)

theorem run_writeChunks {outcome : ℕ → Except JsError Unit} (houtcome : ∀ i, outcome i = .ok ())
    (chunks : List Bytes) :
    ∀ (i : ℕ) (v : HandshakeView), (writeChunks deviceId outcome chunks i).run () v =
      ({ v with written := v.written ++ chunks.map (Prod.mk deviceId) }, .ok ()) := by
  induction chunks with
  | nil =>
      intro i v
      simp [writeChunks]
  | cons chunk chunks ih =>
      intro i v
      have hwrite : (writeRx deviceId (outcome i) chunk).run () v =
          ({ v with written := v.written ++ [(deviceId, chunk)] }, .ok ()) := by
        unfold writeRx
        rw [Co.run_bind_ok (Co.run_modify () _ v), Co.run_await, houtcome i]
        rfl
      unfold writeChunks
      rw [Co.run_bind_ok hwrite, ih]
      simp

theorem pauses_writeChunks (outcome : ℕ → Except JsError Unit) (chunks : List Bytes) :
    ∀ (i : ℕ) (v : HandshakeView), Held v₀ v →
      (writeChunks deviceId outcome chunks i).Pauses (Held v₀) () v := by
  induction chunks with
  | nil => exact fun _ _ _ => Co.Pauses.value
  | cons chunk chunks ih =>
      intro i v h
      have hwritten : Held v₀ { v with written := v.written ++ [(deviceId, chunk)] } :=
        ⟨h.derived, h.mtu, h.now⟩
      unfold writeChunks
      apply Co.Pauses.bind
      · unfold writeRx
        apply Co.Pauses.assign_bind
        apply (Co.Pauses.ofExcept (outcome i)).await
        rw [Co.run_ofExcept]
        exact hwritten
      · intro v' u hrun
        apply ih
        unfold writeRx at hrun
        rw [Co.run_bind_ok (Co.run_modify () _ v), Co.run_await, Co.run_ofExcept] at hrun
        obtain ⟨rfl, -⟩ := Prod.mk.inj hrun
        exact hwritten

/-- The chunks of a message are written. -/
theorem pauses_cut (outcome : ℕ → Except JsError Unit) (x : Except JsError (List Bytes))
    (h : Held v₀ v) : (Co.ofExcept x >>= fun chunks =>
      writeChunks deviceId outcome chunks 0 : Co Unit HandshakeView JsError Unit).Pauses
        (Held v₀) () v := by
  apply (Co.Pauses.ofExcept x).bind
  intro v' chunks hrun
  rw [Co.run_ofExcept] at hrun
  obtain ⟨rfl, -⟩ := Prod.mk.inj hrun
  exact pauses_writeChunks outcome chunks 0 _ h

theorem pauses_writeAnswer (f : HandshakeFrame) (mtu : ℕ) (next : FrameType) (h : Held v₀ v) :
    (writeAnswer P deviceId f mtu next).Pauses (Held v₀) () v :=
  pauses_onHandshake_bind h fun _ _ hv => pauses_cut f.writeRx _ hv

theorem pauses_completeHandshake (v : HandshakeView) :
    (completeHandshake P).Pauses (Held v₀) () v := by
  unfold completeHandshake Co.Pauses
  simp only [Co.bind_apply, Co.get_apply, Outcome.bind, Co.ite_apply]
  split
  · cases v.cs.handshake.split P with
    | error e => trivial
    | ok split =>
        dsimp only
        cases RatchetSession.new P ⟨split.sendKey, split.recvKey, v.cs.role⟩ with
        | error e => trivial
        | ok session =>
            cases v.cs.handshake.sas with
            | error e => trivial
            | ok sas => trivial
  · trivial

theorem pauses_answer (f : HandshakeFrame) (mtu : ℕ) (next : FrameType) (h : Held v₀ v) :
    (answer P deviceId f mtu next).Pauses (Held v₀) () v := by
  unfold answer
  apply (pauses_writeAnswer f mtu next h).attempt.bind
  intro v' x _
  cases x with
  | error e => trivial
  | ok u => exact pauses_completeHandshake v'

/-- **A handshake frame** pauses in held views only. -/
theorem pauses_advanceHandshake (f : HandshakeFrame) (h : Held v₀ v) :
    (advanceHandshake P deviceId f).Pauses (Held v₀) () v := by
  unfold advanceHandshake
  have hread : (Co.await (onHandshake (NoiseXxHandshake.readMessage P f.readDraws f.payload)) :
      Co Unit HandshakeView JsError Bytes).Pauses (Held v₀) () v := by
    apply (pauses_onHandshake _ h).await
    rw [run_onHandshake]
    exact ⟨h.derived, h.mtu, h.now⟩
  apply hread.attempt.bind
  intro v' x hrun
  rw [Co.run_attempt, Co.run_await, run_onHandshake] at hrun
  obtain ⟨rfl, -⟩ := Prod.mk.inj hrun
  cases x with
  | error e => trivial
  | ok payload =>
      show Co.Pauses (Held v₀) () (afterRead P deviceId f) _
      unfold afterRead Co.Pauses
      simp only [Co.bind_apply, Co.get_apply, Outcome.bind, Co.ite_apply]
      split
      · exact pauses_answer f _ _ ⟨h.derived, h.mtu, h.now⟩
      split
      · exact pauses_answer f _ _ ⟨h.derived, h.mtu, h.now⟩
      · exact pauses_completeHandshake _

theorem pauses_sendMsg1 (hr : HandshakeReplies) (h : Held v₀ v) :
    (sendMsg1 P deviceId hr).Pauses (Held v₀) () v :=
  pauses_onHandshake_bind h fun v' _ hv =>
    Co.Pauses.bind (m := get) Co.Pauses.value fun _ _ hget => by
      cases hget
      exact pauses_cut hr.writeRx _ hv

/-! ### What it does -/

theorem run_completeHandshake_incomplete (h : v.cs.handshake.isComplete = false) :
    (completeHandshake P).run () v = (v, .ok ()) := by
  unfold completeHandshake
  rw [Co.run_bind_ok (Co.run_get () v), h]
  rfl

theorem run_completeHandshake_concluded {peer : Bytes} {s : RatchetSession} {sas : String}
    (h : Concluded P v.cs.handshake peer s sas) (hrole : v.cs.role = v.cs.handshake.role) :
    (completeHandshake P).run () v = ((v.setSession s).established sas, .ok ()) := by
  obtain ⟨split, hsplit, hnew⟩ := h.session
  unfold completeHandshake
  rw [Co.run_bind_ok (Co.run_get () v), h.complete, if_pos rfl, hsplit]
  dsimp only
  rw [hrole, hnew, Co.run_bind_ok (Co.run_ofExcept () _ v)]
  rw [Co.run_bind_ok (Co.run_modify () _ v), h.sas]
  rw [Co.run_bind_ok (Co.run_ofExcept () _ (v.setSession s))]
  rfl

variable {f : HandshakeFrame} {mtu : ℕ} {next : FrameType} {w' : NoiseXxHandshake}
  {message : Bytes} {chunks : List Bytes}

/-- An answer is written and goes out. -/
theorem run_answer (deviceId : DeviceId) (hwriteRx : ∀ i, f.writeRx i = .ok ())
    (hwrite : (NoiseXxHandshake.writeMessage P f.writeDraws [] : Co Unit _ _ _).run ()
      v.cs.handshake = (w', .ok message)) (hcut : chunkFrame message mtu next = .ok chunks) :
    (answer P deviceId f mtu next).run () v = (completeHandshake P).run ()
      { v.setHandshake w' with written := v.written ++ chunks.map (Prod.mk deviceId) } := by
  have hmessage : (Co.await (onHandshake (NoiseXxHandshake.writeMessage P f.writeDraws [])) :
      Co Unit HandshakeView JsError Bytes).run () v = (v.setHandshake w', .ok message) := by
    rw [Co.run_await, run_onHandshake, hwrite]
  have hanswer : (writeAnswer P deviceId f mtu next).run () v =
      ({ v.setHandshake w' with written := v.written ++ chunks.map (Prod.mk deviceId) },
        .ok ()) := by
    unfold writeAnswer
    rw [Co.run_bind_ok hmessage, hcut, Co.run_bind_ok (Co.run_ofExcept () _ _),
      run_writeChunks hwriteRx]
    rfl
  unfold answer
  rw [Co.run_bind_ok (Co.run_attempt () _ v), hanswer]

/-- The type of the frame that answers this one. -/
def answerType (frameType : FrameType) (role : Role) : Option FrameType :=
  if frameType = FrameType.HandshakeMsg1 ∧ role = .responder then some FrameType.HandshakeMsg2
  else if frameType = FrameType.HandshakeMsg2 ∧ role = .initiator then some FrameType.HandshakeMsg3
  else none

/-- **A frame is read**, then answered or, if it is not, concluded. -/
theorem run_advanceHandshake (deviceId : DeviceId) {r' : NoiseXxHandshake} {payload : Bytes}
    (hread : (NoiseXxHandshake.readMessage P f.readDraws f.payload : Co Unit _ _ _).run ()
      v.cs.handshake = (r', .ok payload)) :
    (advanceHandshake P deviceId f).run () v =
      match answerType f.frameType v.cs.role with
      | some next => (answer P deviceId f (v.mtu.getD GATT_MTU_DEFAULT) next).run ()
          (v.setHandshake r')
      | none => (completeHandshake P).run () (v.setHandshake r') := by
  have hmessage : (Co.attempt (Co.await (onHandshake
      (NoiseXxHandshake.readMessage P f.readDraws f.payload))) :
        Co Unit HandshakeView JsError _).run () v = (v.setHandshake r', .ok (.ok payload)) := by
    rw [Co.run_attempt, Co.run_await, run_onHandshake, hread]
  unfold advanceHandshake
  rw [Co.run_bind_ok hmessage]
  dsimp only
  unfold afterRead answerType
  rw [Co.run_bind_ok (Co.run_get () _)]
  simp only [Co.run_ite]
  rw [show (v.setHandshake r').cs.role = v.cs.role from rfl,
    show (v.setHandshake r').mtu = v.mtu from rfl]
  split
  · rfl
  split
  · rfl
  · rfl

theorem run_sendMsg1 {hr : HandshakeReplies} (hwriteRx : ∀ i, hr.writeRx i = .ok ())
    (hwrite : (NoiseXxHandshake.writeMessage P hr.writeDraws [] : Co Unit _ _ _).run ()
      v.cs.handshake = (w', .ok message))
    (hcut : chunkFrame message (v.mtu.getD GATT_MTU_DEFAULT) FrameType.HandshakeMsg1 = .ok chunks) :
    (sendMsg1 P deviceId hr).run () v =
      ({ v.setHandshake w' with written := v.written ++ chunks.map (Prod.mk deviceId) },
        .ok ()) := by
  have hmessage : (Co.await (onHandshake (NoiseXxHandshake.writeMessage P hr.writeDraws [])) :
      Co Unit HandshakeView JsError Bytes).run () v = (v.setHandshake w', .ok message) := by
    rw [Co.run_await, run_onHandshake, hwrite]
  unfold sendMsg1
  rw [Co.run_bind_ok hmessage, Co.run_bind_ok (Co.run_get () _)]
  dsimp only
  rw [show (v.setHandshake w').mtu = v.mtu from rfl, hcut]
  rw [Co.run_bind_ok (Co.run_ofExcept () _ _), run_writeChunks hwriteRx]
  rfl

end Calls

/-! ## On an object of the mesh -/

section Serve

variable {P : Primitives} {m : Mesh} {d : DeviceId} {n ref : ℕ} {v' : HandshakeView}

/-- A handshake call on an object, played alone. -/
theorem run_onCrypto {co : Co Unit HandshakeView JsError Unit} (href : ref < m.objects.length)
    (hpauses : co.Pauses (Held (m.view ref d)) () (m.view ref d)) :
    (onCrypto n ref d co).run () m =
      (m.putView n ref d (co.run () (m.view ref d)).1, (co.run () (m.view ref d)).2) := by
  apply Co.Pauses.run_zoom ?_ ?_ hpauses
  · intro v hv
    rw [putView_of_fresh hv.derived]
    unfold Mesh.view
    rw [object_of_set_self (show (m.setView ref v).objects = m.objects.set ref v.cs from rfl) href]
    obtain ⟨cs, mtu, now, tofu, error, written, notified, derived⟩ := v
    obtain ⟨rfl, rfl, rfl⟩ := hv
    rfl
  · intro v v' hv'
    rw [putView_of_fresh hv'.derived]
    have hset : (m.setView ref v').setView ref v = m.setView ref v := by
      unfold Mesh.setView Mesh.setObject
      simp only [List.set_set]
    unfold Mesh.putView
    rw [hset]

theorem held_view (ref : ℕ) (d : DeviceId) (m : Mesh) : Held (m.view ref d) (m.view ref d) :=
  ⟨rfl, rfl, rfl⟩

/-- What a call leaves of the mesh, its flight aside. -/
theorem putView_eq (n ref : ℕ) (d : DeviceId) (v : HandshakeView) (m : Mesh) :
    ∃ flights, m.putView n ref d v = { m.setView ref v with flights := flights } := by
  unfold Mesh.putView
  split
  · exact ⟨_, rfl⟩
  · exact ⟨_, rfl⟩

/-- **A chunk that completes a handshake frame**, on the object of the device. -/
theorem serve_handshake {chunk : Bytes} {frame : ReassembledFrame} (id : IdentityReplies)
    {hr : HandshakeReplies} (hframe : (m.reassemble d chunk).2 = some frame)
    (htype : frame.frameType ≠ FrameType.SessionData) (hget : m.cryptoStates.get? d = some ref)
    (href : ref < m.objects.length)
    (hrun : (advanceHandshake P d (handshakeFrame frame hr)).run () (m.view ref d) =
      (v', .ok ())) :
    ∃ calls flights, m.serve P (.chunk d chunk id hr) =
      { m with
        reassemblers := m.reassemblers.set d (m.reassemble d chunk).1
        objects := m.objects.set ref v'.cs
        tofu := v'.tofu
        error := v'.error
        written := v'.written
        notified := v'.notified
        calls := calls
        flights := flights } := by
  rw [serve_chunk, hframe]
  dsimp only
  let m₁ := m.number.setReassembler d (m.reassemble d chunk).1
  let m₂ := m₁.engage m.calls ref d frame.payload
  have hcall : (onCrypto m.calls ref d (advanceHandshake P d (handshakeFrame frame hr))).run () m₂ =
      (m₂.putView m.calls ref d v', .ok ()) := by
    rw [run_onCrypto (show ref < m₂.objects.length from href)
      (pauses_advanceHandshake _ (held_view ref d m₂))]
    rw [show (advanceHandshake P d (handshakeFrame frame hr)).run () (m₂.view ref d) = (v', .ok ())
      from hrun]
  have hroute : (routeFrame P m.calls d frame id hr).run () m₁ =
      (m₂.putView m.calls ref d v', .ok ()) := by
    unfold routeFrame
    rw [Co.run_bind_ok (Co.run_get () m₁)]
    rw [show m₁.cryptoStates.get? d = some ref from hget]
    dsimp only
    rw [if_neg htype]
    unfold routeHandshake
    rw [Co.run_bind_ok (Co.run_modify () _ m₁)]
    show (Co.attempt (Co.await (onCrypto m.calls ref d _)) >>= _ : MeshCo Unit).run () m₂ = _
    rw [Co.run_bind_ok (Co.run_attempt () _ m₂), Co.run_await, hcall]
    rfl
  rw [hroute]
  obtain ⟨flights, hput⟩ := putView_eq m.calls ref d v' m₂
  rw [hput]
  exact ⟨_, _, rfl⟩

end Serve

/-! ## A sighting -/

/-- What `getLocalIdentity` returns. -/
def Mesh.identity (id : IdentityReplies) (m : Mesh) : Except JsError DeviceIdentityProvider :=
  match m.localIdentityProvider with
  | some provider => .ok provider
  | none => id.provider

/-- The handshake that a sighting opens, and the chunks that it writes. -/
inductive FirstMessage (P : Primitives) (identity : DeviceIdentityProvider) (mtu : ℕ)
    (hr : HandshakeReplies) : Role → NoiseXxHandshake → List Bytes → Prop where
  | responder : FirstMessage P identity mtu hr .responder (.new P .responder identity) []
  | initiator {hs : NoiseXxHandshake} {message : Bytes} {chunks : List Bytes} :
      (∀ i, hr.writeRx i = .ok ()) →
      (NoiseXxHandshake.writeMessage P hr.writeDraws [] : Co Unit _ _ _).run ()
        (.new P .initiator identity) = (hs, .ok message) →
      chunkFrame message mtu FrameType.HandshakeMsg1 = .ok chunks →
      FirstMessage P identity mtu hr .initiator hs chunks

/-- The mesh when the link of the sighting is up. -/
def Mesh.linked (s : Mesh.PeerSighting) (mtu : ℕ) (m : Mesh) : Mesh :=
  { m with
    registry := m.registry.upsert m.now s.peerId s.deviceId (some s.rssi)
    mtuCache := m.mtuCache.set s.deviceId mtu
    connectedDevices := m.connectedDevices.set s.deviceId .outbound
    backoff := m.backoff.delete s.deviceId
    backoffCounts := m.backoffCounts.delete s.deviceId }

section Sighting

variable {P : Primitives} {m : Mesh} {n : ℕ} {s : Mesh.PeerSighting} {c : ConnectReplies}
  {id : IdentityReplies} {hr : HandshakeReplies} {identity : DeviceIdentityProvider}
  {ourPeerId : Bytes} {hs : NoiseXxHandshake} {chunks : List Bytes}

theorem run_getLocalIdentity (h : m.identity id = .ok identity) :
    (getLocalIdentity id).run () m =
      ({ m with localIdentityProvider := some identity }, .ok identity) := by
  unfold Mesh.identity at h
  unfold getLocalIdentity
  rw [Co.run_bind_ok (Co.run_get () m)]
  cases hprovider : m.localIdentityProvider with
  | some provider =>
      rw [hprovider] at h
      cases h
      rw [Co.run_pure, ← hprovider]
  | none =>
      rw [hprovider] at h
      unfold IdentityReplies.provider at h
      cases hpub : id.publicKey with
      | error e =>
          rw [hpub] at h
          cases h
      | ok publicKey =>
          cases hx : id.x25519PublicKey with
          | error e =>
              rw [hpub, hx] at h
              cases h
          | ok x25519PublicKey =>
              rw [hpub, hx] at h
              cases h
              simp only [Co.run_bind, Co.run_await, Co.run_ofExcept, Co.run_modify, Co.run_pure]

/-- The `try` block of the scan callback. -/
theorem run_connectPeer (hc : c.Succeeds) :
    ∃ native flights, (connectPeer n s c).run () m =
      ({ m.linked s (clampMtu c.getMtu) with native := native, flights := flights }, .ok ()) := by
  obtain ⟨hconnect, hdiscover, hnotify⟩ := hc
  have hrun : (connectPeer n s c).run () m =
      (Mesh.launch n (.opening s.deviceId) (Mesh.connectedOutbound s { m.linkUp n s.deviceId with
        mtuCache := m.mtuCache.set s.deviceId (clampMtu c.getMtu) }), .ok ()) := by
    unfold connectPeer connect negotiateMtu
    simp only [Co.run_bind, Co.run_await, Co.run_ofExcept, Co.run_modify, Co.run_attempt,
      Co.run_pure, hconnect, hdiscover, hnotify]
    rfl
  rw [hrun]
  exact ⟨_, _, rfl⟩

/-- What the handshake begins with, once the object is there. -/
def beginHandshake (P : Primitives) (n ref : ℕ) (d : DeviceId) (hr : HandshakeReplies) :
    Role → MeshCo Unit
  | .initiator => onCrypto n ref d (sendMsg1 P d hr)
  | .responder => pure ()

theorem run_openHandshake_create {d : DeviceId} {peerId : Bytes} {role : Role}
    (hpeer : m.peerId = some ourPeerId) (hconnected : m.connectedDevices.has d = true)
    (hrole : Mesh.roleFor ourPeerId peerId = role) :
    (openHandshake P n d peerId hr identity).run () m =
      (beginHandshake P n m.objects.length d hr role).run ()
        ((m.create d (.new P role identity (hex peerId) m.now)).launch n
          (.opened m.objects.length d role)) := by
  unfold openHandshake
  rw [Co.run_bind_ok (Co.run_get () m), hpeer]
  dsimp only
  rw [if_pos hconnected, hrole]
  rw [Co.run_bind_ok (Co.run_modify () _ m), Co.run_bind_ok (Co.run_modify () _ _)]
  cases role with
  | initiator => rfl
  | responder => rfl

/-- The object is created, and the initiator sends msg-1. -/
theorem run_openHandshake {d : DeviceId} {peerId : Bytes} (hpeer : m.peerId = some ourPeerId)
    (hconnected : m.connectedDevices.has d = true) {mtu : ℕ} (hmtu : m.mtuCache.get? d = some mtu)
    (hfirst : FirstMessage P identity mtu hr (Mesh.roleFor ourPeerId peerId) hs chunks) :
    ∃ flights, (openHandshake P n d peerId hr identity).run () m =
      ({ m with
        objects := m.objects ++ [{ CryptoState.new P (Mesh.roleFor ourPeerId peerId) identity
          (hex peerId) m.now with handshake := hs }]
        cryptoStates := m.cryptoStates.set d m.objects.length
        written := m.written ++ chunks.map (Prod.mk d)
        flights := flights }, .ok ()) := by
  generalize hrole : Mesh.roleFor ourPeerId peerId = role at hfirst ⊢
  let m₁ := (m.create d (.new P role identity (hex peerId) m.now)).launch n
    (.opened m.objects.length d role)
  rw [run_openHandshake_create hpeer hconnected hrole]
  cases hfirst with
  | responder =>
      refine ⟨m₁.flights, ?_⟩
      unfold beginHandshake
      rw [Co.run_pure, List.map_nil, List.append_nil]
      rfl
  | initiator hwriteRx hwrite hcut =>
      have hobject : m₁.object m.objects.length = .new P .initiator identity (hex peerId) m.now :=
        object_of_append_new rfl
      let v := m₁.view m.objects.length d
      have hcs : v.cs = .new P .initiator identity (hex peerId) m.now := hobject
      have hmtu' : v.mtu.getD GATT_MTU_DEFAULT = mtu := by
        show (m.mtuCache.get? d).getD GATT_MTU_DEFAULT = mtu
        rw [hmtu]
        rfl
      have hlt : m.objects.length < m₁.objects.length := by
        show m.objects.length < (m.objects ++ [_]).length
        simp
      let v' : HandshakeView :=
        { v.setHandshake hs with written := v.written ++ chunks.map (Prod.mk d) }
      have hsend : (sendMsg1 P d hr).run () v = (v', .ok ()) :=
        run_sendMsg1 hwriteRx (by rw [hcs]; exact hwrite) (by rw [hmtu']; exact hcut)
      have hcall : (onCrypto n m.objects.length d (sendMsg1 P d hr)).run () m₁ =
          (m₁.putView n m.objects.length d v', .ok ()) := by
        rw [run_onCrypto hlt (pauses_sendMsg1 hr (held_view _ d m₁)), hsend]
      obtain ⟨flights, hput⟩ := putView_eq n m.objects.length d v' m₁
      rw [hput] at hcall
      refine ⟨flights, hcall.trans ?_⟩
      have hset : m₁.objects.set m.objects.length (v.setHandshake hs).cs =
          m.objects ++ [{ CryptoState.new P .initiator identity (hex peerId) m.now with
            handshake := hs }] := by
        unfold HandshakeView.setHandshake
        rw [hcs]
        show (m.objects ++ [_]).set m.objects.length _ = _
        simp
      unfold Mesh.setView Mesh.setObject
      dsimp only
      rw [hset]
      rfl

/-- **A sighting** whose link comes up. -/
theorem serve_sighting (hpeer : m.peerId = some ourPeerId) (hconnects : m.Connects s.deviceId)
    (hc : c.Succeeds) (hid : m.identity id = .ok identity)
    (hfirst : FirstMessage P identity (clampMtu c.getMtu) hr (Mesh.roleFor ourPeerId s.peerId) hs chunks) :
    ∃ calls flights native, m.serve P (.sighting s c id hr) =
      { m.linked s (clampMtu c.getMtu) with
        localIdentityProvider := some identity
        objects := m.objects ++ [{ CryptoState.new P (Mesh.roleFor ourPeerId s.peerId) identity
          (hex s.peerId) m.now with handshake := hs }]
        cryptoStates := m.cryptoStates.set s.deviceId m.objects.length
        written := m.written ++ chunks.map (Prod.mk s.deviceId)
        calls := calls
        flights := flights
        native := native } := by
  rw [serve_eq]
  unfold respond
  have hnumber : m.number.Connects s.deviceId :=
    ⟨hconnects.free, hconnects.limit, hconnects.backoff⟩
  let m₁ := m.number.launch m.calls (.connecting s.deviceId)
  obtain ⟨native, flights, hconnect⟩ := run_connectPeer (m := m₁) (n := m.calls) (s := s) hc
  let m₂ : Mesh := { m₁.linked s (clampMtu c.getMtu) with native := native, flights := flights }
  let m₃ : Mesh := { m₂ with localIdentityProvider := some identity }
  have hidentity : (Co.await (getLocalIdentity id)).run () m₂ = (m₃, .ok identity) := by
    rw [Co.run_await]
    exact run_getLocalIdentity hid
  obtain ⟨flights', hopen⟩ := run_openHandshake (m := m₃) (n := m.calls) (d := s.deviceId) hpeer
    (by
      show (m.connectedDevices.set s.deviceId .outbound).has s.deviceId = true
      simp [InsMap.has]) (InsMap.get?_set_self m.mtuCache s.deviceId _) hfirst
  have hsighting : (onSighting P m.calls s c id hr).run () m.number =
      ((openHandshake P m.calls s.deviceId s.peerId hr identity).run () m₃) := by
    show (onSighting P m.calls s c id hr m.number).run () = _
    rw [onSighting_attempt c id hr m.calls hnumber]
    show (Co.attempt (connectPeer m.calls s c) >>= _ : MeshCo Unit).run () m₁ = _
    rw [Co.run_bind_ok (Co.run_attempt () _ m₁), hconnect]
    dsimp only
    unfold startHandshake initiateHandshake
    rw [Co.run_bind_ok (Co.run_attempt () _ _), Co.run_await, Co.run_bind_ok hidentity, hopen]
    rfl
  rw [hsighting, hopen]
  exact ⟨_, _, _, rfl⟩

end Sighting

end Oxpulse.Transport
