import Mathlib.Logic.Relation
import Oxpulse.Transport.HandshakeBranches

/-!
# What an event can do

A call enters with its guards and, if it is to suspend, with a flight
(`Enters`). From then on each of its segments is a chain of `Atom`s: the
assignments of the source between two suspension points, each with what the call
knows when it makes it — its own flight, the replies that are part of the event,
and what it reads in the same segment. `handle_chains` says so of every event.

A call changes no flight but its own and relies on nothing else, so the rule for
schedules applies: each step of a run is an entry and a chain of atoms, and an
invariant of all runs is a property that every entry and every atom keeps.
-/

namespace Oxpulse.Transport

open Oxpulse.Coroutine Oxpulse.Crypto

/-! ## Flights -/

section Flights

variable {n i : ℕ} {f : Flight} {m : Mesh}

@[simp] theorem flight_number : m.number.flight i = m.flight i := rfl

@[simp] theorem flight_launch_self : (m.launch n f).flight n = some f :=
  InsMap.get?_set_self _ _ _

theorem flight_launch_ne (h : i ≠ n) : (m.launch n f).flight i = m.flight i :=
  InsMap.get?_set_ne _ (Ne.symm h) _

@[simp] theorem flight_land_self : (m.land n).flight n = none :=
  InsMap.get?_delete_self _ _

theorem flight_land_ne (h : i ≠ n) : (m.land n).flight i = m.flight i :=
  InsMap.get?_delete_ne _ (Ne.symm h)

theorem stage_stopping {k : ℕ} (h : m.flight n = some (.stopping k)) :
    m.stage n = m.launch n (.stopping (k + 1)) := by
  unfold Mesh.stage
  rw [h]

end Flights

/-! ## Replies -/

/-- No native call of the scan callback's `try` block fails. -/
def ConnectReplies.Succeeds (c : ConnectReplies) : Prop :=
  c.connect = .ok () ∧ c.discoverServices = .ok () ∧ c.startNotifications = .ok ()

/-- No native call of `startMesh` fails. -/
structure StartReplies.Succeeds (r : StartReplies) : Prop where
  peerId : r.peerId.length = PEER_ID_BYTES
  startGattServer : r.startGattServer = .ok ()
  startAdvertising : r.startAdvertising = .ok ()
  bleInitialize : r.bleInitialize = .ok ()
  requestLEScan : r.requestLEScan = .ok ()
  addRxListener : r.addRxListener = .ok ()
  addConnectionListener : r.addConnectionListener = .ok ()

def IdentityReplies.provider (id : IdentityReplies) : Except JsError DeviceIdentityProvider := do
  let publicKey ← id.publicKey
  let x25519PublicKey ← id.x25519PublicKey
  pure ⟨.ok publicKey, .ok x25519PublicKey, id.dhX25519⟩

/-! ## Entries -/

/-- The reassembler of a device after a chunk, with the frame it completed. -/
def Mesh.reassemble (deviceId : DeviceId) (chunk : Bytes) (m : Mesh) :
    FrameReassembler × Option ReassembledFrame :=
  ((m.reassemblers.get? deviceId).getD .new).receive chunk

/-- The sighting passes the checks of the scan callback. -/
structure Mesh.Connects (deviceId : DeviceId) (m : Mesh) : Prop where
  free : m.connectedDevices.has deviceId = false
  limit : m.connectedDevices.size < MAX_BLE_CONNECTIONS
  backoff : (m.backoff.get? deviceId).getD 0 ≤ m.now

/-- The flight that a new call takes, from the state it finds. -/
inductive Takes : Event → Mesh → Flight → Prop where
  | startMesh (r : StartReplies) (m : Mesh) :
      m.advertising = false → m.scanning = false → Takes (.startMesh r) m (.starting false none)
  | stopMesh (r : StopReplies) (m : Mesh) : Takes (.stopMesh r) m (.stopping 0)
  | rotate (peerId : Bytes) (r : RotateReplies) (m : Mesh) : Takes (.rotate peerId r) m .rotating
  | sighting (s : Mesh.PeerSighting) (c : ConnectReplies) (id : IdentityReplies)
      (hr : HandshakeReplies) (m : Mesh) :
      m.Connects s.deviceId → Takes (.sighting s c id hr) m (.connecting s.deviceId)
  | sendFrame (peerIdHex : PeerIdHex) (frame : Bytes) (writeRx : ℕ → Except JsError Unit)
      (m : Mesh) (t : Mesh.SendTarget) : m.sendTarget peerIdHex = .ok t →
      Takes (.sendFrame peerIdHex frame writeRx) m (.sending peerIdHex t.ref t.deviceId)

/-- The flight that a chunk takes, from the state and the frame it completed. -/
inductive Routes (deviceId : DeviceId) (frame : ReassembledFrame) (m : Mesh) : Flight → Prop where
  | bootstrapping (ourPeerId : Bytes) : m.peerId = some ourPeerId →
      m.cryptoStates.get? deviceId = none → frame.frameType ≠ FrameType.SessionData →
      Routes deviceId frame m (.bootstrapping deviceId)
  | advancing (ref : ℕ) : m.cryptoStates.get? deviceId = some ref →
      frame.frameType ≠ FrameType.SessionData →
      ¬ RefusedOnSight (m.object ref).handshake frame.payload →
      Routes deviceId frame m (.advancing ref deviceId)
  | refusing (ref : ℕ) : m.cryptoStates.get? deviceId = some ref →
      frame.frameType ≠ FrameType.SessionData →
      RefusedOnSight (m.object ref).handshake frame.payload →
      Routes deviceId frame m (.refusing ref deviceId)
  | receiving (ref : ℕ) (s : RatchetSession) : m.cryptoStates.get? deviceId = some ref →
      frame.frameType = FrameType.SessionData → (m.object ref).verdict = .accepted →
      (m.object ref).session = some s → Routes deviceId frame m (.receiving ref)

/-- What a new call does before anything can interrupt it: it is over, it ends
with nothing done, or it takes a flight. -/
inductive Enters : Event → Mesh → Mesh → Prop where
  | lateLink (deviceId : DeviceId) (m : Mesh) :
      Enters (.lateLink deviceId) m (m.number.outboundUp deviceId)
  | disconnected (deviceId : DeviceId) (m : Mesh) :
      Enters (.disconnected deviceId) m ((m.number.outboundDown deviceId).disconnected deviceId)
  | connected (deviceId : DeviceId) (m : Mesh) :
      Enters (.connection deviceId true) m
        ((m.number.inboundUp deviceId).connectedInbound deviceId)
  | dropped (deviceId : DeviceId) (m : Mesh) :
      Enters (.connection deviceId false) m
        ((m.number.inboundDown deviceId).disconnected deviceId)
  | gc (m : Mesh) : Enters .gcTick m m.number.gc
  | timeouts (m : Mesh) : Enters .timeoutTick m m.number.checkHandshakeTimeouts
  | clock (ms : ℕ) (m : Mesh) : Enters (.clock ms) m { m.number with now := m.number.now + ms }
  | accepts (peerIdHex : PeerIdHex) (m : Mesh) :
      Enters (.acceptPeer peerIdHex) m (m.number.acceptPeer peerIdHex)
  | rejects (peerIdHex : PeerIdHex) (m : Mesh) :
      Enters (.rejectPeer peerIdHex) m (m.number.rejectPeer peerIdHex)
  | ignored (e : Event) (m : Mesh) : Enters e m m.number
  | takes (e : Event) (m : Mesh) (f : Flight) : Takes e m f →
      Enters e m (m.number.launch m.calls f)
  | reassembles (deviceId : DeviceId) (chunk : Bytes) (id : IdentityReplies)
      (hr : HandshakeReplies) (m : Mesh) :
      Enters (.chunk deviceId chunk id hr) m
        (m.number.setReassembler deviceId (m.reassemble deviceId chunk).1)
  | routes (deviceId : DeviceId) (chunk : Bytes) (id : IdentityReplies) (hr : HandshakeReplies)
      (m : Mesh) (frame : ReassembledFrame) (f : Flight) :
      (m.reassemble deviceId chunk).2 = some frame → Routes deviceId frame m f →
      Enters (.chunk deviceId chunk id hr) m
        ((m.number.setReassembler deviceId (m.reassemble deviceId chunk).1).launch m.calls f)

/-- The flight a new call takes. -/
inductive Begins : Event → Mesh → Flight → Prop where
  | takes (e : Event) (m : Mesh) (f : Flight) : Takes e m f → Begins e m f
  | routes (deviceId : DeviceId) (chunk : Bytes) (id : IdentityReplies) (hr : HandshakeReplies)
      (m : Mesh) (frame : ReassembledFrame) (f : Flight) :
      (m.reassemble deviceId chunk).2 = some frame → Routes deviceId frame m f →
      Begins (.chunk deviceId chunk id hr) m f

/-! ## Atoms -/

/-- The identity a call may cache. -/
def Event.identity : Event → Option IdentityReplies
  | .sighting _ _ id _ => some id
  | .chunk _ _ id _ => some id
  | _ => none

/-- When a call may end: with its link up it does only if the scan callback's
`try` block failed, and with the GATT server started only if the mesh runs or
`startMesh` failed. -/
def Ends (e : Event) : Option Flight → Prop
  | some (.linked _) => ∃ s c id hr, e = .sighting s c id hr ∧ ¬ c.Succeeds
  | some (.starting true _) => ∃ r, e = .startMesh r ∧ ¬ r.Succeeds
  | _ => True

/-- Call `n` works on a handshake frame for the object, or has just done so. -/
def EngagedWith (ref : ℕ) (deviceId : DeviceId) (φ : Option Flight) : Prop :=
  φ = some (.advancing ref deviceId) ∨ φ = some (.concluded ref deviceId) ∨
    φ = some (.refusing ref deviceId)

/-- Which object a failed handshake rejects: the one registered for the device by
then, the one that the frame is for, or none while there is none. -/
inductive Fails (n : ℕ) : Event → Option ℕ → Mesh → Prop where
  | initiating (s : Mesh.PeerSighting) (c : ConnectReplies) (id : IdentityReplies)
      (hr : HandshakeReplies) (m : Mesh) :
      Fails n (.sighting s c id hr) (m.cryptoStates.get? s.deviceId) m
  | advancing (e : Event) (ref : ℕ) (deviceId : DeviceId) (m : Mesh) :
      EngagedWith ref deviceId (m.flight n) → Fails n e (some ref) m
  | bootstrapping (e : Event) (deviceId : DeviceId) (m : Mesh) :
      m.flight n = some (.bootstrapping deviceId) → Fails n e none m

/-- An assignment of call `n`, which runs the event `e`. -/
inductive Atom (P : Primitives) (n : ℕ) : Event → Mesh → Mesh → Prop where
  -- The scan callback.
  | linkUp (s : Mesh.PeerSighting) (c : ConnectReplies) (id : IdentityReplies)
      (hr : HandshakeReplies) (m : Mesh) : m.flight n = some (.connecting s.deviceId) →
      c.connect = .ok () → Atom P n (.sighting s c id hr) m (m.linkUp n s.deviceId)
  | setMtu (s : Mesh.PeerSighting) (c : ConnectReplies) (id : IdentityReplies)
      (hr : HandshakeReplies) (m : Mesh) : m.flight n = some (.linked s.deviceId) →
      Atom P n (.sighting s c id hr) m
        { m with mtuCache := m.mtuCache.set s.deviceId (clampMtu c.getMtu) }
  | connectedOutbound (s : Mesh.PeerSighting) (c : ConnectReplies) (id : IdentityReplies)
      (hr : HandshakeReplies) (m : Mesh) : m.flight n = some (.linked s.deviceId) → c.Succeeds →
      Atom P n (.sighting s c id hr) m
        ((m.connectedOutbound s).launch n (.opening s.deviceId))
  | armBackoff (s : Mesh.PeerSighting) (c : ConnectReplies) (id : IdentityReplies)
      (hr : HandshakeReplies) (m : Mesh) : ¬ c.Succeeds →
      Atom P n (.sighting s c id hr) m (m.armBackoff s.deviceId)
  -- Handshakes.
  | identity (e : Event) (id : IdentityReplies) (provider : DeviceIdentityProvider) (m : Mesh) :
      e.identity = some id → id.provider = .ok provider →
      Atom P n e m { m with localIdentityProvider := some provider }
  | opened (s : Mesh.PeerSighting) (c : ConnectReplies) (id : IdentityReplies)
      (hr : HandshakeReplies) (m : Mesh) (identity : DeviceIdentityProvider) (ourPeerId : Bytes) :
      m.flight n = some (.opening s.deviceId) → m.peerId = some ourPeerId →
      m.connectedDevices.has s.deviceId = true →
      Atom P n (.sighting s c id hr) m
        ((m.create s.deviceId (.new P (Mesh.roleFor ourPeerId s.peerId) identity (hex s.peerId)
          m.now)).launch n
            (.opened m.objects.length s.deviceId (Mesh.roleFor ourPeerId s.peerId)))
  | bootstrapped (deviceId : DeviceId) (chunk : Bytes) (id : IdentityReplies)
      (hr : HandshakeReplies) (m : Mesh) (identity : DeviceIdentityProvider) (role : Role)
      (peerIdHex : PeerIdHex) (payload : Bytes) : m.flight n = some (.bootstrapping deviceId) →
      m.connectedDevices.has deviceId = true → m.cryptoStates.has deviceId = false →
      Atom P n (.chunk deviceId chunk id hr) m
        ((m.create deviceId (.new P role identity peerIdHex m.now)).engage n m.objects.length
          deviceId payload)
  | sendsMsg1 (e : Event) (ref : ℕ) (deviceId : DeviceId) (v : HandshakeView) (m : Mesh) :
      m.flight n = some (.opened ref deviceId .initiator) → WorksOn (m.view ref deviceId) v →
      Writes deviceId (· = FrameType.HandshakeMsg1) (m.view ref deviceId) v →
      Unseen (m.view ref deviceId) v → Atom P n e m (m.setView ref v)
  | advances (e : Event) (ref : ℕ) (deviceId : DeviceId) (v : HandshakeView) (m : Mesh) :
      m.flight n = some (.advancing ref deviceId) → WorksOn (m.view ref deviceId) v →
      Writes deviceId (· ≠ FrameType.HandshakeMsg1) (m.view ref deviceId) v →
      Branches (m.view ref deviceId) v → Atom P n e m (m.setView ref v)
  | concludes (e : Event) (ref : ℕ) (deviceId : DeviceId) (v : HandshakeView) (m : Mesh) :
      m.flight n = some (.advancing ref deviceId) → Derives (m.object ref) v.cs →
      Writes deviceId (· ≠ FrameType.HandshakeMsg1) (m.view ref deviceId) v →
      Branches (m.view ref deviceId) v →
      Atom P n e m ((m.setView ref v).launch n (.concluded ref deviceId))
  | refuses (e : Event) (ref : ℕ) (deviceId : DeviceId) (v : HandshakeView) (m : Mesh) :
      m.flight n = some (.refusing ref deviceId) → Refuses (m.view ref deviceId) v →
      Branches (m.view ref deviceId) v → Atom P n e m (m.setView ref v)
  | failHandshake (e : Event) (cs : Option ℕ) (m : Mesh) : e.identity.isSome → Fails n e cs m →
      Atom P n e m (m.failHandshake cs)
  -- Session frames.
  | setSession (e : Event) (ref k : ℕ) (s : RatchetSession) (m : Mesh) :
      (m.flight n = some (.receiving ref) ∨
        ∃ p deviceId, m.flight n = some (.sending p ref deviceId)) →
      Atom P n e m (m.setSession ref k s)
  | deliver (e : Event) (ref : ℕ) (plaintext : Bytes) (m : Mesh) :
      m.flight n = some (.receiving ref) → Atom P n e m (deliver ref plaintext m)
  | decryptFailed (e : Event) (ref : ℕ) (err : JsError) (m : Mesh) :
      m.flight n = some (.receiving ref) → Atom P n e m (decryptFailed err m)
  | sent (e : Event) (entry : SentChunk) (m : Mesh) : entry.call = n →
      m.flight n = some (.sending entry.peerIdHex entry.ref entry.deviceId) →
      Atom P n e m (logSent entry m)
  -- `startMesh`.
  | setPeerId (r : StartReplies) (m : Mesh) : m.flight n = some (.starting false none) →
      Atom P n (.startMesh r) m { m with peerId := some r.peerId }
  | begins (r : StartReplies) (m : Mesh) : m.flight n = some (.starting false none) →
      r.startGattServer = .ok () →
      Atom P n (.startMesh r) m ((m.setGattServer true).launch n (.starting true none))
  | advertises (r : StartReplies) (m : Mesh) : m.flight n = some (.starting true none) →
      Atom P n (.startMesh r) m (m.setAdvertising true)
  | initializes (r : StartReplies) (m : Mesh) : m.flight n = some (.starting true none) →
      Atom P n (.startMesh r) m { m with initialized := true }
  | scans (r : StartReplies) (m : Mesh) : m.flight n = some (.starting true none) →
      Atom P n (.startMesh r) m (m.setScan true)
  | listens (r : StartReplies) (m : Mesh) : m.flight n = some (.starting true none) →
      Atom P n (.startMesh r) m
        (m.listen.launch n (.starting true (some m.native.handles)))
  | pushesRemover (r : StartReplies) (handle : ℕ) (m : Mesh) :
      m.flight n = some (.starting true (some handle)) →
      Atom P n (.startMesh r) m ((m.pushRemover handle).launch n (.starting true none))
  | runs (r : StartReplies) (m : Mesh) : m.flight n = some (.starting true none) →
      Atom P n (.startMesh r) m ((m.running r.document).launch n .started)
  | startFails (r : StartReplies) (kind : MeshErrorKind) (m : Mesh) :
      Atom P n (.startMesh r) m { m with error := some kind }
  -- `stopMesh`.
  | scanOff (r : StopReplies) (m : Mesh) : m.flight n = some (.stopping 0) →
      Atom P n (.stopMesh r) m ((m.setScan false).launch n (.stopping 1))
  | advertisingOff (r : StopReplies) (m : Mesh) : m.flight n = some (.stopping 1) →
      Atom P n (.stopMesh r) m ((m.setAdvertising false).launch n (.stopping 2))
  | gattServerOff (r : StopReplies) (m : Mesh) : m.flight n = some (.stopping 2) →
      Atom P n (.stopMesh r) m ((m.setGattServer false).launch n (.stopping 3))
  | timersOff (r : StopReplies) (m : Mesh) : m.flight n = some (.stopping 3) →
      Atom P n (.stopMesh r) m (m.stopTimers.launch n (.stopping 4))
  | disconnects (r : StopReplies) (m : Mesh) : m.flight n = some (.stopping 4) →
      Atom P n (.stopMesh r) m
        (m.disconnectAll.launch n (.sweeping 0 none))
  | removes (r : StopReplies) (i handle : ℕ) (m : Mesh) : m.flight n = some (.sweeping i none) →
      m.listenerRemovers[i]? = some handle →
      Atom P n (.stopMesh r) m (m.launch n (.sweeping i (some handle)))
  | removed (r : StopReplies) (i handle : ℕ) (m : Mesh) :
      m.flight n = some (.sweeping i (some handle)) →
      Atom P n (.stopMesh r) m
        ((if (r.remove i).isOk then m.unlisten handle else m).launch n (.sweeping (i + 1) none))
  | clears (r : StopReplies) (i : ℕ) (m : Mesh) : m.flight n = some (.sweeping i none) →
      m.listenerRemovers[i]? = none → Atom P n (.stopMesh r) m m.clear
  -- MAC rotation.
  | setAdvertising (peerId : Bytes) (r : RotateReplies) (on : Bool) (m : Mesh) :
      m.flight n = some .rotating → Atom P n (.rotate peerId r) m (m.setAdvertising on)
  | setGattServer (peerId : Bytes) (r : RotateReplies) (on : Bool) (m : Mesh) :
      m.flight n = some .rotating → Atom P n (.rotate peerId r) m (m.setGattServer on)
  -- The end of any call.
  | lands (e : Event) (m : Mesh) : Ends e (m.flight n) → Atom P n e m (m.land n)

/-! ### What an atom leaves alone -/

/-- Verdicts, sessions, the error shown and the notifications: nothing else. -/
def OnlyObjects (m m' : Mesh) : Prop :=
  ∃ objects error notified,
    m' = { m with objects := objects, error := error, notified := notified }

section OnlyObjects

variable {m m' m'' : Mesh}

theorem OnlyObjects.refl (m : Mesh) : OnlyObjects m m := ⟨m.objects, m.error, m.notified, rfl⟩

theorem OnlyObjects.trans (h : OnlyObjects m m') (h' : OnlyObjects m' m'') :
    OnlyObjects m m'' := by
  obtain ⟨_, _, _, rfl⟩ := h
  obtain ⟨objects, error, notified, rfl⟩ := h'
  exact ⟨objects, error, notified, rfl⟩

theorem setObject_onlyObjects (ref : ℕ) (cs : CryptoState) (m : Mesh) :
    OnlyObjects m (m.setObject ref cs) :=
  ⟨_, m.error, m.notified, rfl⟩

theorem failHandshake_onlyObjects (cs : Option ℕ) (m : Mesh) :
    OnlyObjects m (m.failHandshake cs) := by
  unfold Mesh.failHandshake
  cases cs with
  | none => exact ⟨m.objects, _, m.notified, rfl⟩
  | some ref =>
      dsimp only
      split
      · exact ⟨_, _, _, rfl⟩
      · exact ⟨_, _, _, rfl⟩

theorem acceptPeer_onlyObjects (peerIdHex : PeerIdHex) (m : Mesh) :
    OnlyObjects m (m.acceptPeer peerIdHex) := by
  unfold Mesh.acceptPeer
  split
  · exact .refl m
  · dsimp only
    split
    · exact ⟨_, _, _, rfl⟩
    · exact .refl m

theorem rejectPeer_onlyObjects (peerIdHex : PeerIdHex) (m : Mesh) :
    OnlyObjects m (m.rejectPeer peerIdHex) := by
  unfold Mesh.rejectPeer
  split
  · exact .refl m
  · dsimp only
    split
    · exact ⟨_, _, _, rfl⟩
    · exact .refl m

theorem checkTimeout_onlyObjects (m : Mesh) (entry : DeviceId × ℕ) :
    OnlyObjects m (m.checkTimeout entry) := by
  unfold Mesh.checkTimeout
  dsimp only
  split_ifs
  · exact .refl m
  · exact .refl m
  · exact .refl m
  · exact ⟨_, _, _, rfl⟩
  · exact .refl m

theorem checkHandshakeTimeouts_onlyObjects (m : Mesh) : OnlyObjects m m.checkHandshakeTimeouts := by
  unfold Mesh.checkHandshakeTimeouts
  generalize m.cryptoStates.entries = entries
  induction entries generalizing m with
  | nil => exact .refl m
  | cons entry entries ih => exact (checkTimeout_onlyObjects m entry).trans (ih _)

theorem setSession_onlyObjects (ref k : ℕ) (s : RatchetSession) (m : Mesh) :
    OnlyObjects m (m.setSession ref k s) := by
  unfold Mesh.setSession
  split
  · exact setObject_onlyObjects ref _ m
  · exact .refl m

/-- A disconnect drops the entries of the device. -/
theorem disconnected_eq (deviceId : DeviceId) (m : Mesh) :
    ∃ backoff backoffCounts, m.disconnected deviceId = { m with
      connectedDevices := m.connectedDevices.delete deviceId
      mtuCache := m.mtuCache.delete deviceId
      reassemblers := m.reassemblers.delete deviceId
      cryptoStates := m.cryptoStates.delete deviceId
      backoff := backoff
      backoffCounts := backoffCounts } := by
  unfold Mesh.disconnected Mesh.clearBackoff
  split
  · exact ⟨m.backoff, m.backoffCounts, rfl⟩
  · exact ⟨_, _, rfl⟩

theorem connectedInbound_eq (deviceId : DeviceId) (m : Mesh) :
    ∃ connectedDevices, m.connectedInbound deviceId =
      { m with connectedDevices := connectedDevices } := by
  unfold Mesh.connectedInbound
  split
  · exact ⟨m.connectedDevices, rfl⟩
  · exact ⟨_, rfl⟩

end OnlyObjects

section Atoms

variable {P : Primitives} {n i : ℕ} {e : Event} {m m' : Mesh}

theorem Atom.flight_ne (h : Atom P n e m m') (hi : i ≠ n) : m'.flight i = m.flight i := by
  cases h with
  | failHandshake _ cs _ _ =>
      obtain ⟨_, _, _, heq⟩ := failHandshake_onlyObjects cs m
      rw [heq]
      rfl
  | setSession _ ref k s _ _ =>
      obtain ⟨_, _, _, heq⟩ := setSession_onlyObjects ref k s m
      rw [heq]
      rfl
  | removed r j handle =>
      refine (flight_launch_ne hi).trans ?_
      split
      · rfl
      · rfl
  | lands => exact flight_land_ne hi
  | linkUp | connectedOutbound | opened | bootstrapped | concludes | begins | listens | pushesRemover
  | runs | scanOff | advertisingOff | gattServerOff | timersOff | disconnects | removes =>
      exact (flight_launch_ne hi).trans rfl
  | _ => rfl

theorem Atom.calls (h : Atom P n e m m') : m'.calls = m.calls := by
  cases h with
  | failHandshake _ cs _ _ =>
      obtain ⟨_, _, _, heq⟩ := failHandshake_onlyObjects cs m
      rw [heq]
  | setSession _ ref k s _ _ =>
      obtain ⟨_, _, _, heq⟩ := setSession_onlyObjects ref k s m
      rw [heq]
  | removed r j handle =>
      unfold Mesh.launch
      dsimp only
      split
      · rfl
      · rfl
  | _ => rfl

/-- Where a flight may go with one assignment: `objects` is the length of the
heap, which the assignment may extend to `objects'`. -/
inductive Flight.Next (objects objects' : ℕ) : Option Flight → Option Flight → Prop where
  | same (φ : Option Flight) : Next objects objects' φ φ
  | lands (φ : Option Flight) : Next objects objects' φ none
  | linked (deviceId : DeviceId) :
      Next objects objects' (some (.connecting deviceId)) (some (.linked deviceId))
  | opening (deviceId : DeviceId) :
      Next objects objects' (some (.linked deviceId)) (some (.opening deviceId))
  | opened (deviceId : DeviceId) (role : Role) : objects < objects' →
      Next objects objects' (some (.opening deviceId)) (some (.opened objects deviceId role))
  | advancing (deviceId : DeviceId) : objects < objects' →
      Next objects objects' (some (.bootstrapping deviceId)) (some (.advancing objects deviceId))
  | refusing (deviceId : DeviceId) : objects < objects' →
      Next objects objects' (some (.bootstrapping deviceId)) (some (.refusing objects deviceId))
  | concluded (ref : ℕ) (deviceId : DeviceId) :
      Next objects objects' (some (.advancing ref deviceId)) (some (.concluded ref deviceId))
  | starting (begun : Bool) (handle handle' : Option ℕ) :
      Next objects objects' (some (.starting begun handle)) (some (.starting true handle'))
  | started (begun : Bool) (handle : Option ℕ) :
      Next objects objects' (some (.starting begun handle)) (some .started)
  | stopping (k : ℕ) : Next objects objects' (some (.stopping k)) (some (.stopping (k + 1)))
  | sweeping (k : ℕ) : Next objects objects' (some (.stopping k)) (some (.sweeping 0 none))
  | sweeps (i j : ℕ) (handle handle' : Option ℕ) :
      Next objects objects' (some (.sweeping i handle)) (some (.sweeping j handle'))

theorem length_create (deviceId : DeviceId) (cs : CryptoState) (m : Mesh) :
    m.objects.length < (m.create deviceId cs).objects.length := by
  unfold Mesh.create
  rw [List.length_append]
  exact Nat.lt_succ_self _

theorem Atom.next (h : Atom P n e m m') :
    Flight.Next m.objects.length m'.objects.length (m.flight n) (m'.flight n) := by
  cases h with
  | linkUp s c id hr _ hf =>
      unfold Mesh.linkUp
      rw [hf, flight_launch_self]
      exact .linked s.deviceId
  | connectedOutbound s c id hr _ hf =>
      rw [hf, flight_launch_self]
      exact .opening s.deviceId
  | opened s c id hr _ identity ourPeerId hf =>
      rw [hf, flight_launch_self]
      exact .opened s.deviceId _ (length_create s.deviceId _ m)
  | bootstrapped deviceId chunk id hr _ identity role peerIdHex payload hf =>
      unfold Mesh.engage
      rw [hf, flight_launch_self]
      split
      · exact .refusing deviceId (length_create deviceId _ m)
      · exact .advancing deviceId (length_create deviceId _ m)
  | concludes _ ref deviceId v _ hf =>
      rw [hf, flight_launch_self]
      exact .concluded ref deviceId
  | failHandshake _ cs _ _ =>
      obtain ⟨_, _, _, heq⟩ := failHandshake_onlyObjects cs m
      rw [heq]
      exact .same _
  | setSession _ ref k s _ _ =>
      obtain ⟨_, _, _, heq⟩ := setSession_onlyObjects ref k s m
      rw [heq]
      exact .same _
  | begins r _ hf | listens r _ hf | pushesRemover r handle _ hf =>
      rw [hf, flight_launch_self]
      exact .starting _ _ _
  | runs r _ hf =>
      rw [hf, flight_launch_self]
      exact .started _ _
  | scanOff r _ hf | advertisingOff r _ hf | gattServerOff r _ hf | timersOff r _ hf =>
      rw [hf, flight_launch_self]
      exact .stopping _
  | disconnects r _ hf =>
      rw [hf, flight_launch_self]
      exact .sweeping _
  | removes r j handle _ hf | removed r j handle _ hf =>
      rw [hf, flight_launch_self]
      exact .sweeps _ _ _ _
  | lands =>
      rw [flight_land_self]
      exact .lands _
  | _ => exact .same _

end Atoms

/-! ### What an entry leaves alone -/

section Entries

variable {m m' : Mesh} {deviceId : DeviceId} {i : ℕ}

theorem OnlyObjects.flights (h : OnlyObjects m m') : m'.flights = m.flights := by
  obtain ⟨_, _, _, rfl⟩ := h
  rfl

theorem OnlyObjects.calls (h : OnlyObjects m m') : m'.calls = m.calls := by
  obtain ⟨_, _, _, rfl⟩ := h
  rfl

@[simp] theorem flights_setReassembler (r : FrameReassembler) :
    (m.setReassembler deviceId r).flights = m.flights := rfl

@[simp] theorem flights_disconnected : (m.disconnected deviceId).flights = m.flights := by
  obtain ⟨_, _, heq⟩ := disconnected_eq deviceId m
  rw [heq]

@[simp] theorem calls_disconnected : (m.disconnected deviceId).calls = m.calls := by
  obtain ⟨_, _, heq⟩ := disconnected_eq deviceId m
  rw [heq]

@[simp] theorem flights_connectedInbound : (m.connectedInbound deviceId).flights = m.flights := by
  obtain ⟨_, heq⟩ := connectedInbound_eq deviceId m
  rw [heq]

@[simp] theorem calls_connectedInbound : (m.connectedInbound deviceId).calls = m.calls := by
  obtain ⟨_, heq⟩ := connectedInbound_eq deviceId m
  rw [heq]

theorem flight_of_flights (h : m'.flights = m.flights) : m'.flight i = m.flight i := by
  unfold Mesh.flight
  rw [h]

theorem Enters.calls {e : Event} (h : Enters e m m') : m'.calls = m.calls + 1 := by
  cases h with
  | disconnected deviceId => exact calls_disconnected
  | connected deviceId => exact calls_connectedInbound
  | dropped deviceId => exact calls_disconnected
  | timeouts => exact (checkHandshakeTimeouts_onlyObjects m.number).calls
  | accepts p => exact (acceptPeer_onlyObjects p m.number).calls
  | rejects p => exact (rejectPeer_onlyObjects p m.number).calls
  | _ => rfl

/-- An entry moves no flight but the one of the new call. -/
theorem Enters.flight_ne {e : Event} (h : Enters e m m') (hi : i ≠ m.calls) :
    m'.flight i = m.flight i := by
  cases h with
  | disconnected deviceId => exact flight_of_flights flights_disconnected
  | connected deviceId => exact flight_of_flights flights_connectedInbound
  | dropped deviceId => exact flight_of_flights flights_disconnected
  | timeouts => exact flight_of_flights (checkHandshakeTimeouts_onlyObjects m.number).flights
  | accepts p => exact flight_of_flights (acceptPeer_onlyObjects p m.number).flights
  | rejects p => exact flight_of_flights (rejectPeer_onlyObjects p m.number).flights
  | takes e f => exact (flight_launch_ne hi).trans rfl
  | routes deviceId chunk id hr frame f => exact (flight_launch_ne hi).trans rfl
  | lateLink | gc | clock | ignored | reassembles => rfl

/-- Each flight after an entry is one from before or the one of the new call. -/
theorem Enters.flights {e : Event} (h : Enters e m m') {f : Flight} (hf : m'.flight i = some f) :
    m.flight i = some f ∨ (i = m.calls ∧ Begins e m f) := by
  have hold : ∀ m₁ : Mesh, m₁.flights = m.flights → m₁.flight i = some f →
      m.flight i = some f ∨ (i = m.calls ∧ Begins e m f) :=
    fun _ heq hf => Or.inl ((flight_of_flights heq).symm.trans hf)
  have hnew : ∀ (m₁ : Mesh) (g : Flight), m₁.flights = m.flights → Begins e m g →
      (m₁.launch m.calls g).flight i = some f →
      m.flight i = some f ∨ (i = m.calls ∧ Begins e m f) := by
    intro m₁ g heq hbegins hf
    by_cases hi : i = m.calls
    · subst hi
      rw [flight_launch_self] at hf
      cases hf
      exact Or.inr ⟨rfl, hbegins⟩
    · rw [flight_launch_ne hi] at hf
      exact hold m₁ heq hf
  cases h with
  | takes _ _ g htakes => exact hnew m.number g rfl (.takes e m g htakes) hf
  | routes deviceId chunk id hr _ frame g hframe hroutes =>
      refine hnew _ g ?_ (.routes deviceId chunk id hr m frame g hframe hroutes) hf
      exact flights_setReassembler (m := m.number) _
  | disconnected deviceId =>
      exact hold _ (flights_disconnected (m := m.number.outboundDown deviceId)) hf
  | connected deviceId =>
      exact hold _ (flights_connectedInbound (m := m.number.inboundUp deviceId)) hf
  | dropped deviceId =>
      exact hold _ (flights_disconnected (m := m.number.inboundDown deviceId)) hf
  | timeouts => exact hold _ (checkHandshakeTimeouts_onlyObjects m.number).flights hf
  | accepts p => exact hold _ (acceptPeer_onlyObjects p m.number).flights hf
  | rejects p => exact hold _ (rejectPeer_onlyObjects p m.number).flights hf
  | reassembles => exact hold _ (flights_setReassembler (m := m.number) _) hf
  | lateLink | gc | clock | ignored => exact hold _ rfl hf

end Entries

/-! ## Chains -/

/-- The atoms of one segment. -/
abbrev Chain (P : Primitives) (n : ℕ) (e : Event) : Mesh → Mesh → Prop :=
  Relation.ReflTransGen (Atom P n e)

/-- All that a call relies on: the others leave its flight alone. -/
def Rely (n : ℕ) (m m' : Mesh) : Prop := m'.flight n = m.flight n

section Chains

variable {P : Primitives} {n i : ℕ} {e : Event} {m m' : Mesh}

theorem Chain.flight_ne (h : Chain P n e m m') (hi : i ≠ n) : m'.flight i = m.flight i := by
  induction h with
  | refl => rfl
  | tail _ hatom ih => exact (hatom.flight_ne hi).trans ih

theorem Chain.calls (h : Chain P n e m m') : m'.calls = m.calls := by
  induction h with
  | refl => rfl
  | tail _ hatom ih => exact hatom.calls.trans ih

/-- What every atom of a chain keeps, between the chain before it and the one after it,
the chain keeps. -/
theorem Chain.keeps_between {J : Mesh → Prop} (h : Chain P n e m m')
    (hatom : ∀ a b, Chain P n e m a → Atom P n e a b → Chain P n e b m' → J a → J b)
    (hJ : J m) : J m' := by
  induction h with
  | refl => exact hJ
  | tail hbefore ha ih =>
      apply hatom _ _ hbefore ha .refl
      exact ih fun a b hma hab hb => hatom a b hma hab (hb.tail ha)

/-- What every atom keeps, a chain keeps. -/
theorem Chain.keeps {J : Mesh → Prop} (h : Chain P n e m m')
    (hatom : ∀ m m', Atom P n e m m' → J m → J m') (hJ : J m) : J m' :=
  h.keeps_between (fun a b _ hab _ => hatom a b hab) hJ

end Chains

end Oxpulse.Transport
