import Oxpulse.Crypto.NoiseRetry
import Oxpulse.Foundation.Interleaving
import Oxpulse.Transport.Mesh

/-!
# What happens to the mesh

Everything that can enter `transport.ts` — a sighting, a connection event, a
chunk, a timer, a call of the public API — as a coroutine over the module's
state. What the native plugins answer, and what a call draws from the random
number generator, is part of the event.

An event may occur at any time, also one that the native side would not report
in that state; a result about every schedule of events holds the more for those
that do occur.

`n` is the number of the call; it only serves to keep the call's flight.
-/

namespace Oxpulse.Transport

open Oxpulse.Coroutine Oxpulse.Crypto

/-! ## Replies -/

/-- How `getOrCreateDeviceIdentity` and `getOrCreateX25519Keypair` settle, and
Diffie-Hellman with the key. -/
structure IdentityReplies : Type where
  publicKey : Except JsError Bytes
  x25519PublicKey : Except JsError Bytes
  dhX25519 : Bytes → Except JsError Bytes

/-- What the handshake calls draw, and how their chunks fare. -/
structure HandshakeReplies : Type where
  readDraws : NoiseDraws
  writeDraws : NoiseDraws
  writeRx : ℕ → Except JsError Unit

/-- How the calls of the scan callback's `try` block settle. The link is up when
`connect` resolves. Where only the timeout rejects it, the native connect is not
cancelled, and its link may still come up (`Event.lateLink`). -/
structure ConnectReplies : Type where
  connect : Except JsError Unit
  discoverServices : Except JsError Unit
  getMtu : Except JsError ℤ
  startNotifications : Except JsError Unit

/-- The fresh peer id, and how the calls of `startMesh` settle. -/
structure StartReplies : Type where
  peerId : Bytes
  startGattServer : Except JsError Unit
  startAdvertising : Except JsError Unit
  bleInitialize : Except JsError Unit
  requestLEScan : Except JsError Unit
  addRxListener : Except JsError Unit
  addConnectionListener : Except JsError Unit
  /-- Whether there is a `document`. -/
  document : Bool

/-- How the calls of `stopMesh` settle. The loop over the devices ignores
exceptions, so only its length matters; devices that connect while it runs are
visited too. The array of the removers may grow under the loop over it: `rounds`
is how often the loop goes round at most. -/
structure StopReplies : Type where
  stopLEScan : Except JsError Unit
  stopAdvertising : Except JsError Unit
  stopGattServer : Except JsError Unit
  devices : ℕ
  remove : ℕ → Except JsError Unit
  rounds : ℕ

/-- How the calls of a MAC rotation settle. -/
structure RotateReplies : Type where
  stopAdvertising : Except JsError Unit
  stopGattServer : Except JsError Unit
  startGattServer : Except JsError Unit
  startAdvertising : Except JsError Unit

/-- Coroutines over the module's state. -/
abbrev MeshCo (α : Type) : Type := Co Unit Mesh JsError α

section Events

variable (P : Primitives)

/-! ## Calls on shared objects -/

/-- A handshake call on the object `ref`. -/
def onCrypto {α : Type} (n ref : ℕ) (deviceId : DeviceId)
    (m : Co Unit HandshakeView JsError α) : MeshCo α :=
  Co.zoom (Mesh.view ref deviceId) (Mesh.putView n ref deviceId) m

/-- A call on the session object that `ref` has at the start. -/
def onSession {α : Type} (ref n : ℕ) (s : RatchetSession)
    (m : Co Unit RatchetSession JsError α) : MeshCo α :=
  Co.zoom (Mesh.session ref n s) (Mesh.setSession ref n) m

/-! ## The handshake -/

def getLocalIdentity (id : IdentityReplies) : MeshCo DeviceIdentityProvider := do
  let m ← get
  match m.localIdentityProvider with
  | some provider => pure provider
  | none => do
      let publicKey ← Co.await (Co.ofExcept id.publicKey)
      let x25519PublicKey ← Co.await (Co.ofExcept id.x25519PublicKey)
      let provider : DeviceIdentityProvider :=
        ⟨.ok publicKey, .ok x25519PublicKey, id.dhX25519⟩
      modify fun m => { m with localIdentityProvider := some provider }
      pure provider

/-- The end of `initiateHandshake`, on the initiator. -/
def sendMsg1 (deviceId : DeviceId) (hr : HandshakeReplies) :
    Co Unit HandshakeView JsError Unit := do
  let msg1 ← Co.await (onHandshake (NoiseXxHandshake.writeMessage P hr.writeDraws []))
  let v ← get
  let mtu := v.mtu.getD GATT_MTU_DEFAULT
  let chunks ← Co.ofExcept (chunkFrame msg1 mtu FrameType.HandshakeMsg1)
  writeChunks deviceId hr.writeRx chunks 0

/-- The part of `initiateHandshake` that follows `await getLocalIdentity()`. -/
def openHandshake (n : ℕ) (deviceId : DeviceId) (peerId : Bytes) (hr : HandshakeReplies)
    (identity : DeviceIdentityProvider) : MeshCo Unit := do
  let m ← get
  match m.peerId with
  | none => pure ()
  | some ourPeerId =>
      if m.connectedDevices.has deviceId then do
        let role := Mesh.roleFor ourPeerId peerId
        modify (Mesh.create deviceId (.new P role identity (hex peerId) m.now))
        modify (Mesh.launch n (.opened m.objects.length deviceId role))
        match role with
        | .initiator => onCrypto n m.objects.length deviceId (sendMsg1 P deviceId hr)
        | .responder => pure ()
      else pure ()

def initiateHandshake (n : ℕ) (deviceId : DeviceId) (peerId : Bytes) (id : IdentityReplies)
    (hr : HandshakeReplies) : MeshCo Unit := do
  let identity ← Co.await (getLocalIdentity id)
  openHandshake P n deviceId peerId hr identity

def handshakeFrame (frame : ReassembledFrame) (hr : HandshakeReplies) : HandshakeFrame where
  frameType := frame.frameType
  payload := frame.payload
  readDraws := hr.readDraws
  writeDraws := hr.writeDraws
  writeRx := hr.writeRx

/-- `advanceHandshake(...).catch(err => failHandshake(cs, ...))`. -/
def routeHandshake (n : ℕ) (ref : ℕ) (deviceId : DeviceId) (f : HandshakeFrame) :
    MeshCo Unit := do
  modify (Mesh.engage n ref deviceId f.payload)
  match ← Co.attempt (Co.await (onCrypto n ref deviceId (advanceHandshake P deviceId f))) with
  | .error _ => modify (Mesh.failHandshake (some ref))
  | .ok _ => pure ()

/-! ## Scanning -/

/-- What `negotiateMtu` makes of the answer. -/
def clampMtu : Except JsError ℤ → ℕ
  | .error _ => GATT_MTU_DEFAULT
  | .ok mtu =>
      if 0 < mtu ∧ mtu ≤ GATT_MTU_TARGET then mtu.toNat
      else if GATT_MTU_TARGET < mtu then GATT_MTU_TARGET
      else GATT_MTU_DEFAULT

def negotiateMtu (getMtu : Except JsError ℤ) : MeshCo ℕ := do
  let mtu ← Co.attempt (Co.await (Co.ofExcept getMtu))
  pure (clampMtu mtu)

def connect (n : ℕ) (deviceId : DeviceId) (c : ConnectReplies) : MeshCo Unit := do
  Co.await (Co.ofExcept c.connect)
  modify (Mesh.linkUp n deviceId)
  Co.await (Co.ofExcept c.discoverServices)

/-- The scan callback's `try` block, up to the handshake. -/
def connectPeer (n : ℕ) (sighting : Mesh.PeerSighting) (c : ConnectReplies) : MeshCo Unit := do
  Co.await (connect n sighting.deviceId c)
  let mtu ← Co.await (negotiateMtu c.getMtu)
  modify fun m => { m with mtuCache := m.mtuCache.set sighting.deviceId mtu }
  Co.await (Co.await (Co.ofExcept c.startNotifications))
  modify (Mesh.connectedOutbound sighting)
  modify (Mesh.launch n (.opening sighting.deviceId))

/-- `initiateHandshake(...).catch(...)`: the `CryptoState` that fails is the one
registered for the device by then. -/
def startHandshake (n : ℕ) (sighting : Mesh.PeerSighting) (id : IdentityReplies)
    (hr : HandshakeReplies) : MeshCo Unit := do
  match ← Co.attempt
      (Co.await (initiateHandshake P n sighting.deviceId sighting.peerId id hr)) with
  | .error _ => modify fun m => m.failHandshake (m.cryptoStates.get? sighting.deviceId)
  | .ok _ => pure ()

/-- The scan callback. -/
def onSighting (n : ℕ) (sighting : Mesh.PeerSighting) (c : ConnectReplies) (id : IdentityReplies)
    (hr : HandshakeReplies) : MeshCo Unit := do
  let m ← get
  if m.connectedDevices.has sighting.deviceId then pure ()
  else if m.connectedDevices.size ≥ MAX_BLE_CONNECTIONS then pure ()
  else if m.now < (m.backoff.get? sighting.deviceId).getD 0 then pure ()
  else do
    modify (Mesh.launch n (.connecting sighting.deviceId))
    match ← Co.attempt (connectPeer n sighting c) with
    | .error _ => modify (Mesh.armBackoff sighting.deviceId)
    | .ok _ => startHandshake P n sighting id hr

/-! ## Incoming chunks -/

/-- What follows `getLocalIdentity()` in the responder bootstrap. -/
def bootstrap (n : ℕ) (deviceId : DeviceId) (peerIdHex : PeerIdHex) (role : Role)
    (f : HandshakeFrame) (identity : DeviceIdentityProvider) : MeshCo Unit := do
  let m ← get
  if m.connectedDevices.has deviceId then
    if m.cryptoStates.has deviceId then pure ()
    else do
      modify (Mesh.create deviceId (.new P role identity peerIdHex m.now))
      routeHandshake P n m.objects.length deviceId f
  else pure ()

/-- A handshake frame from a device without a `CryptoState`. -/
def bootstrapResponder (n : ℕ) (deviceId : DeviceId) (id : IdentityReplies)
    (f : HandshakeFrame) : MeshCo Unit := do
  let m ← get
  match m.peerId with
  | none => pure ()
  | some ourPeerId =>
      let peer := m.registry.list.find? fun p => p.mac == deviceId
      let peerIdHex := (peer.map Peer.idHex).getD deviceId
      let role := (peer.map fun p =>
        Mesh.roleFor ourPeerId (Mesh.fromHex p.idHex.toList)).getD .responder
      modify (Mesh.launch n (.bootstrapping deviceId))
      match ← Co.attempt (Co.await (getLocalIdentity id)) with
      | .error _ => modify (Mesh.failHandshake none)
      | .ok identity => bootstrap P n deviceId peerIdHex role f identity

/-- `err.message`; the texts of the libraries are not modelled. -/
def errorMessage : JsError → String
  | .error message => message
  | .noiseStateError message => message
  | .library => ""

/-- `message.includes(word)`. -/
def includes (message word : String) : Bool := decide (word.toList <:+: message.toList)

/-- The catch block around `decrypt`. -/
def decryptFailed (e : JsError) (m : Mesh) : Mesh :=
  { m with error :=
      if includes (errorMessage e) "replay" then some .replayRejected
      else some .handshakeFailed }

def deliver (ref : ℕ) (plaintext : Bytes) (m : Mesh) : Mesh :=
  { m with delivered :=
      m.delivered ++ [⟨(m.object ref).peerIdHex, ref, plaintext⟩] }

/-- A session frame for the object `ref`. -/
def receiveData (n : ℕ) (ref : ℕ) (payload : Bytes) : MeshCo Unit := do
  let m ← get
  match (m.object ref).verdict, (m.object ref).session with
  | .accepted, some s => do
      modify (Mesh.launch n (.receiving ref))
      match ← Co.attempt (Co.await (onSession ref (m.object ref).sessionCount s
          (RatchetSession.decrypt P payload []))) with
      | .error e => modify (decryptFailed e)
      | .ok plaintext => modify (deliver ref plaintext)
  | _, _ => pure ()

/-- Where a reassembled frame goes. -/
def routeFrame (n : ℕ) (deviceId : DeviceId) (frame : ReassembledFrame) (id : IdentityReplies)
    (hr : HandshakeReplies) : MeshCo Unit := do
  let m ← get
  match m.cryptoStates.get? deviceId with
  | none =>
      if frame.frameType = FrameType.SessionData then pure ()
      else bootstrapResponder P n deviceId id (handshakeFrame frame hr)
  | some ref =>
      if frame.frameType = FrameType.SessionData then receiveData P n ref frame.payload
      else routeHandshake P n ref deviceId (handshakeFrame frame hr)

def handleIncomingChunk (n : ℕ) (deviceId : DeviceId) (chunk : Bytes) (id : IdentityReplies)
    (hr : HandshakeReplies) : MeshCo Unit := do
  let m ← get
  let (r, frame) := ((m.reassemblers.get? deviceId).getD .new).receive chunk
  modify (Mesh.setReassembler deviceId r)
  match frame with
  | none => pure ()
  | some frame => routeFrame P n deviceId frame id hr

/-! ## Sending -/

def logSent (entry : SentChunk) (m : Mesh) : Mesh :=
  { m with
    written := m.written ++ [(entry.deviceId, entry.chunk)]
    sent := m.sent ++ [entry] }

/-- One chunk of a session frame; its outcome is awaited. -/
def sendChunk (n : ℕ) (peerIdHex : PeerIdHex) (ref : ℕ) (deviceId : DeviceId)
    (outcome : Except JsError Unit) (chunk : Bytes) : MeshCo Unit := do
  modify (logSent ⟨n, peerIdHex, ref, deviceId, chunk⟩)
  Co.await (Co.ofExcept outcome)

def sendChunks (n : ℕ) (peerIdHex : PeerIdHex) (ref : ℕ) (deviceId : DeviceId)
    (outcome : ℕ → Except JsError Unit) : List Bytes → ℕ → MeshCo Unit
  | [], _ => pure ()
  | chunk :: chunks, i => do
      sendChunk n peerIdHex ref deviceId (outcome i) chunk
      sendChunks n peerIdHex ref deviceId outcome chunks (i + 1)

def sendFrame (n : ℕ) (peerIdHex : PeerIdHex) (frame : Bytes)
    (writeRx : ℕ → Except JsError Unit) : MeshCo Unit := do
  let m ← get
  let target ← Co.ofExcept (m.sendTarget peerIdHex)
  modify (Mesh.launch n (.sending peerIdHex target.ref target.deviceId))
  let mtu := (m.mtuCache.get? target.deviceId).getD GATT_MTU_DEFAULT
  let ciphertext ← Co.await (onSession target.ref (m.object target.ref).sessionCount
    target.session (RatchetSession.encrypt P frame []))
  let chunks ← Co.ofExcept (chunkFrame ciphertext mtu FrameType.SessionData)
  sendChunks n peerIdHex target.ref target.deviceId writeRx chunks 0

/-! ## Start and stop -/

/-- The kinds of a failed start, the most specific words first. -/
def classifyMeshError (e : JsError) : MeshErrorKind :=
  let lower := (errorMessage e).toLower
  if ["not implemented", "plugin", "undefined"].any (includes lower) then .pluginAbsent
  else if ["permission", "missing-bluetooth-permission", "denied"].any (includes lower) then
    .permissionDenied
  else if ["bluetooth", "bluetoothnotenabled", "ble not enabled", "disabled",
      "le advertising not supported"].any (includes lower) then .bleOff
  else .unknown

/-- A native call that turns something on: it is on from the call, unless the
call fails. -/
def switchOn (outcome : Except JsError Unit) (on : Mesh → Mesh) : MeshCo Unit := do
  modify fun m => if outcome.isOk then on m else m
  Co.await (Co.ofExcept outcome)

/-- A native call that turns something off: it is off when the call resolves. -/
def switchOff (outcome : Except JsError Unit) (off : Mesh → Mesh) : MeshCo Unit := do
  Co.await (Co.ofExcept outcome)
  modify off

def startAdvertising (peerId : Bytes) (startGattServer startAdvertising : Except JsError Unit)
    (begun : Mesh → Mesh) : MeshCo Unit := do
  if peerId.length ≠ PEER_ID_BYTES then
    throw (.error ("startAdvertising: peerId must be 8 bytes, got " ++ toString peerId.length))
  else do
    switchOn startGattServer fun m => begun (m.setGattServer true)
    switchOn startAdvertising (Mesh.setAdvertising true)

def stopAdvertising (stopAdvertising stopGattServer : Except JsError Unit)
    (staged : Mesh → Mesh) : MeshCo Unit := do
  switchOff stopAdvertising fun m => staged (m.setAdvertising false)
  switchOff stopGattServer fun m => staged (m.setGattServer false)

def startScan (r : StartReplies) : MeshCo Unit := do
  Co.await (do
    let m ← get
    if m.initialized then pure ()
    else do
      Co.await (Co.ofExcept r.bleInitialize)
      modify fun m => { m with initialized := true })
  switchOn r.requestLEScan (Mesh.setScan true)

/-- `addListener`, and the remover that is pushed when it resolves. -/
def addListener (n : ℕ) (outcome : Except JsError Unit) : MeshCo Unit := do
  let m ← get
  let handle := m.native.handles
  switchOn outcome fun m => m.listen.launch n (.starting true (some handle))
  modify fun m => (m.pushRemover handle).launch n (.starting true none)

/-- The `try` block of `startMesh`. -/
def startAll (n : ℕ) (r : StartReplies) : MeshCo Unit := do
  modify fun m => { m with peerId := some r.peerId }
  Co.await (startAdvertising r.peerId r.startGattServer r.startAdvertising
    (Mesh.launch n (.starting true none)))
  Co.await (startScan r)
  addListener n r.addRxListener
  addListener n r.addConnectionListener
  modify fun m => (m.running r.document).launch n .started

def startMesh (n : ℕ) (r : StartReplies) : MeshCo Unit := do
  let m ← get
  if m.advertising || m.scanning then pure ()
  else do
    modify (Mesh.launch n (.starting false none))
    match ← Co.attempt (startAll n r) with
    | .error e => do
        modify fun m => { m with error := some (classifyMeshError e) }
        throw e
    | .ok _ => pure ()

/-- Calls whose exceptions are ignored, one after the other. -/
def awaitAll : ℕ → MeshCo Unit
  | 0 => pure ()
  | n + 1 => do
      let _ ← Co.suspend
      awaitAll n

/-- The loop over the removers; what they throw is ignored. -/
def removeListeners (n : ℕ) (remove : ℕ → Except JsError Unit) : ℕ → ℕ → MeshCo Unit
  | 0, _ => throw .library
  | rounds + 1, i => do
      let m ← get
      match m.listenerRemovers[i]? with
      | none => pure ()
      | some handle => do
          modify (Mesh.launch n (.sweeping i (some handle)))
          let removed ← Co.attempt (Co.await (Co.ofExcept (remove i)))
          modify fun m =>
            (if removed.isOk then m.unlisten handle else m).launch n (.sweeping (i + 1) none)
          removeListeners n remove rounds (i + 1)

def stopMesh (n : ℕ) (r : StopReplies) : MeshCo Unit := do
  modify (Mesh.launch n (.stopping 0))
  Co.await (switchOff r.stopLEScan fun m => (m.setScan false).stage n)
  Co.await (stopAdvertising r.stopAdvertising r.stopGattServer (Mesh.stage n))
  modify fun m => m.stopTimers.stage n
  -- `unsubscribe` and `disconnect` for each device
  awaitAll (2 * r.devices)
  modify fun m => m.disconnectAll.launch n (.sweeping 0 none)
  removeListeners n r.remove r.rounds 0
  modify Mesh.clear

/-- The callback of the MAC rotation: restart advertising. -/
def rotate (n : ℕ) (peerId : Bytes) (r : RotateReplies) : MeshCo Unit := do
  modify (Mesh.launch n .rotating)
  let _ ← Co.attempt (do
    Co.await (stopAdvertising r.stopAdvertising r.stopGattServer id)
    Co.await (startAdvertising peerId r.startGattServer r.startAdvertising id))
  pure ()

/-! ## Events -/

inductive Event : Type where
  | startMesh (r : StartReplies)
  | stopMesh (r : StopReplies)
  /-- The MAC rotation timer fires, with the id its callback captured. -/
  | rotate (peerId : Bytes) (r : RotateReplies)
  | sighting (s : Mesh.PeerSighting) (c : ConnectReplies) (id : IdentityReplies)
      (hr : HandshakeReplies)
  /-- A native connect that its timeout gave up comes up. -/
  | lateLink (deviceId : DeviceId)
  /-- The callback of an outbound link. -/
  | disconnected (deviceId : DeviceId)
  /-- A connection event of the GATT server. -/
  | connection (deviceId : DeviceId) (connected : Bool)
  /-- A write to our RX characteristic, or a notification of the peer's TX one. -/
  | chunk (deviceId : DeviceId) (chunk : Bytes) (id : IdentityReplies) (hr : HandshakeReplies)
  | gcTick
  | timeoutTick
  /-- Time passes. -/
  | clock (ms : ℕ)
  | acceptPeer (peerIdHex : PeerIdHex)
  | rejectPeer (peerIdHex : PeerIdHex)
  | sendFrame (peerIdHex : PeerIdHex) (frame : Bytes) (writeRx : ℕ → Except JsError Unit)

def respond (n : ℕ) : Event → MeshCo Unit
  | .startMesh r => startMesh n r
  | .stopMesh r => stopMesh n r
  | .rotate peerId r => rotate n peerId r
  | .sighting s c id hr => onSighting P n s c id hr
  | .lateLink deviceId => modify (Mesh.outboundUp deviceId)
  | .disconnected deviceId => do
      modify (Mesh.outboundDown deviceId)
      modify (Mesh.disconnected deviceId)
  | .connection deviceId true => do
      modify (Mesh.inboundUp deviceId)
      modify (Mesh.connectedInbound deviceId)
  | .connection deviceId false => do
      modify (Mesh.inboundDown deviceId)
      modify (Mesh.disconnected deviceId)
  | .chunk deviceId chunk id hr => handleIncomingChunk P n deviceId chunk id hr
  | .gcTick => modify Mesh.gc
  | .timeoutTick => modify Mesh.checkHandshakeTimeouts
  | .clock ms => modify fun m => { m with now := m.now + ms }
  | .acceptPeer peerIdHex => modify (Mesh.acceptPeer peerIdHex)
  | .rejectPeer peerIdHex => modify (Mesh.rejectPeer peerIdHex)
  | .sendFrame peerIdHex frame writeRx => sendFrame P n peerIdHex frame writeRx

/-- The call lands, however it ends. -/
def landing (n : ℕ) (co : MeshCo Unit) : MeshCo Unit := do
  match ← Co.attempt co with
  | .error e => do
      modify (Mesh.land n)
      throw e
  | .ok _ => modify (Mesh.land n)

/-- What an event does, as call number `calls`. -/
def handle (e : Event) : MeshCo Unit := do
  let m ← get
  modify Mesh.number
  landing m.calls (respond P m.calls e)

end Events

abbrev MeshPool : Type := Pool Event Unit Mesh JsError Unit

/-- The pool a schedule of events leaves. -/
def meshRun (P : Primitives) (m : Mesh) (ms : List (Move Event Unit)) : MeshPool :=
  (Pool.fresh m).exec (handle P) ms

/-! ## Sample events

For runs on fixed inputs: every native call succeeds. -/

def sampleStart : StartReplies where
  peerId := List.replicate 8 1
  startGattServer := .ok ()
  startAdvertising := .ok ()
  bleInitialize := .ok ()
  requestLEScan := .ok ()
  addRxListener := .ok ()
  addConnectionListener := .ok ()
  document := false

def sampleConnect : ConnectReplies where
  connect := .ok ()
  discoverServices := .ok ()
  getMtu := .ok 247
  startNotifications := .ok ()

def sampleIdentity : IdentityReplies where
  publicKey := .ok (List.replicate 32 1)
  x25519PublicKey := .ok (Primitives.sample.x25519PublicKey (List.replicate 32 3))
  dhX25519 := getSharedSecret .sample (List.replicate 32 3)

def sampleReplies : HandshakeReplies where
  readDraws := .sample 8
  writeDraws := .sample 5
  writeRx := fun _ => .ok ()

/-- The peer whose id repeats the byte is seen at the address. -/
def sightingOf (id : UInt8) (deviceId : DeviceId) : Event :=
  .sighting ⟨deviceId, -50, List.replicate 8 id⟩ sampleConnect sampleIdentity sampleReplies

/-- Call `i`, resumed so many times before anything else happens. -/
def alone (i : ℕ) (e : Event) (k : ℕ) : List (Move Event Unit) :=
  .start e :: List.replicate k (.resume i ())

/-- The chunks of a frame arrive, as calls from number `i` on. -/
def arrives (deviceId : DeviceId) (k : ℕ) : ℕ → List Bytes → List (Move Event Unit)
  | _, [] => []
  | i, chunk :: chunks =>
      alone i (.chunk deviceId chunk sampleIdentity sampleReplies) k ++
        arrives deviceId k (i + 1) chunks

/-- A frame as the peer cuts it. -/
def chunksOf (payload : Bytes) (frameType : FrameType) : List Bytes :=
  match chunkFrame payload GATT_MTU_TARGET frameType with
  | .ok chunks => chunks
  | .error _ => []

end Oxpulse.Transport
