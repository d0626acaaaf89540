import Mathlib.Data.Finset.Basic
import Oxpulse.Transport.Handshake

/-!
# The mesh module

The module-level state of `transport.ts` and the steps on it that run without a
suspension: looking up and creating `CryptoState` objects, verdicts, timeouts,
backoff, and the choice `sendFrame` makes of an address and a session. What
happens across suspensions is in `MeshEvents`.

Objects are shared: a call that is in flight holds its `CryptoState` while the
map forgets it. `objects` is the heap of every `CryptoState` created so far;
the map and the calls hold indices into it.

Some fields are there for the statements only and no step reads them: `sent` and
`delivered`, the links that `native` records, and the `flights`, which say for
each call that is under way how far it got.
-/

namespace Oxpulse.Transport

open Oxpulse.Coroutine Oxpulse.Crypto

def MAX_BLE_CONNECTIONS : ℕ := 6
def HANDSHAKE_TIMEOUT_MS : ℕ := 15000
def GATT_MTU_TARGET : ℕ := 247
def BACKOFF_STEPS_MS : List ℕ := [5000, 15000, 60000]

deriving instance Inhabited for JsError, Direction, DeviceIdentityProvider, NoiseState,
  NoiseXxHandshake, CryptoVerdict, CryptoState

/-- What the native side keeps up, as its calls and reports tell. -/
structure Native : Type where
  outbound : Finset DeviceId
  inbound : Finset DeviceId
  gattServer : Bool
  advertising : Bool
  scan : Bool
  /-- Handles of the listeners that were added and not removed. -/
  listeners : List ℕ
  /-- Handles of the timers that run. -/
  timers : List ℕ
  /-- The next handle. -/
  handles : ℕ
deriving DecidableEq

def Native.new : Native where
  outbound := ∅
  inbound := ∅
  gattServer := false
  advertising := false
  scan := false
  listeners := []
  timers := []
  handles := 0

/-- How far a call got that is under way. -/
inductive Flight : Type where
  /-- The scan callback waits for the link. -/
  | connecting (deviceId : DeviceId)
  /-- The link is up and the scan callback's `try` block goes on. -/
  | linked (deviceId : DeviceId)
  /-- `initiateHandshake` has created no `CryptoState` yet. -/
  | opening (deviceId : DeviceId)
  /-- `initiateHandshake` created the object; the initiator sends msg-1. -/
  | opened (ref : ℕ) (deviceId : DeviceId) (role : Role)
  /-- The responder bootstrap waits for the identity. -/
  | bootstrapping (deviceId : DeviceId)
  /-- A handshake frame that the object may read. -/
  | advancing (ref : ℕ) (deviceId : DeviceId)
  /-- The frame completed the handshake and the session is derived. -/
  | concluded (ref : ℕ) (deviceId : DeviceId)
  /-- A handshake frame that the object refuses on sight. -/
  | refusing (ref : ℕ) (deviceId : DeviceId)
  | receiving (ref : ℕ)
  | sending (peerIdHex : PeerIdHex) (ref : ℕ) (deviceId : DeviceId)
  /-- `startMesh`: whether the GATT server was started, and the handle of a
  listener without a remover. -/
  | starting (begun : Bool) (handle : Option ℕ)
  /-- `startMesh` has set its flags. -/
  | started
  /-- `stopMesh`, so many steps after its begin. -/
  | stopping (stage : ℕ)
  /-- `stopMesh` in the loop over the removers, at this index: the handle of the
  listener that is being removed. -/
  | sweeping (index : ℕ) (handle : Option ℕ)
  | rotating
deriving DecidableEq

/-- The device of an outbound connect attempt. -/
def Flight.attempt : Flight → Option DeviceId
  | .connecting deviceId => some deviceId
  | .linked deviceId => some deviceId
  | _ => none

/-- An entry of `connectedDevices`: its `unsubscribe` stops the notifications of
an outbound link and does nothing for an inbound one. -/
inductive Link : Type where
  | outbound
  | inbound
deriving DecidableEq

/-- A chunk `sendFrame` wrote: the number of the call, the peer it names, and the
`CryptoState` whose session encrypted the frame. -/
structure SentChunk : Type where
  call : ℕ
  peerIdHex : PeerIdHex
  ref : ℕ
  deviceId : DeviceId
  chunk : Bytes
deriving DecidableEq

/-- What the frame handlers are called with, and the `CryptoState` whose session
decrypted it. -/
structure Delivery : Type where
  peerIdHex : PeerIdHex
  ref : ℕ
  plaintext : Bytes
deriving DecidableEq

structure Mesh : Type where
  /-- `meshState.error`. -/
  error : Option MeshErrorKind
  advertising : Bool
  scanning : Bool
  registry : PeerRegistry
  peerId : Option Bytes
  mtuCache : InsMap DeviceId ℕ
  reassemblers : InsMap DeviceId FrameReassembler
  /-- The heap of `CryptoState` objects. -/
  objects : List CryptoState
  cryptoStates : InsMap DeviceId ℕ
  tofu : TofuStore
  connectedDevices : InsMap DeviceId Link
  /-- The time after which a device may be tried again. -/
  backoff : InsMap DeviceId ℕ
  backoffCounts : InsMap DeviceId ℕ
  localIdentityProvider : Option DeviceIdentityProvider
  /-- `initialized` of `ble-scanner.ts`. -/
  initialized : Bool
  /-- `Date.now()`. -/
  now : ℕ
  /-- The chunks handed to `writeRx`. -/
  written : List (DeviceId × Bytes)
  /-- How often `notifyHandshakeChange` ran. -/
  notified : ℕ
  /-- Those of the written chunks that `sendFrame` wrote. -/
  sent : List SentChunk
  delivered : List Delivery
  gcInterval : Option ℕ
  handshakeTimeoutInterval : Option ℕ
  macRotation : Option ℕ
  listenerRemovers : List ℕ
  native : Native
  /-- How many calls were made; the next one has this number. -/
  calls : ℕ
  flights : InsMap ℕ Flight

namespace Mesh

/-- The module after it was loaded; the TOFU store is persistent. -/
def initial (tofu : TofuStore) (now : ℕ) : Mesh where
  error := none
  advertising := false
  scanning := false
  registry := .new
  peerId := none
  mtuCache := .empty
  reassemblers := .empty
  objects := []
  cryptoStates := .empty
  tofu := tofu
  connectedDevices := .empty
  backoff := .empty
  backoffCounts := .empty
  localIdentityProvider := none
  initialized := false
  now := now
  written := []
  notified := 0
  sent := []
  delivered := []
  gcInterval := none
  handshakeTimeoutInterval := none
  macRotation := none
  listenerRemovers := []
  native := .new
  calls := 0
  flights := .empty

/-! ## Calls under way -/

/-- A call gets its number. -/
def number (m : Mesh) : Mesh := { m with calls := m.calls + 1 }

def flight (n : ℕ) (m : Mesh) : Option Flight := m.flights.get? n

/-- Call `n` got this far. -/
def launch (n : ℕ) (f : Flight) (m : Mesh) : Mesh := { m with flights := m.flights.set n f }

/-- The next stage of a `stopMesh`. -/
def stage (n : ℕ) (m : Mesh) : Mesh :=
  match m.flight n with
  | some (.stopping k) => m.launch n (.stopping (k + 1))
  | _ => m

/-- Call `n` ended. -/
def land (n : ℕ) (m : Mesh) : Mesh := { m with flights := m.flights.delete n }

/-! ## The heap -/

def object (m : Mesh) (ref : ℕ) : CryptoState := m.objects.getD ref default

def setObject (ref : ℕ) (cs : CryptoState) (m : Mesh) : Mesh :=
  { m with objects := m.objects.set ref cs }

/-- `cryptoStates.set(deviceId, cs)` with a new object. -/
def create (deviceId : DeviceId) (cs : CryptoState) (m : Mesh) : Mesh :=
  { m with
    objects := m.objects ++ [cs]
    cryptoStates := m.cryptoStates.set deviceId m.objects.length }

/-- What a handshake call on this object touches. -/
def view (ref : ℕ) (deviceId : DeviceId) (m : Mesh) : HandshakeView where
  cs := m.object ref
  mtu := m.mtuCache.get? deviceId
  now := m.now
  tofu := m.tofu
  error := m.error
  written := m.written
  notified := m.notified
  derived := false

def setView (ref : ℕ) (v : HandshakeView) (m : Mesh) : Mesh :=
  { m.setObject ref v.cs with
    tofu := v.tofu
    error := v.error
    written := v.written
    notified := v.notified }

/-- What a segment of call `n` leaves of the view. Once it has derived the
session it is past its work on the object. -/
def putView (n ref : ℕ) (deviceId : DeviceId) (v : HandshakeView) (m : Mesh) : Mesh :=
  if v.derived then (m.setView ref v).launch n (.concluded ref deviceId) else m.setView ref v

/-- Call `n` gets to a handshake frame for the object. -/
def engage (n ref : ℕ) (deviceId : DeviceId) (payload : Bytes) (m : Mesh) : Mesh :=
  m.launch n (if RefusedOnSight (m.object ref).handshake payload then .refusing ref deviceId
    else .advancing ref deviceId)

/-- The `n`-th session object of a `CryptoState`. Once it is replaced, what the
calls that still hold it do to it is seen by nobody. -/
def session (ref n : ℕ) (s₀ : RatchetSession) (m : Mesh) : RatchetSession :=
  if (m.object ref).sessionCount = n then (m.object ref).session.getD s₀ else s₀

def setSession (ref n : ℕ) (s : RatchetSession) (m : Mesh) : Mesh :=
  if (m.object ref).sessionCount = n then
    m.setObject ref { m.object ref with session := some s }
  else m

def notifyHandshakeChange (m : Mesh) : Mesh := { m with notified := m.notified + 1 }

def setReassembler (deviceId : DeviceId) (r : FrameReassembler) (m : Mesh) : Mesh :=
  { m with reassemblers := m.reassemblers.set deviceId r }

/-! ## Verdicts -/

/-- The first `CryptoState` with this peer id, in insertion order. -/
def findPeer (peerIdHex : PeerIdHex) (m : Mesh) : Option ℕ :=
  m.cryptoStates.values.find? fun ref => (m.object ref).peerIdHex == peerIdHex

def acceptPeer (peerIdHex : PeerIdHex) (m : Mesh) : Mesh :=
  match m.findPeer peerIdHex with
  | none => m
  | some ref =>
      let (cs, changed) := transitionVerdict .accepted (m.object ref)
      if changed then (m.setObject ref cs).notifyHandshakeChange else m

def rejectPeer (peerIdHex : PeerIdHex) (m : Mesh) : Mesh :=
  match m.findPeer peerIdHex with
  | none => m
  | some ref =>
      let (cs, changed) := transitionVerdict .rejected (m.object ref)
      if changed then
        { (m.setObject ref cs).notifyHandshakeChange with error := some .unknownPeerKey }
      else m

/-- The test of `getPendingHandshakes`. -/
def awaitsDecision (cs : CryptoState) : Bool :=
  cs.sas.isSome && cs.verdict == .pending && cs.peerPubkeyB64.isSome

structure PendingHandshake : Type where
  peerIdHex : PeerIdHex
  sas : String
  peerPubkeyB64 : String
  keyChanged : Bool
deriving DecidableEq

def getPendingHandshakes (m : Mesh) : List PendingHandshake :=
  ((m.cryptoStates.values.map m.object).filter awaitsDecision).map fun cs =>
    ⟨cs.peerIdHex, cs.sas.getD "", cs.peerPubkeyB64.getD "", cs.keyChanged⟩

def failHandshake (cs : Option ℕ) (m : Mesh) : Mesh :=
  match cs with
  | none => { m with error := some .handshakeFailed }
  | some ref =>
      let (cs, changed) := transitionVerdict .rejected (m.object ref)
      let m := m.setObject ref cs
      { if changed then m.notifyHandshakeChange else m with error := some .handshakeFailed }

/-- One round of the loop of `checkHandshakeTimeouts`. -/
def checkTimeout (m : Mesh) (entry : DeviceId × ℕ) : Mesh :=
  let cs := m.object entry.2
  if cs.verdict ≠ .pending then m
  else if cs.session.isSome then m
  else if m.connectedDevices.has entry.1 = false then m
  else if m.now - cs.handshakeStartedAt > HANDSHAKE_TIMEOUT_MS then
    { (m.setObject entry.2 (transitionVerdict .rejected cs).1).notifyHandshakeChange with
      error := some .handshakeFailed }
  else m

def checkHandshakeTimeouts (m : Mesh) : Mesh := m.cryptoStates.entries.foldl checkTimeout m

/-! ## Links and backoff -/

def nextBackoffMs (deviceId : DeviceId) (m : Mesh) : ℕ :=
  let count := (m.backoffCounts.get? deviceId).getD 0
  BACKOFF_STEPS_MS.getD (min count (BACKOFF_STEPS_MS.length - 1)) 0

/-- The catch block of the scan callback. -/
def armBackoff (deviceId : DeviceId) (m : Mesh) : Mesh :=
  { m with
    backoff := m.backoff.set deviceId (m.now + m.nextBackoffMs deviceId)
    backoffCounts :=
      m.backoffCounts.set deviceId ((m.backoffCounts.get? deviceId).getD 0 + 1) }

/-- An armed window survives. -/
def clearBackoff (deviceId : DeviceId) (m : Mesh) : Mesh :=
  if (m.backoff.get? deviceId).getD 0 > m.now then m
  else
    { m with
      backoff := m.backoff.delete deviceId
      backoffCounts := m.backoffCounts.delete deviceId }

/-- A disconnect, reported by the outbound link or by the GATT server: drop what
is kept for the device. -/
def disconnected (deviceId : DeviceId) (m : Mesh) : Mesh :=
  clearBackoff deviceId
    { m with
      connectedDevices := m.connectedDevices.delete deviceId
      mtuCache := m.mtuCache.delete deviceId
      reassemblers := m.reassemblers.delete deviceId
      cryptoStates := m.cryptoStates.delete deviceId }

/-- The GATT server reports a device that connected to us. -/
def connectedInbound (deviceId : DeviceId) (m : Mesh) : Mesh :=
  if m.connectedDevices.has deviceId then m
  else { m with connectedDevices := m.connectedDevices.set deviceId .inbound }

def outboundUp (deviceId : DeviceId) (m : Mesh) : Mesh :=
  { m with native := { m.native with outbound := insert deviceId m.native.outbound } }

/-- The outbound link of call `n` is up. -/
def linkUp (n : ℕ) (deviceId : DeviceId) (m : Mesh) : Mesh :=
  launch n (.linked deviceId) (outboundUp deviceId m)

def outboundDown (deviceId : DeviceId) (m : Mesh) : Mesh :=
  { m with native := { m.native with outbound := m.native.outbound.erase deviceId } }

def inboundUp (deviceId : DeviceId) (m : Mesh) : Mesh :=
  { m with native := { m.native with inbound := insert deviceId m.native.inbound } }

def inboundDown (deviceId : DeviceId) (m : Mesh) : Mesh :=
  { m with native := { m.native with inbound := m.native.inbound.erase deviceId } }

structure PeerSighting : Type where
  deviceId : DeviceId
  rssi : ℤ
  peerId : Bytes

/-- The end of the scan callback's `try` block. -/
def connectedOutbound (sighting : PeerSighting) (m : Mesh) : Mesh :=
  { m with
    registry := m.registry.upsert m.now sighting.peerId sighting.deviceId (some sighting.rssi)
    connectedDevices := m.connectedDevices.set sighting.deviceId .outbound
    backoff := m.backoff.delete sighting.deviceId
    backoffCounts := m.backoffCounts.delete sighting.deviceId }

/-- The tick of the garbage collector. -/
def gc (m : Mesh) : Mesh :=
  { m with
    registry := m.registry.gc m.now
    backoff := m.backoff.filter fun _ retryAt => decide (m.now < retryAt)
    backoffCounts := m.backoffCounts.filter fun deviceId _ =>
      match m.backoff.get? deviceId with
      | some retryAt => decide (m.now < retryAt)
      | none => true }

/-! ## Native calls, timers and listeners -/

/-- A native call that turns something on does so when it is made. -/
def setGattServer (on : Bool) (m : Mesh) : Mesh :=
  { m with native := { m.native with gattServer := on } }

def setAdvertising (on : Bool) (m : Mesh) : Mesh :=
  { m with native := { m.native with advertising := on } }

def setScan (on : Bool) (m : Mesh) : Mesh :=
  { m with native := { m.native with scan := on } }

/-- `addListener`: the next handle is live. -/
def listen (m : Mesh) : Mesh :=
  { m with native := { m.native with
      listeners := m.native.listeners ++ [m.native.handles]
      handles := m.native.handles + 1 } }

def unlisten (handle : ℕ) (m : Mesh) : Mesh :=
  { m with native := { m.native with listeners := m.native.listeners.filter (· ≠ handle) } }

def pushRemover (handle : ℕ) (m : Mesh) : Mesh :=
  { m with listenerRemovers := m.listenerRemovers ++ [handle] }

/-- The end of `startMesh`: the two intervals and the MAC rotation timer run, and
where there is a `document` the timer follows its visibility. -/
def running (document : Bool) (m : Mesh) : Mesh :=
  let handle := m.native.handles
  let visibility := if document then [handle + 3] else []
  { m with
    gcInterval := some handle
    handshakeTimeoutInterval := some (handle + 1)
    macRotation := some (handle + 2)
    listenerRemovers := m.listenerRemovers ++ visibility
    native := { m.native with
      timers := m.native.timers ++ [handle, handle + 1, handle + 2]
      listeners := m.native.listeners ++ visibility
      handles := handle + 4 }
    advertising := true
    scanning := true
    error := none }

/-- What `stopMesh` does once the native side is silent: the timers it knows of
are cleared. -/
def stopTimers (m : Mesh) : Mesh :=
  let known := [m.gcInterval, m.handshakeTimeoutInterval, m.macRotation]
  { m with
    gcInterval := none
    handshakeTimeoutInterval := none
    macRotation := none
    native := { m.native with timers := m.native.timers.filter fun t => some t ∉ known } }

/-- `connectedDevices.clear()`. -/
def disconnectAll (m : Mesh) : Mesh := { m with connectedDevices := .empty }

/-- The end of `stopMesh`. -/
def clear (m : Mesh) : Mesh :=
  { m with
    listenerRemovers := []
    registry := .new
    mtuCache := .empty
    reassemblers := .empty
    cryptoStates := .empty
    backoff := .empty
    backoffCounts := .empty
    peerId := none
    advertising := false
    scanning := false
    error := none }

/-! ## Roles -/

/-- The smaller id is the initiator. -/
def roleFor : Bytes → Bytes → Role
  | a :: ourPeerId, b :: peerPeerId =>
      if a < b then .initiator
      else if b < a then .responder
      else roleFor ourPeerId peerPeerId
  | _, _ => .initiator

def hexValue (c : Char) : ℕ :=
  if '0' ≤ c ∧ c ≤ '9' then c.toNat - '0'.toNat
  else if 'a' ≤ c ∧ c ≤ 'f' then c.toNat - 'a'.toNat + 10
  else 0

/-- The bytes behind the hex form of a registered peer's id. -/
def fromHex : List Char → Bytes
  | a :: b :: cs => UInt8.ofNat (hexValue a * 16 + hexValue b) :: fromHex cs
  | _ => []

/-! ## The target of a frame -/

/-- An empty address is falsy. -/
def truthy (deviceId : Option DeviceId) : Option DeviceId := deviceId.filter (· ≠ "")

/-- The address `sendFrame` resolves: the registry's, else a connected device
whose `CryptoState` has the id, else a disconnected one. -/
def resolveDevice (peerIdHex : PeerIdHex) (m : Mesh) : Option DeviceId :=
  let mac := (m.registry.list.find? fun p => p.idHex == peerIdHex).map Peer.mac
  let matching := m.cryptoStates.entries.filter fun e => (m.object e.2).peerIdHex == peerIdHex
  match truthy mac with
  | some mac => some mac
  | none =>
      match matching.find? fun e => m.connectedDevices.has e.1 with
      | some e => some e.1
      | none => mac.or (matching.head?.map Prod.fst)

structure SendTarget : Type where
  deviceId : DeviceId
  ref : ℕ
  session : RatchetSession

def unknownPeer (peerIdHex : PeerIdHex) : JsError :=
  .error ("sendFrame: unknown peer " ++ peerIdHex)

def notAccepted (peerIdHex : PeerIdHex) : JsError :=
  .error ("sendFrame: unknown-peer-key — handshake not complete or not accepted for " ++
    peerIdHex)

def sendTarget (peerIdHex : PeerIdHex) (m : Mesh) : Except JsError SendTarget :=
  match truthy (m.resolveDevice peerIdHex) with
  | none => .error (unknownPeer peerIdHex)
  | some deviceId =>
      match m.cryptoStates.get? deviceId with
      | none => .error (notAccepted peerIdHex)
      | some ref =>
          match (m.object ref).verdict, (m.object ref).session with
          | .accepted, some session => .ok ⟨deviceId, ref, session⟩
          | _, _ => .error (notAccepted peerIdHex)

end Mesh

end Oxpulse.Transport
