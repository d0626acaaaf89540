import Mathlib.Data.Finset.Basic
import Oxpulse.Identity.DeviceCalls
import Oxpulse.Transport.PeerRegistry

/-!
# The identity that handshakes use

`getLocalIdentity` of `transport.ts` adapts the device identity for the Noise
handshake. The adapter is built once and kept for the lifetime of the process, with
the public keys that it was built with; its `dhX25519` asks the identity package
anew each time.

A `Process` is the tab with every call of the identity package, and of the transport
what decides when a handshake is constructed and with which adapter. What else a
handshake does is in `Mesh`.
-/

namespace Oxpulse.Transport

open Oxpulse.Coroutine Oxpulse.Crypto Oxpulse.Identity

/-- The adapter. Its `dhX25519` is the one of the package. -/
structure LocalIdentity : Type where
  identity : DeviceIdentity
  pubkeyBytes : Bytes
  x25519PublicKey : Bytes
deriving DecidableEq

namespace LocalIdentity

def getPublicKey (p : LocalIdentity) : Bytes := p.pubkeyBytes

def getX25519PublicKey (p : LocalIdentity) : Bytes := p.x25519PublicKey

def sign (P : IdentityPrimitives) (p : LocalIdentity) (msg : Bytes) :
    Except IdentityError Bytes := do
  match p.identity.privateKeySeed with
  | some seed =>
      let key ← nobleKey seed
      return P.ed25519Sign msg key.bytes
  | none =>
      throw (.error "[identity] Noise XX sign: privateKeySeed null — identity migration required")

end LocalIdentity

/-- Where the start of a handshake is. -/
inductive Stage : Type where
  /-- `await getOrCreateDeviceIdentity()` -/
  | identity (call : ℕ)
  /-- `await getOrCreateX25519Keypair()` -/
  | x25519Kp (identity : DeviceIdentity) (pubkeyBytes : Bytes) (call : ℕ)
  /-- `getLocalIdentity` has returned -/
  | returned (provider : LocalIdentity)
  | ended
deriving DecidableEq

/-- The start of a handshake: `initiateHandshake`, or the responder's for a frame of a
device that has no `CryptoState`. -/
structure HandshakeStart : Type where
  deviceId : DeviceId
  responds : Bool
  stage : Stage

/-- `cryptoStates` has of each `CryptoState` the adapter of its handshake; `handshakes`
are the adapters of all that were constructed. -/
structure Process : Type where
  device : DevicePool
  localIdentityProvider : Option LocalIdentity
  peerId : Option Bytes
  connectedDevices : Finset DeviceId
  cryptoStates : InsMap DeviceId LocalIdentity
  starts : List HandshakeStart
  handshakes : List LocalIdentity

/-- What happens in the process. A start of the mesh may come at any time, and so may
the links. -/
inductive ProcessMove : Type where
  | getOrCreateDeviceIdentity
  | getOrCreateX25519Keypair
  | clearDeviceIdentity
  | replaceDeviceIdentity (secret : Bytes) (publicB64u : List Char)
  /-- A handshake asks its adapter. -/
  | dhX25519 (remotePub : Bytes)
  /-- A call of the package goes on. -/
  | resume (i : ℕ) (r : PlatformReply)
  | startMesh (peerId : Bytes)
  /-- `stopMesh` has disconnected every peer. -/
  | disconnectAll
  /-- `stopMesh` ends. -/
  | stopMesh
  | connected (deviceId : DeviceId)
  | disconnected (deviceId : DeviceId)
  | initiateHandshake (deviceId : DeviceId)
  | handshakeFrame (deviceId : DeviceId)
  /-- The start of a handshake goes on, if what it awaits has settled. -/
  | goOn (w : ℕ)

namespace Process

/-- A page that was just loaded. -/
def loaded (storage : Storage) : Process where
  device := Pool.fresh ⟨⟨storage, none⟩, Session.fresh⟩
  localIdentityProvider := none
  peerId := none
  connectedDevices := ∅
  cryptoStates := .empty
  starts := []
  handshakes := []

def tab (s : Process) : Tab := s.device.shared

/-- The result of a call that settled. -/
def result (call : ℕ) (s : Process) : Option (Except IdentityError DeviceResult) :=
  match s.device.calls[call]? with
  | some ⟨_, .settled x⟩ => some x
  | _ => none

/-- The number of the next call. -/
def next (s : Process) : ℕ := s.device.calls.length

def setStage (w : ℕ) (h : HandshakeStart) (stage : Stage) (s : Process) : Process :=
  { s with starts := s.starts.set w { h with stage := stage } }

/-- The device is still there, and the mesh was not stopped or, for the responder, no other
start was faster. -/
def wanted (h : HandshakeStart) (s : Process) : Bool :=
  if h.responds then
    decide (h.deviceId ∈ s.connectedDevices) && (s.cryptoStates.get? h.deviceId).isNone
  else s.peerId.isSome && decide (h.deviceId ∈ s.connectedDevices)

/-- `new NoiseXxHandshake({ role, identity })`, if it is still wanted. -/
def construct (w : ℕ) (h : HandshakeStart) (identity : LocalIdentity) (s : Process) : Process :=
  if s.wanted h then
    { s.setStage w h .ended with
      cryptoStates := s.cryptoStates.set h.deviceId identity
      handshakes := s.handshakes ++ [identity] }
  else s.setStage w h .ended

section

variable (P : IdentityPrimitives) (env : Runtime) (dh : Bytes → Bytes → Except IdentityError Bytes)

/-- The first segment of a call of the package. -/
def call (a : DeviceCall) (s : Process) : Process :=
  { s with device := s.device.start (deviceCall P env dh) a }

/-- `getLocalIdentity()`, up to where it waits. -/
def begin (deviceId : DeviceId) (responds : Bool) (s : Process) : Process :=
  match s.localIdentityProvider with
  | some localIdentityProvider =>
      { s with starts := s.starts ++ [⟨deviceId, responds, .returned localIdentityProvider⟩] }
  | none =>
      { s.call P env dh (.getOrCreateDeviceIdentity ⟨0, s.next⟩) with
        starts := s.starts ++ [⟨deviceId, responds, .identity s.next⟩] }

def goOn (w : ℕ) (h : HandshakeStart) (s : Process) : Process :=
  match h.stage with
  | .identity call =>
      match s.result call with
      | some (.ok (.identity identity)) =>
          match fromBase64url identity.publicKeyB64 with
          | some pubkeyBytes =>
              (s.call P env dh .getOrCreateX25519Keypair).setStage w h
                (.x25519Kp identity pubkeyBytes s.next)
          | none => s.setStage w h .ended
      | some (.error _) => s.setStage w h .ended
      | _ => s
  | .x25519Kp identity pubkeyBytes call =>
      match s.result call with
      | some (.ok (.keypair x25519Kp)) =>
          let provider : LocalIdentity := ⟨identity, pubkeyBytes, x25519Kp.publicKey⟩
          { s.setStage w h (.returned provider) with localIdentityProvider := some provider }
      | some (.error _) => s.setStage w h .ended
      | _ => s
  | .returned provider => s.construct w h provider
  | .ended => s

def step (s : Process) : ProcessMove → Process
  | .getOrCreateDeviceIdentity => s.call P env dh (.getOrCreateDeviceIdentity ⟨0, s.next⟩)
  | .getOrCreateX25519Keypair => s.call P env dh .getOrCreateX25519Keypair
  | .clearDeviceIdentity => s.call P env dh .clearDeviceIdentity
  | .replaceDeviceIdentity secret publicB64u =>
      s.call P env dh (.replaceDeviceIdentity secret publicB64u)
  | .dhX25519 remotePub =>
      if s.handshakes = [] then s else s.call P env dh (.dhX25519 remotePub)
  | .resume i r => { s with device := s.device.resume i r }
  | .startMesh peerId => { s with peerId := some peerId }
  | .disconnectAll => { s with connectedDevices := ∅ }
  | .stopMesh => { s with cryptoStates := .empty, peerId := none }
  | .connected deviceId => { s with connectedDevices := insert deviceId s.connectedDevices }
  | .disconnected deviceId =>
      { s with
        connectedDevices := s.connectedDevices.erase deviceId
        cryptoStates := s.cryptoStates.delete deviceId }
  | .initiateHandshake deviceId => s.begin P env dh deviceId false
  | .handshakeFrame deviceId =>
      if s.cryptoStates.get? deviceId = none ∧ s.peerId ≠ none then s.begin P env dh deviceId true
      else s
  | .goOn w =>
      match s.starts[w]? with
      | some h => s.goOn P env dh w h
      | none => s

/-- Play a run. -/
def exec (s : Process) (ms : List ProcessMove) : Process := ms.foldl (step P env dh) s

end

end Process

end Oxpulse.Transport
