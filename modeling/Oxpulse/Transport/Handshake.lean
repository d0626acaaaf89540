import Mathlib.Data.List.DropRight
import Oxpulse.Crypto.NoiseXX
import Oxpulse.Identity.Base64url
import Oxpulse.Transport.Frame
import Oxpulse.Transport.PeerRegistry

/-!
# Advancing a handshake

The part of `transport.ts` that works on one `CryptoState`: the verdict state
machine, the TOFU store, and `advanceHandshake`, which reads a handshake frame,
writes the answer and derives the session when the handshake is complete.

`HandshakeView` is what `advanceHandshake` touches of the module's state. The
outcome of each chunk written is an argument of the call: the scheduler decides
when it arrives, not what it is.
-/

namespace Oxpulse.Transport

open Oxpulse.Coroutine Oxpulse.Crypto

def GATT_MTU_DEFAULT : ℕ := 23
def TOFU_MAX_ENTRIES : ℕ := 1000

/-- `meshState.error`; `none` is `null`. -/
inductive MeshErrorKind : Type where
  | bleOff
  | permissionDenied
  | pluginAbsent
  | handshakeFailed
  | replayRejected
  | sasMismatch
  | unknownPeerKey
  | unknown
deriving DecidableEq

/-! ## The crypto state of a device -/

inductive CryptoVerdict : Type where
  | pending
  | accepted
  | rejected
deriving DecidableEq

structure CryptoState : Type where
  handshake : NoiseXxHandshake
  role : Role
  session : Option RatchetSession
  /-- How many session objects `session` has held: it tells the current one from
  those it replaced. -/
  sessionCount : ℕ
  sas : Option String
  verdict : CryptoVerdict
  /-- The peer's Ed25519 key, set when the handshake is complete. -/
  peerPubkeyB64 : Option String
  /-- TOFU saw another key for this peer id. -/
  keyChanged : Bool
  peerIdHex : PeerIdHex
  /-- Protocol violations; an absent counter is zero. -/
  handshakeFailures : ℕ
  handshakeStartedAt : ℕ

/-- The object both bootstrap paths create. -/
def CryptoState.new (P : Primitives) (role : Role) (identity : DeviceIdentityProvider)
    (peerIdHex : PeerIdHex) (now : ℕ) : CryptoState where
  handshake := .new P role identity
  role := role
  session := none
  sessionCount := 0
  sas := none
  verdict := .pending
  peerPubkeyB64 := none
  keyChanged := false
  peerIdHex := peerIdHex
  handshakeFailures := 0
  handshakeStartedAt := now

/-- Only a pending verdict changes; says whether it did. -/
def transitionVerdict (next : CryptoVerdict) (cs : CryptoState) : CryptoState × Bool :=
  match cs.verdict with
  | .pending => ({ cs with verdict := next }, true)
  | _ => (cs, false)

/-! ## Trust on first use -/

structure TofuRecord : Type where
  pubkeyB64 : String
  firstSeen : ℕ
  lastSeen : ℕ
deriving DecidableEq

abbrev TofuStore : Type := InsMap PeerIdHex TofuRecord

def tofuEvict (store : TofuStore) : TofuStore :=
  let entries := store.entries
  if entries.length ≤ TOFU_MAX_ENTRIES then store
  else
    let sorted := entries.mergeSort fun a b => decide (a.2.lastSeen ≤ b.2.lastSeen)
    let kept := sorted.drop (entries.length - TOFU_MAX_ENTRIES)
    kept.foldl (fun m e => m.set e.1 e.2) .empty

structure TofuResult : Type where
  trusted : Bool
  keyChanged : Bool
deriving DecidableEq

/-- The check, and the store it leaves. Saving evicts. -/
def tofuCheck (peerIdHex : PeerIdHex) (pubkeyB64 : String) (now : ℕ) (store : TofuStore) :
    TofuStore × TofuResult :=
  match store.get? peerIdHex with
  | none => (tofuEvict (store.set peerIdHex ⟨pubkeyB64, now, now⟩), ⟨true, false⟩)
  | some existing =>
      if existing.pubkeyB64 = pubkeyB64 then
        (tofuEvict (store.set peerIdHex { existing with lastSeen := now }), ⟨true, false⟩)
      else (store, ⟨false, true⟩)

/-! ## The view of one device -/

structure HandshakeView : Type where
  cs : CryptoState
  /-- `mtuCache.get(deviceId)`. -/
  mtu : Option ℕ
  /-- The clock. -/
  now : ℕ
  tofu : TofuStore
  /-- `meshState.error`. -/
  error : Option MeshErrorKind
  /-- The chunks handed to `writeRx`, in order. -/
  written : List (DeviceId × Bytes)
  /-- How often `notifyHandshakeChange` ran. -/
  notified : ℕ
  /-- Whether the session was derived since the view was taken. -/
  derived : Bool := false

/-- A handshake frame as `advanceHandshake` gets it, what its calls draw, and
how the chunks it writes fare. -/
structure HandshakeFrame : Type where
  frameType : FrameType
  payload : Bytes
  readDraws : NoiseDraws
  writeDraws : NoiseDraws
  writeRx : ℕ → Except JsError Unit

/-- The encoder of this file: the padding is what `/=+$/` matches. -/
def uint8ToBase64Url (bytes : Bytes) : String :=
  String.ofList (((Identity.btoa bytes).map Identity.toUrlChar).rdropWhile fun c => c = '=')

namespace HandshakeView

def setHandshake (hs : NoiseXxHandshake) (v : HandshakeView) : HandshakeView :=
  { v with cs := { v.cs with handshake := hs } }

def notifyHandshakeChange (v : HandshakeView) : HandshakeView :=
  { v with notified := v.notified + 1 }

/-- `meshState.error = 'handshake-failed'; transitionVerdict(cs, 'rejected')`. -/
def reject (v : HandshakeView) : HandshakeView :=
  { v with error := some .handshakeFailed, cs := (transitionVerdict .rejected v.cs).1 }

/-- The catch block of the read: an out-of-state frame is dropped, any other
exception counts, and the third one rejects. -/
def readFailed (e : JsError) (v : HandshakeView) : HandshakeView :=
  match e with
  | .noiseStateError _ => v
  | _ =>
      let failures := v.cs.handshakeFailures + 1
      let v := { v with cs := { v.cs with handshakeFailures := failures } }
      if failures < 3 then v else v.reject

def setSession (session : RatchetSession) (v : HandshakeView) : HandshakeView :=
  { v with
    cs := { v.cs with
      session := some session
      sessionCount := v.cs.sessionCount + 1 }
    derived := true }

/-- The TOFU check of the peer's static key, if it is known. -/
def checkPeerKey (v : HandshakeView) : HandshakeView :=
  match v.cs.handshake.peerStaticPublicKey with
  | none => v
  | some peerPub =>
      let pubkeyB64 := uint8ToBase64Url peerPub
      let (tofu, result) := tofuCheck v.cs.peerIdHex pubkeyB64 v.now v.tofu
      { v with
        cs := { v.cs with peerPubkeyB64 := some pubkeyB64, keyChanged := result.keyChanged }
        tofu := tofu
        error := if result.trusted then v.error else some .unknownPeerKey }

/-- What follows the SAS. -/
def established (sas : String) (v : HandshakeView) : HandshakeView :=
  ({ v with cs := { v.cs with sas := some sas, handshakeFailures := 0 } } :
    HandshakeView).checkPeerKey.notifyHandshakeChange

end HandshakeView

open HandshakeView

/-- `readMessage` throws before it touches the object. -/
def RefusedOnSight (hs : NoiseXxHandshake) (payload : Bytes) : Prop :=
  payload.length > MAX_HANDSHAKE_MSG_BYTES + 256 ∨
  match hs.role, hs.msgIdx with
  | .responder, 0 => payload.length < 32 + MLKEM_PUBLIC_KEY_BYTES
  | .initiator, 1 => False
  | .responder, 2 => False
  | _, _ => True

instance (hs : NoiseXxHandshake) (payload : Bytes) : Decidable (RefusedOnSight hs payload) :=
  have : Decidable (match hs.role, hs.msgIdx with
      | .responder, 0 => payload.length < 32 + MLKEM_PUBLIC_KEY_BYTES
      | .initiator, 1 => False
      | .responder, 2 => False
      | _, _ => True) :=
    match hs.role, hs.msgIdx with
    | .responder, 0 => inferInstanceAs (Decidable (_ < _))
    | .initiator, 1 | .responder, 2 => inferInstanceAs (Decidable False)
    | .initiator, 0 | .initiator, 2 | .initiator, 3 | .responder, 1 | .responder, 3 =>
        inferInstanceAs (Decidable True)
  inferInstanceAs (Decidable (_ ∨ _))

section Advance

variable (P : Primitives) (deviceId : DeviceId) (f : HandshakeFrame)

/-- A call on `cs.handshake`. -/
def onHandshake {α : Type} (m : Co Unit NoiseXxHandshake JsError α) :
    Co Unit HandshakeView JsError α :=
  Co.zoom (fun v => v.cs.handshake) setHandshake m

/-- `writeRx`: the chunk leaves at once, its outcome is awaited. -/
def writeRx (outcome : Except JsError Unit) (chunk : Bytes) :
    Co Unit HandshakeView JsError Unit := do
  modify fun v => { v with written := v.written ++ [(deviceId, chunk)] }
  Co.await (Co.ofExcept outcome)

/-- The chunks from number `i` on, one after the other. -/
def writeChunks (outcome : ℕ → Except JsError Unit) :
    List Bytes → ℕ → Co Unit HandshakeView JsError Unit
  | [], _ => pure ()
  | chunk :: chunks, i => do
      writeRx deviceId (outcome i) chunk
      writeChunks outcome chunks (i + 1)

/-- The end of `advanceHandshake`: derive the session once the handshake is
complete. -/
def completeHandshake : Co Unit HandshakeView JsError Unit := do
  let v ← get
  if v.cs.handshake.isComplete then
    match v.cs.handshake.split P with
    | .error _ => modify reject
    | .ok split =>
        let session ← Co.ofExcept (RatchetSession.new P ⟨split.sendKey, split.recvKey, v.cs.role⟩)
        modify (setSession session)
        let sas ← Co.ofExcept v.cs.handshake.sas
        modify (established sas)
  else pure ()

/-- The `try` block around an answer. -/
def writeAnswer (mtu : ℕ) (next : FrameType) : Co Unit HandshakeView JsError Unit := do
  let msg ← Co.await (onHandshake (NoiseXxHandshake.writeMessage P f.writeDraws []))
  let chunks ← Co.ofExcept (chunkFrame msg mtu next)
  writeChunks deviceId f.writeRx chunks 0

def answer (mtu : ℕ) (next : FrameType) : Co Unit HandshakeView JsError Unit := do
  match ← Co.attempt (writeAnswer P deviceId f mtu next) with
  | .error _ => modify reject
  | .ok _ => completeHandshake P

/-- What follows a successful read: answer by role and received frame. -/
def afterRead : Co Unit HandshakeView JsError Unit := do
  let v ← get
  let mtu := v.mtu.getD GATT_MTU_DEFAULT
  if f.frameType = FrameType.HandshakeMsg1 ∧ v.cs.role = .responder then
    answer P deviceId f mtu FrameType.HandshakeMsg2
  else if f.frameType = FrameType.HandshakeMsg2 ∧ v.cs.role = .initiator then
    answer P deviceId f mtu FrameType.HandshakeMsg3
  else completeHandshake P

def advanceHandshake : Co Unit HandshakeView JsError Unit := do
  match ← Co.attempt (Co.await
      (onHandshake (NoiseXxHandshake.readMessage P f.readDraws f.payload))) with
  | .error e => modify (readFailed e)
  | .ok _ => afterRead P deviceId f

end Advance

end Oxpulse.Transport
