import Oxpulse.Identity.AesKw

/-!
# The wrapping keys

Two stores have a wrapping key (KEK): the device identity and the room-host
seed. Both resolve it in the same steps — memory, the stored entry, a fresh key —
and the device identity adopts, between the last two, an entry of the layout
before the dedicated database. A `KekSlot` is where a store keeps its KEK.
-/

namespace Oxpulse.Identity

open Oxpulse.Coroutine Oxpulse.Crypto

/-- A module variable that is filled once: what it holds is returned, else what
`compute` yields is put there in the segment it arrives in. -/
def remembered {α : Type} (cached : Session → Option α) (cache : α → Session → Session)
    (compute : TabCo α) : TabCo α := do
  match cached (← get).session with
  | some a => return a
  | none =>
      let a ← compute
      modify (Tab.withSession (cache a))
      return a

/-- Where a store keeps its KEK, and what its module remembers of it. -/
structure KekSlot : Type where
  db : Database
  entry : Storage → Option StoredValue
  put : StoredValue → Storage → Storage
  cachedWrappingKey : Session → Option CryptoKey
  cacheKey : CryptoKey → Session → Session
  structuredCloneSupported : Session → Option Bool
  cacheProbe : Bool → Session → Session
  /-- the error for an entry of neither shape -/
  message : String

/-- `oxpulse-device-id-kek` -/
@[simps] def deviceKek : KekSlot where
  db := .kek
  entry := Storage.kek
  put value storage := { storage with kek := some value }
  cachedWrappingKey := Session.cachedWrappingKey
  cacheKey key session := { session with cachedWrappingKey := some key }
  structuredCloneSupported := Session.structuredCloneSupported
  cacheProbe supported session := { session with structuredCloneSupported := some supported }
  message := "[device-identity] KEK entry is neither an AES-KW CryptoKey nor raw bytes"

/-- `wrapping_key` in `oxpulse-room-host-seed` -/
@[simps] def roomHostKek : KekSlot where
  db := .roomHost
  entry := Storage.roomHostWrappingKey
  put value storage := { storage with roomHostWrappingKey := some value }
  cachedWrappingKey := Session.roomHostCachedWrappingKey
  cacheKey key session := { session with roomHostCachedWrappingKey := some key }
  structuredCloneSupported := Session.roomHostStructuredCloneSupported
  cacheProbe supported session :=
    { session with roomHostStructuredCloneSupported := some supported }
  message := "[room-host-seed] KEK entry is neither an AES-KW CryptoKey nor raw bytes"

section

variable (env : Runtime)

def probeStructuredClone (slot : KekSlot) : TabCo Bool := do
  match slot.structuredCloneSupported (← get).session with
  | some supported => return supported
  | none =>
      let _ ← Co.suspend
      modify (Tab.withSession (slot.cacheProbe env.structuredClone))
      return env.structuredClone

/-- Save a KEK in the shape it has. -/
def saveKek (slot : KekSlot) (value : StoredValue) : TabCo Unit :=
  saveKey env slot.db value (slot.put value)

/-- `generateAesKwKey` and its persistence: as a key handle where the runtime can
clone one, as raw bytes otherwise. -/
def generateWrappingKey (slot : KekSlot) (canClone : Bool) : TabCo CryptoKey := do
  if canClone then
    let kek ← generateAesKwKey false
    saveKek env slot (.cryptoKey kek)
    return kek
  else
    let extractableKek ← generateAesKwKey true
    let _ ← Co.suspend
    saveKek env slot (.arrayBuffer extractableKek.raw)
    importAesKwRaw extractableKek.raw false

/-- The stored entry, `adopt`, or a fresh key. -/
def findWrappingKey (slot : KekSlot) (adopt : Bool → TabCo (Option CryptoKey))
    (canClone : Bool) : TabCo CryptoKey := do
  match ← loadKey env slot.db slot.entry with
  | some existing =>
      match classifyKekEntry existing with
      | some entry => entry.handle
      | none => throw (.error slot.message)
  | none =>
      match ← adopt canClone with
      | some adopted => return adopted
      | none => generateWrappingKey env slot canClone

def resolveWrappingKey (slot : KekSlot) (adopt : Bool → TabCo (Option CryptoKey)) :
    TabCo CryptoKey :=
  remembered slot.cachedWrappingKey slot.cacheKey do
    let canClone ← probeStructuredClone env slot
    findWrappingKey env slot adopt canClone

/-! ## The device identity -/

/-- Copy an entry of the old layout to the dedicated database, where the runtime
can write its shape. -/
def copyForward (entry : KekEntry) (canClone : Bool) : TabCo Unit :=
  match entry with
  | .raw _ => saveKek env deviceKek entry.stored
  | .key _ => if canClone then saveKek env deviceKek entry.stored else pure ()

def adoptLegacyWrappingKey (canClone : Bool) : TabCo (Option CryptoKey) := do
  match ← Co.attempt (loadKey env .identity Storage.legacyWrappingKey) with
  | .error _ => return none
  | .ok none => return none
  | .ok (some legacy) =>
      match classifyKekEntry legacy with
      | none => return none
      | some entry =>
          let key ← entry.handle
          let _ ← Co.attempt (copyForward env entry canClone)
          return some key

def getOrCreateWrappingKey : TabCo CryptoKey :=
  resolveWrappingKey env deviceKek (adoptLegacyWrappingKey env)

/-! ## The room-host seed -/

/-- `getWrappingKey` of `room-host-seed`: there is no layout to adopt from. -/
def getWrappingKey : TabCo CryptoKey :=
  resolveWrappingKey env roomHostKek fun _ => pure none

variable (P : IdentityPrimitives)

def loadOrMintRoomHostSeed : TabCo Bytes := do
  let wrappingKey ← getWrappingKey env
  match ← load env .roomHost Storage.roomHostSeed with
  | some existing => unwrapSecretBytes P wrappingKey existing
  | none =>
      let seed ← draw
      let wrapped ← wrapSecretBytes P wrappingKey seed.bytes
      write env .roomHost fun storage => { storage with roomHostSeed := some wrapped }
      return seed.bytes

def getOrCreateRoomHostSeed : TabCo Bytes :=
  remembered Session.roomHostCachedSeed (fun seed s => { s with roomHostCachedSeed := some seed })
    (loadOrMintRoomHostSeed env P)

def clearRoomHostSeed : TabCo Unit := do
  modify (Tab.withSession fun s =>
    { s with roomHostCachedSeed := none, roomHostCachedWrappingKey := none })
  write env .roomHost fun storage =>
    { storage with roomHostSeed := none, roomHostWrappingKey := none }

/-! ## The profile seed -/

def loadOrMintProfileSeed : TabCo Bytes := do
  match ← load env .identity Storage.profileSeed with
  | some existing => return existing
  | none =>
      let seed ← draw
      write env .identity fun storage => { storage with profileSeed := some seed.bytes }
      return seed.bytes

def getOrCreateProfileSeed : TabCo Bytes :=
  remembered Session.cachedProfileSeed (fun seed s => { s with cachedProfileSeed := some seed })
    (loadOrMintProfileSeed env)

end

end Oxpulse.Identity
