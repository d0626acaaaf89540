import Oxpulse.Foundation.Interleaving
import Oxpulse.Foundation.InsMap
import Oxpulse.Identity.Base64url

/-!
# The device a tab runs on

`Storage` is what is kept under the LOAD-BEARING names of three IndexedDB
databases: the identity store, the dedicated database of the wrapping key (KEK)
and the room-host store. `Session` is the module memory of one tab. The code is
written over a `Tab`: the origin, whose storage and lock all tabs share, and its
own session.

The code suspends at every storage request and every WebCrypto call. A reply
brings what the platform brings: the time, fresh random bytes, the outcome of an
availability probe and whether the request faulted. `Runtime` says what the
platform can do and which databases may fault.
-/

namespace Oxpulse.Identity

open Oxpulse.Coroutine Oxpulse.Crypto

/-! ## Errors -/

/-- The reasons of `IDBUnavailableError`. -/
inductive IDBUnavailableReason : Type where
  | noIndexedDB | openFailed | timeout | upgradeNull
deriving DecidableEq, Repr

/-- The reasons of `SealedKeyUnavailableError`. -/
inductive SealedKeyUnavailableReason : Type where
  | idb (reason : IDBUnavailableReason)
  | quotaExceeded
deriving DecidableEq, Repr

/-- What a call throws. `notReady` is thrown by no real call: it marks a schedule
that resumed a call before the lock or the promise it waits for was there. -/
inductive IdentityError : Type where
  | idbUnavailable (reason : IDBUnavailableReason)
  | quotaExceeded
  /-- any other `DOMException` of IndexedDB -/
  | storage
  | notSupported
  /-- `DataError` and `InvalidAccessError` of WebCrypto, and malformed keys -/
  | data
  /-- `OperationError` of WebCrypto: an unwrap under a wrong key -/
  | operation
  | identityData (message : String)
  | sealedKeyUnavailable (reason : SealedKeyUnavailableReason)
  | error (message : String)
  | notReady
deriving DecidableEq, Repr

/-! ## The platform -/

/-- 32 bytes: an Ed25519 seed, an X25519 scalar, an AES-256-KW key. -/
structure Key32 : Type where
  bytes : Bytes
  size : bytes.length = 32
deriving DecidableEq

/-- `SEQUENCE { version 0, AlgorithmIdentifier { 1.3.101.112 }, OCTET STRING .. }` -/
def ED25519_PKCS8_PREFIX : Bytes :=
  [0x30, 0x2e, 0x02, 0x01, 0x00, 0x30, 0x05, 0x06, 0x03, 0x2b, 0x65, 0x70, 0x04, 0x22, 0x04, 0x20]

/-- The same envelope with the algorithm 1.3.101.110. -/
def X25519_PKCS8_PREFIX : Bytes :=
  [0x30, 0x2e, 0x02, 0x01, 0x00, 0x30, 0x05, 0x06, 0x03, 0x2b, 0x65, 0x6e, 0x04, 0x22, 0x04, 0x20]

/-- The import of PKCS#8 of a runtime: the key of an envelope, by the header of its
algorithm. The envelope of 32 bytes imports as these; what else it takes, and what of that
the key is, differs between runtimes. -/
structure Pkcs8Import : Type where
  secret : Bytes → Bytes → Option Key32
  ed25519 : ∀ seed : Key32,
    secret ED25519_PKCS8_PREFIX (ED25519_PKCS8_PREFIX ++ seed.bytes) = some seed
  x25519 : ∀ scalar : Key32,
    secret X25519_PKCS8_PREFIX (X25519_PKCS8_PREFIX ++ scalar.bytes) = some scalar

namespace Pkcs8Import

/-- The import that drops up to that many bytes behind the envelope, and refuses more. -/
def dropped (trailing : ℕ) (header pkcs8 : Bytes) : Option Key32 :=
  if h : pkcs8.take 16 = header ∧ 48 ≤ pkcs8.length ∧ pkcs8.length ≤ 48 + trailing then
    some ⟨(pkcs8.drop 16).take 32, by simp; omega⟩
  else none

theorem dropped_append {header : Bytes} (hheader : header.length = 16) (trailing : ℕ) (key : Key32) :
    dropped trailing header (header ++ key.bytes) = some key := by
  have htake : (header ++ key.bytes).take 16 = header := by
    rw [← hheader, List.take_left]
  have hlength : (header ++ key.bytes).length = 48 := by
    rw [List.length_append, hheader, key.size]
  have hdrop : ((header ++ key.bytes).drop 16).take 32 = key.bytes := by
    rw [← hheader, List.drop_left, ← key.size, List.take_length]
  have htaken : (header ++ key.bytes).take 16 = header ∧ 48 ≤ (header ++ key.bytes).length ∧
      (header ++ key.bytes).length ≤ 48 + trailing := by
    rw [hlength]
    exact ⟨htake, Nat.le_refl 48, Nat.le_add_right 48 trailing⟩
  rw [dropped, dif_pos htaken]
  simp only [hdrop]

def dropping (trailing : ℕ) : Pkcs8Import where
  secret := dropped trailing
  ed25519 := dropped_append rfl trailing
  x25519 := dropped_append rfl trailing

end Pkcs8Import

/-- What the package takes from `@noble/curves` and from AES-KW of WebCrypto. -/
structure IdentityPrimitives : Type where
  /-- AES-KW: the wrapping key and the wrapped bytes -/
  aesKwWrap : Bytes → Bytes → Bytes
  aesKwUnwrap : Bytes → Bytes → Option Bytes
  /-- `ed25519.getPublicKey(seed)` -/
  ed25519PublicKey : Key32 → Key32
  /-- `ed25519.sign(message, seed)` -/
  ed25519Sign : Bytes → Bytes → Bytes
  /-- `x25519.getPublicKey(scalar)` -/
  x25519PublicKey : Bytes → Bytes

/-- AES-KW unwraps exactly under the wrapping key, and its ciphertext is not
empty. -/
structure AesKwLaws (P : IdentityPrimitives) : Prop where
  unwrap_wrap : ∀ kek secret, P.aesKwUnwrap kek (P.aesKwWrap kek secret) = some secret
  unwrap_other : ∀ kek kek' secret, kek' ≠ kek →
    P.aesKwUnwrap kek' (P.aesKwWrap kek secret) = none
  wrap_ne_nil : ∀ kek secret, P.aesKwWrap kek secret ≠ []

/-- What `exportKey('raw', ..)` does with an X25519 private key. The platform
refuses it; what it throws depends on the engine. -/
inductive RawExport : Type where
  | bytes | notSupported | invalidAccess
deriving DecidableEq, Repr

inductive Database : Type where
  | identity | kek | roomHost
deriving DecidableEq, Repr

structure Runtime : Type where
  /-- WebCrypto Ed25519 and X25519 -/
  ed25519 : Bool
  x25519 : Bool
  pkcs8 : Pkcs8Import
  x25519RawExport : RawExport
  /-- a `CryptoKey` can be structured-cloned -/
  structuredClone : Bool
  /-- `navigator.locks` -/
  locks : Bool
  /-- an availability probe may fail -/
  unreliable : Bool
  /-- a request to the database may fault -/
  faulty : Database → Bool

inductive StorageFault : Type where
  | quota | other
deriving DecidableEq, Repr

def StorageFault.error : StorageFault → IdentityError
  | quota => .quotaExceeded
  | other => .storage

/-- What the platform brings when a call is resumed. -/
structure PlatformReply : Type where
  now : ℕ
  random : Key32
  /-- the outcome of a probe: a failure -/
  probe : Option IDBUnavailableReason
  fault : Option StorageFault

/-! ## Stored values -/

inductive KeyType : Type where
  | secret | privateKey | publicKey
deriving DecidableEq, Repr

inductive KeyUsage : Type where
  | wrapKey | unwrapKey
deriving DecidableEq, Repr

/-- A WebCrypto key handle, with the bytes that it stands for. An object that only has
the fields of one is not `genuine`: `crypto.subtle` takes it for no key. -/
structure CryptoKey : Type where
  type : KeyType
  algorithm : String
  extractable : Bool
  usages : List KeyUsage
  genuine : Bool
  raw : Bytes
deriving DecidableEq, Repr

/-- What a load of a KEK entry yields; a falsy value counts as no entry. `unreadable`
is an entry that IndexedDB cannot deserialise any more: loading it throws. -/
inductive StoredValue : Type where
  | arrayBuffer (bytes : Bytes)
  | cryptoKey (key : CryptoKey)
  | other
  | unreadable
deriving DecidableEq, Repr

def StoredValue.isKey : StoredValue → Bool
  | .cryptoKey key => key.genuine
  | _ => false

structure StoredIdentity : Type where
  publicKeyB64 : List Char
  /-- AES-KW wrapped PKCS#8, or empty -/
  wrappedPrivateKey : Bytes
deriving DecidableEq, Repr

structure StoredX25519Keypair : Type where
  publicKey : Bytes
  /-- AES-KW wrapped PKCS#8, or empty -/
  wrappedPrivateKey : Bytes
  wrappedPrivateKeyRaw : Option Bytes
deriving DecidableEq, Repr

structure StoredSealedX25519 : Type where
  kind : String
  ownerEd25519PubB64 : List Char
  wrappedPrivateKeyRaw : Bytes
deriving DecidableEq, Repr

/-- The entries of the three databases, each under the name it has in the
source. -/
structure Storage : Type where
  /-- `device-key` -/
  deviceKey : Option StoredIdentity
  /-- `oxp/identity/ed25519-priv-raw` -/
  devicePrivRaw : Option Bytes
  /-- `wrapping-key` in the identity store: the layout before the dedicated
  database -/
  legacyWrappingKey : Option StoredValue
  /-- `profile_seed_v1` -/
  profileSeed : Option Bytes
  /-- `x25519-keypair-v1` -/
  x25519Keypair : Option StoredX25519Keypair
  /-- `x25519-sealed-v1` -/
  sealedX25519 : Option StoredSealedX25519
  /-- `wrapping-key` in `oxpulse-device-id-kek` -/
  kek : Option StoredValue
  /-- `wrapping_key` in `oxpulse-room-host-seed` -/
  roomHostWrappingKey : Option StoredValue
  /-- `room_host_seed_v1` -/
  roomHostSeed : Option Bytes
deriving DecidableEq, Repr

def Storage.empty : Storage := ⟨none, none, none, none, none, none, none, none, none⟩

/-! ## Module memory -/

/-- A `DeviceIdentity`. The key handles are the bytes they stand for. -/
structure DeviceIdentity : Type where
  publicKeyB64 : List Char
  publicKey : Option Bytes
  privateKey : Option Bytes
  privateKeySeed : Option Bytes
deriving DecidableEq, Repr

structure X25519KeypairCache : Type where
  publicKey : Bytes
  privateKey : Option Bytes
  privateKeySeed : Option Bytes
deriving DecidableEq, Repr

structure SealedCache : Type where
  owner : List Char
  epoch : ℕ
  priv : Bytes
deriving DecidableEq, Repr

/-- An in-flight slot for a mint; its promise has a number. -/
structure InflightSealed : Type where
  owner : List Char
  epoch : ℕ
  promise : ℕ
deriving DecidableEq, Repr

structure X25519Identity : Type where
  priv : Bytes
  pub : Bytes
  selfSig : Bytes
deriving DecidableEq, Repr

/-- The availability cache of `idb-store`: a failure, or none, and when. -/
structure AvailabilityCache : Type where
  failure : Option IDBUnavailableReason
  cachedAt : ℕ
deriving DecidableEq, Repr

/-- The module variables of one tab. `promises` are the settled in-flight
promises, by number. -/
structure Session : Type where
  cachedIdentity : Option DeviceIdentity
  cachedWrappingKey : Option CryptoKey
  structuredCloneSupported : Option Bool
  inflightIdentity : Option ℕ
  identityPromises : List (Option (Except IdentityError DeviceIdentity))
  cachedSealedX25519 : Option SealedCache
  identityEpochCounter : ℕ
  inflightSealed : Option InflightSealed
  sealedPromises : List (Option (Except IdentityError Bytes))
  cachedX25519Keypair : Option X25519KeypairCache
  cachedProfileSeed : Option Bytes
  idbAvailabilityCache : Option AvailabilityCache
  /-- `x25519-identity`: the memo for each `DeviceIdentity` object -/
  x25519Cache : InsMap ℕ (ℕ × X25519Identity)
  /-- `room-host-seed` -/
  roomHostCachedSeed : Option Bytes
  roomHostCachedWrappingKey : Option CryptoKey
  roomHostStructuredCloneSupported : Option Bool

/-- A page that was just loaded. -/
def Session.fresh : Session where
  cachedIdentity := none
  cachedWrappingKey := none
  structuredCloneSupported := none
  inflightIdentity := none
  identityPromises := []
  cachedSealedX25519 := none
  identityEpochCounter := 0
  inflightSealed := none
  sealedPromises := []
  cachedX25519Keypair := none
  cachedProfileSeed := none
  idbAvailabilityCache := none
  x25519Cache := InsMap.empty
  roomHostCachedSeed := none
  roomHostCachedWrappingKey := none
  roomHostStructuredCloneSupported := none

/-- A call that may hold the lock: the tab it runs in and its number. -/
structure Agent : Type where
  tab : ℕ
  call : ℕ
deriving DecidableEq, Repr

/-- What all tabs share: the storage and the lock `oxpulse-device-identity`. -/
structure Origin : Type where
  storage : Storage
  identityLock : Option Agent

structure Tab : Type where
  origin : Origin
  session : Session

abbrev TabCo : Type → Type := Co PlatformReply Tab IdentityError

namespace Tab

def storage (t : Tab) : Storage := t.origin.storage

def withStorage (f : Storage → Storage) (t : Tab) : Tab :=
  { t with origin := { t.origin with storage := f t.origin.storage } }

def withSession (f : Session → Session) (t : Tab) : Tab :=
  { t with session := f t.session }

/-- The page is loaded anew. -/
def reload (t : Tab) : Tab := { t with session := Session.fresh }

@[simp] theorem withStorage_storage (f : Storage → Storage) (t : Tab) :
    (t.withStorage f).storage = f t.storage := rfl

@[simp] theorem withStorage_session (f : Storage → Storage) (t : Tab) :
    (t.withStorage f).session = t.session := rfl

@[simp] theorem withStorage_lock (f : Storage → Storage) (t : Tab) :
    (t.withStorage f).origin.identityLock = t.origin.identityLock := rfl

@[simp] theorem withSession_storage (f : Session → Session) (t : Tab) :
    (t.withSession f).storage = t.storage := rfl

@[simp] theorem withSession_session (f : Session → Session) (t : Tab) :
    (t.withSession f).session = f t.session := rfl

@[simp] theorem withSession_origin (f : Session → Session) (t : Tab) :
    (t.withSession f).origin = t.origin := rfl

@[simp] theorem reload_storage (t : Tab) : t.reload.storage = t.storage := rfl

@[simp] theorem reload_session (t : Tab) : t.reload.session = Session.fresh := rfl

end Tab

/-! ## Storage requests -/

/-- How long an availability result is trusted. -/
def CACHE_TTL_MS : ℕ := 5 * 60 * 1000

section Requests

variable (env : Runtime)

def assertIDBAvailable : TabCo Unit := do
  let r ← Co.suspend
  match (← get).session.idbAvailabilityCache with
  | some c =>
      if r.now - c.cachedAt < CACHE_TTL_MS then
        match c.failure with
        | some reason => throw (.idbUnavailable reason)
        | none => return
      else
        probe r.now
  | none => probe r.now
where
  /-- Probe, and remember the outcome as of `now`. -/
  probe (now : ℕ) : TabCo Unit := do
    let r ← Co.suspend
    let failure := if env.unreliable then r.probe else none
    modify (Tab.withSession fun s => { s with idbAvailabilityCache := some ⟨failure, now⟩ })
    match failure with
    | some reason => throw (.idbUnavailable reason)
    | none => return

/-- A request to a database: open it, let the transaction take effect at once,
and see the result in a later segment. -/
def request {α : Type} (db : Database) (act : Storage → Except IdentityError (α × Storage)) :
    TabCo α := do
  assertIDBAvailable env
  let r ← Co.suspend
  match if env.faulty db then r.fault else none with
  | some fault => throw fault.error
  | none =>
      let (a, storage) ← Co.ofExcept (act (← get).storage)
      modify (Tab.withStorage fun _ => storage)
      let _ ← Co.suspend
      return a

def load {α : Type} (db : Database) (entry : Storage → Option α) : TabCo (Option α) :=
  request env db fun storage => .ok (entry storage, storage)

/-- A load of a KEK entry, which may be unreadable. -/
def loadKey (db : Database) (entry : Storage → Option StoredValue) : TabCo (Option StoredValue) :=
  request env db fun storage =>
    match entry storage with
    | some .unreadable => .error .storage
    | value => .ok (value, storage)

/-- `save`, `saveMany`, `delete` and `clear`: one transaction that writes. -/
def write (db : Database) (update : Storage → Storage) : TabCo Unit :=
  request env db fun storage => .ok ((), update storage)

/-- `store.put` of a `CryptoKey` needs structured clone. -/
def saveKey (db : Database) (key : StoredValue) (update : Storage → Storage) : TabCo Unit :=
  request env db fun storage =>
    if key.isKey && !env.structuredClone then .error .storage else .ok ((), update storage)

end Requests

end Oxpulse.Identity
