import Oxpulse.Identity.WrappingKey

/-!
# The device identity

`device-identity.ts`: load, recover, replace or mint the Ed25519 identity, its
export and restore, and the wipe. The identity is a pair of rows — the record
with the public key and the wrapped PKCS#8 envelope, and the wrapped raw seed —
written in one transaction.

A call that finds another one in flight joins its promise. It is resumed when
the promise has settled; a schedule that resumes it earlier makes it fail with
`notReady`, and so for a call that waits for the lock.
-/

namespace Oxpulse.Identity

open Oxpulse.Coroutine Oxpulse.Crypto

/-- 32 bytes, or none when there are not that many. -/
def toKey32 (bytes : Bytes) : Option Key32 :=
  if h : bytes.length = 32 then some ⟨bytes, h⟩ else none

section

variable (P : IdentityPrimitives) (env : Runtime)

/-! ## Mint and persist -/

def generateDeviceIdentity : TabCo DeviceIdentity := do
  let rawSeed ← draw
  let publicKey := (P.ed25519PublicKey rawSeed).bytes
  let handles ← unlessNotSupported do
    let privateKey ←
      importPkcs8 env env.ed25519 ED25519_PKCS8_PREFIX (ED25519_PKCS8_PREFIX ++ rawSeed.bytes)
    let publicKey ← importPublicKey env.ed25519 publicKey
    return (privateKey, publicKey)
  return {
    publicKeyB64 := toBase64url publicKey
    publicKey := handles.map Prod.snd
    privateKey := handles.map Prod.fst
    privateKeySeed := some rawSeed.bytes }

/-- The pair of rows, in one transaction. -/
def saveIdentity (stored : StoredIdentity) (wrappedRawSeed : Bytes) : TabCo Unit :=
  write env .identity fun storage =>
    { storage with devicePrivRaw := some wrappedRawSeed, deviceKey := some stored }

/-- The PKCS#8 wrap, or the zero-length sentinel. -/
def wrapPrivateKey (privateKey : Option Bytes) (wrappingKey : CryptoKey) : TabCo Bytes :=
  match privateKey with
  | some privateKey => wrapPkcs8 P ED25519_PKCS8_PREFIX privateKey wrappingKey
  | none => pure []

/-- The runtime handles of an identity that was just persisted. -/
def runtimeHandles (identity : DeviceIdentity) (wrappedPrivateKey : Bytes)
    (wrappingKey : CryptoKey) : TabCo DeviceIdentity := do
  let nonExtractablePrivKey ← match identity.privateKey with
    | some _ =>
        some <$> unwrapPkcs8 P env env.ed25519 ED25519_PKCS8_PREFIX wrappedPrivateKey wrappingKey
    | none => pure none
  match identity.publicKey with
  | some _ => return { identity with privateKey := nonExtractablePrivKey }
  | none =>
      -- best-effort: whatever is thrown, the handle stays null
      let publicKey ← Co.attempt (do
        let bytes ← Co.orThrow .data (fromBase64url identity.publicKeyB64)
        importPublicKey env.ed25519 bytes)
      return { identity with publicKey := publicKey.toOption, privateKey := nonExtractablePrivKey }

def persistIdentity (identity : DeviceIdentity) : TabCo DeviceIdentity := do
  let wrappingKey ← getOrCreateWrappingKey env
  let seed ← Co.orThrow
    (.error "[identity] persistIdentity called with null privateKeySeed — invariant violation")
    identity.privateKeySeed
  let wrappedRawSeed ← wrapSecretBytes P wrappingKey seed
  let wrappedPrivateKey ← wrapPrivateKey P identity.privateKey wrappingKey
  saveIdentity env ⟨identity.publicKeyB64, wrappedPrivateKey⟩ wrappedRawSeed
  runtimeHandles P env identity wrappedPrivateKey wrappingKey

/-- `{ identity, persisted }` -/
structure Minted : Type where
  identity : DeviceIdentity
  persisted : Bool

def mintIdentityWithStorageFallback : TabCo Minted := do
  match ← Co.attempt (do persistIdentity P env (← generateDeviceIdentity P env)) with
  | .ok identity => return ⟨identity, true⟩
  | .error (.idbUnavailable _) => return ⟨← generateDeviceIdentity P env, false⟩
  | .error .quotaExceeded => return ⟨← generateDeviceIdentity P env, false⟩
  | .error e => throw e

/-! ## Unwrap and recover -/

/-- The seed row, which must be the seed of the stored public key. -/
def unwrapRawSeed (stored : StoredIdentity) (wrappingKey : CryptoKey) (wrappedRawSeed : Bytes) :
    TabCo Bytes := do
  let rawSeed ← unwrapSecretBytes P wrappingKey wrappedRawSeed
  let seed ← Co.orThrow .data (toKey32 rawSeed)
  let storedPub ← Co.orThrow .data (fromBase64url stored.publicKeyB64)
  if (P.ed25519PublicKey seed).bytes = storedPub then
    return rawSeed
  else
    throw (.identityData "stored public key does not match the seed-derived public key")

/-- The public handle, null on a noble-only runtime. -/
def importStoredPublicKey (stored : StoredIdentity) : TabCo (Option Bytes) :=
  unlessNotSupported do
    let bytes ← Co.orThrow .data (fromBase64url stored.publicKeyB64)
    importPublicKey env.ed25519 bytes

/-- The private handle, null on a noble-only runtime and for the sentinel. -/
def unwrapStoredPrivateKey (stored : StoredIdentity) (wrappingKey : CryptoKey) :
    TabCo (Option Bytes) :=
  if stored.wrappedPrivateKey = [] then pure none
  else
    unlessNotSupported
      (unwrapPkcs8 P env env.ed25519 ED25519_PKCS8_PREFIX stored.wrappedPrivateKey wrappingKey)

def unwrapIdentityWith (stored : StoredIdentity) (wrappingKey : CryptoKey) :
    TabCo DeviceIdentity := do
  let publicKey ← importStoredPublicKey env stored
  let privateKey ← unwrapStoredPrivateKey P env stored wrappingKey
  match ← load env .identity Storage.devicePrivRaw with
  | some wrappedRawSeed =>
      let rawSeed ← unwrapRawSeed P stored wrappingKey wrappedRawSeed
      return ⟨stored.publicKeyB64, publicKey, privateKey, some rawSeed⟩
  | none => return ⟨stored.publicKeyB64, publicKey, privateKey, none⟩

def unwrapIdentity (stored : StoredIdentity) : TabCo DeviceIdentity := do
  let wrappingKey ← getOrCreateWrappingKey env
  unwrapIdentityWith P env stored wrappingKey

/-- Write the entry of the old layout over the KEK, where the runtime can. -/
def restoreKek (entry : KekEntry) : TabCo Unit := do
  match entry with
  | .raw _ => saveKek env deviceKek entry.stored
  | .key _ =>
      if ← probeStructuredClone env deviceKek then
        saveKek env deviceKek entry.stored

/-- Unwrap with the entry of the old layout, and adopt it when that works. -/
def unwrapWithLegacyKey (stored : StoredIdentity) : TabCo (Option DeviceIdentity) := do
  match ← loadKey env .identity Storage.legacyWrappingKey with
  | none => return none
  | some legacy =>
      match classifyKekEntry legacy with
      | none => return none
      | some entry =>
          let key ← entry.handle
          let identity ← unwrapIdentityWith P env stored key
          modify (Tab.withSession fun s => { s with cachedWrappingKey := some key })
          let _ ← Co.attempt (restoreKek env entry)
          return some identity

def recoverWithLegacyKey (stored : StoredIdentity) : TabCo (Option DeviceIdentity) := do
  match ← Co.attempt (unwrapWithLegacyKey P env stored) with
  | .ok identity => return identity
  | .error _ => return none

/-! ## `getOrCreateDeviceIdentity` -/

/-- The residue of the retired identity. -/
def wipeResidue : TabCo Unit := do
  write env .identity fun storage => { storage with x25519Keypair := none }
  write env .identity fun storage => { storage with sealedX25519 := none }
  write env .identity fun storage => { storage with profileSeed := none }
  clearRoomHostSeed env

/-- Replace an identity that has no raw seed: mint first, then wipe. -/
def replaceLegacyIdentity : TabCo DeviceIdentity := do
  let minted ← mintIdentityWithStorageFallback P env
  if minted.persisted then
    modify (Tab.withSession fun s =>
      { s with
        cachedX25519Keypair := none
        cachedSealedX25519 := none
        identityEpochCounter := s.identityEpochCounter + 1
        cachedProfileSeed := none })
    let _ ← Co.attempt (wipeResidue env)
    modify (Tab.withSession fun s => { s with cachedIdentity := some minted.identity })
    return minted.identity
  else
    return minted.identity

/-- An unwrapped identity is used, unless it has no raw seed. -/
def useIdentity (unwrapped : DeviceIdentity) : TabCo DeviceIdentity := do
  if unwrapped.privateKeySeed.isSome then
    modify (Tab.withSession fun s => { s with cachedIdentity := some unwrapped })
    return unwrapped
  else
    replaceLegacyIdentity P env

def useStored (stored : StoredIdentity) : TabCo DeviceIdentity := do
  match ← Co.attempt (unwrapIdentity P env stored) with
  | .ok unwrapped => useIdentity P env unwrapped
  | .error e =>
      match ← recoverWithLegacyKey P env stored with
      | some recovered => useIdentity P env recovered
      | none => throw e

/-- The create path. -/
def createIdentity : TabCo DeviceIdentity := do
  let minted ← mintIdentityWithStorageFallback P env
  if minted.persisted then
    modify (Tab.withSession fun s => { s with cachedIdentity := some minted.identity })
  return minted.identity

def getOrCreateDeviceIdentityInner : TabCo DeviceIdentity := do
  match (← get).session.cachedIdentity with
  | some identity => return identity
  | none =>
      match ← Co.attempt (load env .identity Storage.deviceKey) with
      | .ok (some stored) => useStored P env stored
      | .ok none => createIdentity P env
      | .error (.idbUnavailable _) => generateDeviceIdentity P env
      | .error e => throw e

/-- `navigator.locks.request('oxpulse-device-identity', fn)`, where the runtime has
it. The lock is granted when the call is resumed, and released after `fn` settled. -/
def withIdentityLock {α : Type} (me : Agent) (fn : TabCo α) : TabCo α := do
  if env.locks then
    let _ ← Co.suspend
    match (← get).origin.identityLock with
    | some _ => throw .notReady
    | none =>
        modify fun t => { t with origin := { t.origin with identityLock := some me } }
        let result ← Co.attempt fn
        let _ ← Co.suspend
        modify fun t => { t with origin := { t.origin with identityLock := none } }
        Co.ofExcept result
  else
    fn

/-- Wait for a promise of the tab. -/
def joinPromise {α : Type} (promises : Session → List (Option (Except IdentityError α)))
    (promise : ℕ) : TabCo α := do
  let _ ← Co.suspend
  match (promises (← get).session)[promise]? with
  | some (some result) => Co.ofExcept result
  | _ => throw .notReady

/-- The flight behind an in-flight promise. -/
def identityFlight (me : Agent) (promise : ℕ) : TabCo DeviceIdentity := do
  modify (Tab.withSession fun s =>
    { s with
      inflightIdentity := some promise
      identityPromises := s.identityPromises ++ [none] })
  let result ← Co.attempt (withIdentityLock env me (getOrCreateDeviceIdentityInner P env))
  let _ ← Co.suspend
  modify (Tab.withSession fun s =>
    { s with
      inflightIdentity := none
      identityPromises := s.identityPromises.set promise (some result) })
  Co.ofExcept result

def getOrCreateDeviceIdentity (me : Agent) : TabCo DeviceIdentity := do
  let s := (← get).session
  match s.cachedIdentity with
  | some identity => return identity
  | none =>
      match s.inflightIdentity with
      | some promise => joinPromise Session.identityPromises promise
      | none => identityFlight P env me s.identityPromises.length

/-! ## Wipe, export, restore -/

def clearDeviceIdentity : TabCo Unit := do
  modify (Tab.withSession fun s =>
    { s with
      cachedIdentity := none
      cachedWrappingKey := none
      cachedProfileSeed := none
      cachedX25519Keypair := none
      cachedSealedX25519 := none
      identityEpochCounter := s.identityEpochCounter + 1 })
  write env .identity fun storage => { storage with deviceKey := none }
  write env .identity fun storage => { storage with devicePrivRaw := none }
  write env .identity fun storage => { storage with legacyWrappingKey := none }
  write env .identity fun storage => { storage with profileSeed := none }
  write env .identity fun storage => { storage with x25519Keypair := none }
  write env .identity fun storage => { storage with sealedX25519 := none }
  clearRoomHostSeed env
  write env .kek fun storage => { storage with kek := none }

/-- The seed out of the raw-seed row, for a record with the zero-length sentinel. -/
def exportRawSeed (wrappingKey : CryptoKey) : TabCo Bytes := do
  match ← load env .identity Storage.devicePrivRaw with
  | some wrappedRawSeed => unwrapSecretBytes P wrappingKey wrappedRawSeed
  | none =>
      throw (.identityData
        "No Ed25519 private key in IDB (noble-only identity, no raw seed stored)")

/-- The seed out of the PKCS#8 envelope, unwrapped extractable and exported. -/
def exportPkcs8Seed (stored : StoredIdentity) (wrappingKey : CryptoKey) : TabCo Bytes := do
  let secret ←
    unwrapPkcs8 P env env.ed25519 ED25519_PKCS8_PREFIX stored.wrappedPrivateKey wrappingKey
  let _ ← Co.suspend
  let pkcs8 := ED25519_PKCS8_PREFIX ++ secret
  if pkcs8.length < 48 then
    throw (.identityData "Unexpected PKCS#8 length for Ed25519 key")
  else
    return pkcs8.drop 16

/-- The seed out of the row that has it. -/
def exportSeed (stored : StoredIdentity) (wrappingKey : CryptoKey) : TabCo Bytes :=
  if stored.wrappedPrivateKey = [] then exportRawSeed P env wrappingKey
  else exportPkcs8Seed P env stored wrappingKey

/-- The secret, and the stored public key. -/
def exportRawDeviceSecret : TabCo (Bytes × List Char) := do
  match ← load env .identity Storage.deviceKey with
  | none => throw (.identityData "No device identity in IDB")
  | some stored =>
      let wrappingKey ← getOrCreateWrappingKey env
      let secret ← exportSeed P env stored wrappingKey
      return (secret, stored.publicKeyB64)

/-- The PKCS#8 wrap of a restored secret, or the zero-length sentinel. -/
def wrapRestoredSecret (secret : Bytes) (wrappingKey : CryptoKey) : TabCo Bytes := do
  let wrapped ← unlessNotSupported do
    let key ← importPkcs8 env env.ed25519 ED25519_PKCS8_PREFIX (ED25519_PKCS8_PREFIX ++ secret)
    wrapPkcs8 P ED25519_PKCS8_PREFIX key wrappingKey
  return wrapped.getD []

/-- Delete the sealed scalar of another owner. -/
def wipeForeignSealed (publicB64u : List Char) : TabCo Unit := do
  match ← load env .identity Storage.sealedX25519 with
  | some existingSealed =>
      if existingSealed.ownerEd25519PubB64 ≠ publicB64u then
        write env .identity fun storage => { storage with sealedX25519 := none }
  | none => return

def replaceDeviceIdentity (secret : Bytes) (publicB64u : List Char) : TabCo Unit := do
  modify (Tab.withSession fun s => { s with cachedIdentity := none, cachedWrappingKey := none })
  let wrappingKey ← getOrCreateWrappingKey env
  let wrappedRawSeed ← wrapSecretBytes P wrappingKey secret
  let wrappedPrivateKey ← wrapRestoredSecret P env secret wrappingKey
  saveIdentity env ⟨publicB64u, wrappedPrivateKey⟩ wrappedRawSeed
  -- survivable: the pair has landed
  let _ ← Co.attempt (wipeForeignSealed env publicB64u)
  modify (Tab.withSession fun s =>
    { s with
      cachedSealedX25519 := none
      identityEpochCounter := s.identityEpochCounter + 1
      cachedIdentity := none })

end

end Oxpulse.Identity
