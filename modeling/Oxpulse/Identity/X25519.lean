import Oxpulse.Identity.DeviceIdentity

/-!
# The X25519 keys

The static Noise keypair, and the sealed-messaging scalar with the identity built
on it (`x25519-identity.ts`). The scalar's row names its owner; its cache, its
in-flight slot and the memo of `x25519-identity` carry the identity epoch.
-/

namespace Oxpulse.Identity

open Oxpulse.Coroutine Oxpulse.Crypto

section

variable (P : IdentityPrimitives) (env : Runtime)

/-! ## The Noise keypair -/

def unwrapX25519 (wrappedPrivateKey : Bytes) (wrappingKey : CryptoKey) : TabCo Bytes :=
  unwrapPkcs8 P env env.x25519 X25519_PKCS8_PREFIX wrappedPrivateKey wrappingKey

/-- The keypair of a row through its raw wrap: the noble path. -/
def nobleKeypair (existing : StoredX25519Keypair) (raw : Bytes) (wrappingKey : CryptoKey) :
    TabCo X25519KeypairCache := do
  let rawBuf ← unwrapSecretBytes P wrappingKey raw
  return ⟨existing.publicKey, none, some rawBuf⟩

/-- The keypair of a row; none when the runtime cannot use it any more and no raw
wrap was persisted. -/
def recoverX25519Keypair (existing : StoredX25519Keypair) (wrappingKey : CryptoKey) :
    TabCo (Option X25519KeypairCache) := do
  match existing.wrappedPrivateKey, existing.wrappedPrivateKeyRaw with
  | [], some raw => some <$> nobleKeypair P existing raw wrappingKey
  | wrapped, raw =>
      match ← unlessNotSupported (unwrapX25519 P env wrapped wrappingKey) with
      | some priv => return some ⟨existing.publicKey, some priv, none⟩
      | none =>
          -- the runtime lost X25519 since the row was written
          match raw with
          | some (b :: raw) => some <$> nobleKeypair P existing (b :: raw) wrappingKey
          | _ => return none

/-- `exportKey('raw', kp.privateKey)` -/
def exportRawScalar (scalar : Bytes) : TabCo Bytes := do
  let _ ← Co.suspend
  match env.x25519RawExport with
  | .bytes => return scalar
  | .notSupported => throw .notSupported
  | .invalidAccess => throw .data

def saveX25519Keypair (row : StoredX25519Keypair) : TabCo Unit :=
  write env .identity fun storage => { storage with x25519Keypair := some row }

/-- The keypair of WebCrypto. -/
def generateWebCryptoKeypair (wrappingKey : CryptoKey) : TabCo X25519KeypairCache := do
  let r ← Co.suspend
  if env.x25519 then
    let scalar := r.random.bytes
    let _ ← Co.suspend
    let pub := P.x25519PublicKey scalar
    let wrappedPriv ← wrapPkcs8 P X25519_PKCS8_PREFIX scalar wrappingKey
    let rawPrivBytes ← exportRawScalar env scalar
    let wrappedPrivRaw ← wrapSecretBytes P wrappingKey rawPrivBytes
    saveX25519Keypair env ⟨pub, wrappedPriv, some wrappedPrivRaw⟩
    let nonExtractPriv ← unwrapX25519 P env wrappedPriv wrappingKey
    return ⟨pub, some nonExtractPriv, none⟩
  else
    throw .notSupported

/-- The keypair of `@noble/curves`. -/
def generateNobleKeypair (wrappingKey : CryptoKey) : TabCo X25519KeypairCache := do
  let privBytes ← draw
  let pubBytes := P.x25519PublicKey privBytes.bytes
  let wrappedPrivRaw ← wrapSecretBytes P wrappingKey privBytes.bytes
  saveX25519Keypair env ⟨pubBytes, [], some wrappedPrivRaw⟩
  return ⟨pubBytes, none, some privBytes.bytes⟩

def generateX25519Keypair (wrappingKey : CryptoKey) : TabCo X25519KeypairCache := do
  match ← unlessNotSupported (generateWebCryptoKeypair P env wrappingKey) with
  | some kp => return kp
  | none => generateNobleKeypair P env wrappingKey

def loadOrMintX25519Keypair : TabCo X25519KeypairCache := do
  let wrappingKey ← getOrCreateWrappingKey env
  match ← load env .identity Storage.x25519Keypair with
  | some existing =>
      match ← recoverX25519Keypair P env existing wrappingKey with
      | some kp => return kp
      | none => generateX25519Keypair P env wrappingKey
  | none => generateX25519Keypair P env wrappingKey

def getOrCreateX25519Keypair : TabCo X25519KeypairCache :=
  remembered Session.cachedX25519Keypair (fun kp s => { s with cachedX25519Keypair := some kp })
    (loadOrMintX25519Keypair P env)

/-! ## The sealed-messaging scalar -/

/-- What the cache holds for this owner, of the current epoch. -/
def servableSealed (s : Session) (owner : List Char) (epoch : ℕ) : Option Bytes :=
  match s.cachedSealedX25519 with
  | some cached => if cached.owner = owner ∧ cached.epoch = epoch then some cached.priv else none
  | none => none

def cacheSealed (owner : List Char) (epoch : ℕ) (priv : Bytes) : TabCo Unit :=
  modify (Tab.withSession fun s => { s with cachedSealedX25519 := some ⟨owner, epoch, priv⟩ })

def sealedKind : String := "x25519-sealed-v1"

/-- The wrapped scalar of a row, when the row is one and belongs to this owner. -/
def usableSealed (owner : List Char) (row : Option StoredSealedX25519) : Option Bytes :=
  match row with
  | some existing =>
      if existing.kind = sealedKind ∧ existing.ownerEd25519PubB64 = owner ∧
          existing.wrappedPrivateKeyRaw ≠ [] then
        some existing.wrappedPrivateKeyRaw
      else none
  | none => none

/-- A fresh scalar. It is persisted unless the identity moved meanwhile or another
identity is live. -/
def mintSealed (owner : List Char) (epochAtEntry : ℕ) (wrappingKey : CryptoKey) :
    TabCo Bytes := do
  let priv ← draw
  let wrapped ← wrapSecretBytes P wrappingKey priv.bytes
  let s := (← get).session
  if s.identityEpochCounter ≠ epochAtEntry then
    return priv.bytes
  else if s.cachedIdentity.any fun live => live.publicKeyB64 ≠ owner then
    return priv.bytes
  else
    write env .identity fun storage =>
      { storage with sealedX25519 := some ⟨sealedKind, owner, wrapped⟩ }
    cacheSealed owner epochAtEntry priv.bytes
    return priv.bytes

def loadOrMintSealed (owner : List Char) (epochAtEntry : ℕ) : TabCo Bytes := do
  let wrappingKey ← getOrCreateWrappingKey env
  let existing ← load env .identity Storage.sealedX25519
  match usableSealed owner existing with
  | some wrapped =>
      let priv ← unwrapSecretBytes P wrappingKey wrapped
      cacheSealed owner epochAtEntry priv
      return priv
  | none => mintSealed P env owner epochAtEntry wrappingKey

def sealedX25519Mint (owner : List Char) : TabCo Bytes := do
  let s := (← get).session
  let epochAtEntry := s.identityEpochCounter
  match servableSealed s owner epochAtEntry with
  | some priv => return priv
  | none => loadOrMintSealed P env owner epochAtEntry

def sealedX25519Inner (owner : List Char) : TabCo Bytes := do
  match ← Co.attempt (sealedX25519Mint P env owner) with
  | .ok priv => return priv
  | .error (.idbUnavailable reason) => throw (.sealedKeyUnavailable (.idb reason))
  | .error .quotaExceeded => throw (.sealedKeyUnavailable .quotaExceeded)
  | .error e => throw e

/-- The mint behind an in-flight slot. -/
def sealedFlight (me : Agent) (owner : List Char) (entry : InflightSealed) : TabCo Bytes := do
  modify (Tab.withSession fun s =>
    { s with inflightSealed := some entry, sealedPromises := s.sealedPromises ++ [none] })
  let result ← Co.attempt (withIdentityLock env me (sealedX25519Inner P env owner))
  let _ ← Co.suspend
  modify (Tab.withSession fun s =>
    { s with
      inflightSealed := if s.inflightSealed = some entry then none else s.inflightSealed
      sealedPromises := s.sealedPromises.set entry.promise (some result) })
  Co.ofExcept result

/-- The promise of a mint in flight for this owner, of the current epoch. -/
def joinableSealed (s : Session) (owner : List Char) : Option ℕ :=
  match s.inflightSealed with
  | some entry =>
      if entry.owner = owner ∧ entry.epoch = s.identityEpochCounter then some entry.promise
      else none
  | none => none

def getOrCreateSealedX25519Secret (me : Agent) (owner : List Char) : TabCo Bytes := do
  let s := (← get).session
  match servableSealed s owner s.identityEpochCounter with
  | some priv => return priv
  | none =>
      match joinableSealed s owner with
      | some promise => joinPromise Session.sealedPromises promise
      | none =>
          sealedFlight P env me owner ⟨owner, s.identityEpochCounter, s.sealedPromises.length⟩

/-! ## `x25519-identity.ts` -/

def PKBIND_PREFIX : Bytes := textEncode "oxp/pkbind/v1"

/-- What the memo holds for this object, of the current epoch. -/
def memoisedX25519 (s : Session) (object : ℕ) : Option X25519Identity :=
  match s.x25519Cache.get? object with
  | some (epoch, id) => if epoch = s.identityEpochCounter then some id else none
  | none => none

/-- `buffer.set(source, offset)`; a source that does not fit is a `RangeError`. -/
def setBytes (source : Bytes) (offset : ℕ) (buffer : Bytes) : Except IdentityError Bytes :=
  if offset + source.length ≤ buffer.length then
    .ok (buffer.take offset ++ source ++ buffer.drop (offset + source.length))
  else .error (.error "offset is out of bounds")

/-- The buffer that is signed: the prefix, and room for 32 bytes. -/
def pkbindBytes (x25519Pub : Bytes) : Except IdentityError Bytes := do
  let signedBytes ← setBytes PKBIND_PREFIX 0 (List.replicate (PKBIND_PREFIX.length + 32) 0)
  setBytes x25519Pub PKBIND_PREFIX.length signedBytes

/-- What `@noble/curves` does with a key of any length. -/
def nobleKey (bytes : Bytes) : Except IdentityError Key32 :=
  match toKey32 bytes with
  | some key => .ok key
  | none => .error .data

/-- `secretKey` is what `x25519.keygen()` draws. -/
def generateX25519Identity (secretKey : Key32) (ed25519PrivKey : Bytes) :
    Except IdentityError X25519Identity := do
  let publicKey := P.x25519PublicKey secretKey.bytes
  let signedBytes ← pkbindBytes publicKey
  let seed ← nobleKey ed25519PrivKey
  return ⟨secretKey.bytes, publicKey, P.ed25519Sign signedBytes seed.bytes⟩

/-- `verify` is `ed25519.verify` with `zip215: false`: the signature, the message and
the public key. Whatever it throws is caught. -/
def verifyX25519SelfSig (verify : Bytes → Bytes → Bytes → Except IdentityError Bool)
    (x25519Pub selfSig ed25519Pub : Bytes) : Except IdentityError Bool := do
  let signedBytes ← pkbindBytes x25519Pub
  match verify selfSig signedBytes ed25519Pub with
  | .ok accepted => return accepted
  | .error _ => return false

/-- The scalar with its public key and the binding to the identity's seed. -/
def bindX25519 (priv seed : Bytes) : Except IdentityError X25519Identity := do
  let scalar ← nobleKey priv
  let pub := P.x25519PublicKey scalar.bytes
  let signedBytes ← pkbindBytes pub
  let seed ← nobleKey seed
  return ⟨priv, pub, P.ed25519Sign signedBytes seed.bytes⟩

/-- `getOrCreateX25519Identity` of a `DeviceIdentity` object, which is told apart
by its number. -/
def getOrCreateX25519Identity (me : Agent) (object : ℕ) (identity : DeviceIdentity) :
    TabCo X25519Identity := do
  let s := (← get).session
  let epochAtEntry := s.identityEpochCounter
  match memoisedX25519 s object with
  | some id => return id
  | none =>
      let seed ← Co.orThrow
        (.error ("[x25519-identity] getOrCreateX25519Identity: privateKeySeed null — " ++
          "identity migration required"))
        identity.privateKeySeed
      let priv ← Co.await (getOrCreateSealedX25519Secret P env me identity.publicKeyB64)
      let id ← Co.ofExcept (bindX25519 P priv seed)
      modify (Tab.withSession fun s =>
        if s.identityEpochCounter = epochAtEntry then
          { s with x25519Cache := s.x25519Cache.set object (epochAtEntry, id) }
        else s)
      return id

end

end Oxpulse.Identity
