import Oxpulse.Crypto.SessionRatchet

/-!
# The Noise XX handshake

`noise-xx.ts` with `mlkem-wrap.ts` and `sas.ts`: three messages,

    -> e, (ML-KEM public key)
    <- e, ee, s, es, (ML-KEM ciphertext)
    -> s, se

over a symmetric state `(ck, h, k, n)` that both sides mutate in place. Every
`await` of the source is a suspension point, so `writeMessage` and
`readMessage` are coroutines over the handshake object. What a call draws from
the random number generator is an argument of the call.
-/

namespace Oxpulse.Crypto

open Oxpulse.Coroutine

def AEAD_NONCE_BYTES : ℕ := 12
def MLKEM_PUBLIC_KEY_BYTES : ℕ := 1184
def MLKEM_CIPHERTEXT_BYTES : ℕ := 1088
def MLKEM_SHARED_SECRET_BYTES : ℕ := 32
def MAX_HANDSHAKE_MSG_BYTES : ℕ := 1500
def SAS_DIGIT_COUNT : ℕ := 5

def PROTOCOL_NAME : Bytes := textEncode "Noise_XX_25519_AESGCM_SHA256_OXPULSE_MESH_B2_V1"
def HKDF_INFO : Bytes := textEncode "oxpulse-mesh-b2-v1"

/-- The turns of a handshake object are numbered modulo four. -/
instance four_neZero : NeZero 4 := ⟨by decide⟩

/-- The two roles carry the same names as the session directions. -/
abbrev Role : Type := Direction

def Direction.toString : Direction → String
  | .initiator => "initiator"
  | .responder => "responder"

/-- The long-term identity of a device: Ed25519 and X25519 public keys, and
Diffie-Hellman with the X25519 secret. -/
structure DeviceIdentityProvider : Type where
  getPublicKey : Except JsError Bytes
  getX25519PublicKey : Except JsError Bytes
  dhX25519 : Bytes → Except JsError Bytes

/-- The random bytes one call draws. -/
structure NoiseDraws : Type where
  eSecret : Bytes
  eSecret_length : eSecret.length = 32
  mlkemSeed : Bytes
  mlkemCoins : Bytes

def NoiseDraws.sample (b : UInt8) : NoiseDraws where
  eSecret := List.replicate 32 b
  eSecret_length := List.length_replicate
  mlkemSeed := List.replicate 64 b
  mlkemCoins := List.replicate 32 b

/-! ## `sas.ts` -/

def computeSas (handshakeHash : Bytes) : Except JsError String :=
  if handshakeHash.length ≠ 32 then
    .error (.error ("sas: expected 32-byte hash, got " ++ toString handshakeHash.length))
  else
    let truncated := ofBigEndian (handshakeHash.take 8) % 10 ^ SAS_DIGIT_COUNT
    .ok (String.ofList ((toString truncated).toList.leftpad SAS_DIGIT_COUNT '0'))

/-! ## The libraries, with their exceptions -/

/-- `x25519.getSharedSecret`. -/
def getSharedSecret (P : Primitives) (secretKey publicKey : Bytes) : Except JsError Bytes :=
  match P.x25519SharedSecret secretKey publicKey with
  | none => .error .library
  | some ss => .ok ss

/-- The provider of an identity with this Ed25519 public key and this X25519
secret: `dhX25519` uses the secret of `getX25519PublicKey`. -/
structure IdentityLaws (P : Primitives) (identity : DeviceIdentityProvider)
    (edPublic xSecret : Bytes) : Prop where
  publicKey : identity.getPublicKey = .ok edPublic
  publicKey_length : edPublic.length = 32
  x25519PublicKey : identity.getX25519PublicKey = .ok (P.x25519PublicKey xSecret)
  xSecret_length : xSecret.length = 32
  dhX25519 : ∀ pub, identity.dhX25519 pub = getSharedSecret P xSecret pub

/-- A provider that holds its keys in memory. -/
def DeviceIdentityProvider.ofKeys (P : Primitives) (edPublic xSecret : Bytes) :
    DeviceIdentityProvider where
  getPublicKey := .ok edPublic
  getX25519PublicKey := .ok (P.x25519PublicKey xSecret)
  dhX25519 := getSharedSecret P xSecret

theorem DeviceIdentityProvider.ofKeys_laws (P : Primitives) {edPublic xSecret : Bytes}
    (hed : edPublic.length = 32) (hx : xSecret.length = 32) :
    IdentityLaws P (.ofKeys P edPublic xSecret) edPublic xSecret :=
  ⟨rfl, hed, rfl, hx, fun _ => rfl⟩

structure MlkemKeypair : Type where
  publicKey : Bytes
  secretKey : Bytes
deriving DecidableEq

def generateMlkemKeypair (P : Primitives) (seed : Bytes) : Except JsError MlkemKeypair :=
  let (publicKey, secretKey) := P.mlkemKeygen seed
  if publicKey.length ≠ MLKEM_PUBLIC_KEY_BYTES then
    .error (.error "mlkem-wrap: keygen public key size mismatch")
  else .ok ⟨publicKey, secretKey⟩

/-- Ciphertext and shared secret. -/
def encapsulate (P : Primitives) (peerPublicKey coins : Bytes) : Except JsError (Bytes × Bytes) :=
  if peerPublicKey.length ≠ MLKEM_PUBLIC_KEY_BYTES then
    .error (.error ("mlkem-wrap: expected " ++ toString MLKEM_PUBLIC_KEY_BYTES ++
      "-byte pubkey, got " ++ toString peerPublicKey.length))
  else
    match P.mlkemEncapsulate peerPublicKey coins with
    | none => .error .library
    | some (cipherText, sharedSecret) =>
        if cipherText.length ≠ MLKEM_CIPHERTEXT_BYTES then
          .error (.error "mlkem-wrap: encapsulate ciphertext size mismatch")
        else if sharedSecret.length ≠ MLKEM_SHARED_SECRET_BYTES then
          .error (.error "mlkem-wrap: encapsulate shared-secret size mismatch")
        else .ok (cipherText, sharedSecret)

def decapsulate (P : Primitives) (secretKey ciphertext : Bytes) : Except JsError Bytes :=
  if ciphertext.length ≠ MLKEM_CIPHERTEXT_BYTES then
    .error (.error ("mlkem-wrap: expected " ++ toString MLKEM_CIPHERTEXT_BYTES ++
      "-byte ciphertext, got " ++ toString ciphertext.length))
  else
    match P.mlkemDecapsulate ciphertext secretKey with
    | none => .error .library
    | some sharedSecret =>
        if sharedSecret.length ≠ MLKEM_SHARED_SECRET_BYTES then
          .error (.error "mlkem-wrap: decapsulate shared-secret size mismatch")
        else .ok sharedSecret

/-! ## The symmetric state -/

structure NoiseState : Type where
  ck : Bytes
  h : Bytes
  k : Option Bytes
  n : ℕ
deriving DecidableEq

/-- The blocks `T1 .. Tn` of the expansion under `prk`, from block `i`. -/
def hkdfBlocks (P : Primitives) (prk : Bytes) : ℕ → ℕ → Bytes → List Bytes
  | 0, _, _ => []
  | n + 1, i, prev =>
      let next := P.hmac prk (prev ++ [UInt8.ofNat i])
      next :: hkdfBlocks P prk n (i + 1) next

def hkdfExpand (P : Primitives) (ck input : Bytes) (n : ℕ) : List Bytes :=
  hkdfBlocks P (P.hmac ck input) n 1 []

def mixHash (P : Primitives) (data : Bytes) (s : NoiseState) : NoiseState :=
  { s with h := P.sha256 (s.h ++ data) }

def mixKey (P : Primitives) (ikm : Bytes) (s : NoiseState) : NoiseState :=
  match hkdfExpand P s.ck ikm 2 with
  | [newCk, newK] => { s with ck := newCk, k := some (newK.take AEAD_KEY_BYTES), n := 0 }
  | _ => s -- two blocks were asked for

def nonceBytes (n : ℕ) : Bytes :=
  List.replicate (AEAD_NONCE_BYTES - 8) 0 ++ setBigUint64 n

section SymmetricState

variable {ρ σ : Type} (P : Primitives)

def aesGcmEncrypt (key nonce plaintext ad : Bytes) : Co ρ σ JsError Bytes := do
  let _ ← Co.suspend -- importKey
  let _ ← Co.suspend -- subtle.encrypt
  return P.aesGcmSeal key nonce ad plaintext

def aesGcmDecrypt (key nonce ciphertext ad : Bytes) : Co ρ σ JsError Bytes := do
  let _ ← Co.suspend -- importKey
  let _ ← Co.suspend -- subtle.decrypt
  Co.orThrow .library (P.aesGcmOpen key nonce ad ciphertext)

def encryptAndHash (plaintext : Bytes) : Co ρ NoiseState JsError Bytes := do
  let s ← get
  match s.k with
  | none =>
      modify (mixHash P plaintext)
      return plaintext
  | some k =>
      let ct ← Co.await (aesGcmEncrypt P k (nonceBytes s.n) plaintext s.h)
      -- the state may have moved while the AEAD ran
      modify fun s => mixHash P ct { s with n := s.n + 1 }
      return ct

def decryptAndHash (ciphertext : Bytes) : Co ρ NoiseState JsError Bytes := do
  let s ← get
  match s.k with
  | none =>
      modify (mixHash P ciphertext)
      return ciphertext
  | some k =>
      let pt ← Co.await (aesGcmDecrypt P k (nonceBytes s.n) ciphertext s.h)
      modify fun s => mixHash P ciphertext { s with n := s.n + 1 }
      return pt

end SymmetricState

/-! ## The handshake object -/

structure NoiseXxHandshake : Type where
  role : Role
  identity : DeviceIdentityProvider
  state : NoiseState
  msgIdx : Fin 4
  eSecret : Option Bytes
  ePublic : Option Bytes
  /-- The remote ephemeral. -/
  rePublic : Option Bytes
  /-- On the responder, `publicKey` holds the ML-KEM ciphertext. -/
  mlkemKeypair : Option MlkemKeypair
  mlkemSharedSecret : Option Bytes
  /-- The remote static Ed25519 key, learned in msg-2 or msg-3. -/
  rsPublic : Option Bytes
  rsX25519Public : Option Bytes

structure NoiseSplit : Type where
  sendKey : Bytes
  recvKey : Bytes
deriving DecidableEq

namespace NoiseXxHandshake

/-- The constructor. -/
def new (P : Primitives) (role : Role) (identity : DeviceIdentityProvider) : NoiseXxHandshake :=
  let protoHash := P.sha256 PROTOCOL_NAME
  { role := role
    identity := identity
    state := ⟨protoHash, protoHash, none, 0⟩
    msgIdx := 0
    eSecret := none
    ePublic := none
    rePublic := none
    mlkemKeypair := none
    mlkemSharedSecret := none
    rsPublic := none
    rsX25519Public := none }

def isComplete (hs : NoiseXxHandshake) : Bool := hs.msgIdx == 3

def peerStaticPublicKey (hs : NoiseXxHandshake) : Option Bytes := hs.rsPublic

def split (P : Primitives) (hs : NoiseXxHandshake) : Except JsError NoiseSplit :=
  if hs.msgIdx ≠ 3 then .error (.error "split: handshake incomplete")
  else
    match hs.mlkemSharedSecret with
    | none => .error (.error "split: missing mlkem shared secret")
    | some mlkemSharedSecret =>
        let ikm := hs.state.ck ++ mlkemSharedSecret
        let okm := P.hkdf ikm (some hs.state.h) HKDF_INFO (CHAIN_KEY_BYTES * 2)
        let k1 := okm.take CHAIN_KEY_BYTES
        let k2 := (okm.drop CHAIN_KEY_BYTES).take CHAIN_KEY_BYTES
        match hs.role with
        | .initiator => .ok ⟨k1, k2⟩
        | .responder => .ok ⟨k2, k1⟩

def sas (hs : NoiseXxHandshake) : Except JsError String := computeSas hs.state.h

def setState (s : NoiseState) (hs : NoiseXxHandshake) : NoiseXxHandshake := { hs with state := s }

variable {ρ : Type} (P : Primitives)

/-- A call on `this.state`. -/
def onState {α : Type} (m : Co ρ NoiseState JsError α) : Co ρ NoiseXxHandshake JsError α :=
  Co.zoom state setState m

def mixKeyState (ikm : Bytes) (hs : NoiseXxHandshake) : NoiseXxHandshake :=
  { hs with state := mixKey P ikm hs.state }

/-- Draw an ephemeral key pair and absorb its public key. -/
def generateEphemeral (draws : NoiseDraws) (hs : NoiseXxHandshake) : NoiseXxHandshake :=
  let ePublic := P.x25519PublicKey draws.eSecret
  { hs with
    eSecret := some draws.eSecret
    ePublic := some ePublic
    state := mixHash P ePublic hs.state }

/-- Store the remote ephemeral and absorb it. -/
def learnEphemeral (rePublic : Bytes) (hs : NoiseXxHandshake) : NoiseXxHandshake :=
  { hs with rePublic := some rePublic, state := mixHash P rePublic hs.state }

/-! ### msg-1 -/

def writeMsg1 (draws : NoiseDraws) (payload : Bytes) : Co ρ NoiseXxHandshake JsError Bytes := do
  modify (generateEphemeral P draws)
  let mlkemKeypair ← Co.ofExcept (generateMlkemKeypair P draws.mlkemSeed)
  modify fun hs => { hs with mlkemKeypair := some mlkemKeypair }
  let hybridPayload := mlkemKeypair.publicKey ++ payload
  let ct ← Co.await (onState (encryptAndHash P hybridPayload))
  let hs ← get
  set { hs with msgIdx := 1 }
  -- `ePublic` was set above and is never reset
  return hs.ePublic.getD [] ++ ct

def readMsg1 (draws : NoiseDraws) (message : Bytes) : Co ρ NoiseXxHandshake JsError Bytes := do
  if message.length < 32 + MLKEM_PUBLIC_KEY_BYTES then
    throw (.error "msg-1: too short")
  else
    let rePublic := message.take 32
    modify (learnEphemeral P rePublic)
    let payload ← Co.await (onState (decryptAndHash P (message.drop 32)))
    let peerMlkemPub := payload.take MLKEM_PUBLIC_KEY_BYTES
    let (ciphertext, sharedSecret) ← Co.ofExcept (encapsulate P peerMlkemPub draws.mlkemCoins)
    modify fun hs => { hs with
      mlkemKeypair := some ⟨ciphertext, []⟩
      mlkemSharedSecret := some sharedSecret
      msgIdx := 1 }
    return payload.drop MLKEM_PUBLIC_KEY_BYTES

/-! ### msg-2 -/

/-- The static payload: Ed25519 and X25519 public keys. -/
def staticPayload : Co ρ NoiseXxHandshake JsError Bytes := do
  let hs ← get
  let sPub ← Co.await (Co.ofExcept hs.identity.getPublicKey)
  let sX25519Pub ← Co.await (Co.ofExcept hs.identity.getX25519PublicKey)
  return sPub ++ sX25519Pub

/-- Diffie-Hellman of the static key with the remote ephemeral. -/
def staticDh (rePublic : Bytes) : Co ρ NoiseXxHandshake JsError Unit := do
  let hs ← get
  -- `rePublic` may have been replaced since it was checked
  let dh ← Co.await (Co.ofExcept (hs.identity.dhX25519 (hs.rePublic.getD rePublic)))
  modify (mixKeyState P dh)

def writeMsg2 (draws : NoiseDraws) (payload : Bytes) : Co ρ NoiseXxHandshake JsError Bytes := do
  let hs ← get
  let rePublic ← Co.orThrow (.error "msg-2: missing remote ephemeral") hs.rePublic
  let mlkemKeypair ← Co.orThrow (.error "msg-2: missing mlkem state") hs.mlkemKeypair
  let _ ← Co.orThrow (.error "msg-2: missing mlkem state") hs.mlkemSharedSecret
  modify (generateEphemeral P draws)
  let ee ← Co.ofExcept (getSharedSecret P draws.eSecret rePublic)
  modify (mixKeyState P ee)
  let sPayload ← staticPayload
  let sCt ← Co.await (onState (encryptAndHash P sPayload))
  staticDh P rePublic
  let hs ← get
  let hybridPayload := (hs.mlkemKeypair.getD mlkemKeypair).publicKey ++ payload
  let ctPayload ← Co.await (onState (encryptAndHash P hybridPayload))
  let hs ← get
  set { hs with msgIdx := 2 }
  return hs.ePublic.getD [] ++ sCt ++ ctPayload

/-- 64 bytes of static keys and the tag. -/
def S_CT_BYTES : ℕ := 64 + 16

/-- Decrypt the remote static keys, store them, and do the ephemeral's
Diffie-Hellman with the X25519 one. -/
def readStatic (eSecret sCt : Bytes) : Co ρ NoiseXxHandshake JsError Unit := do
  let sPayload ← Co.await (onState (decryptAndHash P sCt))
  let rsX25519Public := (sPayload.drop 32).take 32
  modify fun hs => { hs with
    rsPublic := some (sPayload.take 32)
    rsX25519Public := some rsX25519Public }
  let hs ← get
  let dh ← Co.ofExcept (getSharedSecret P (hs.eSecret.getD eSecret) rsX25519Public)
  modify (mixKeyState P dh)

/-- The end of `readMsg2`. -/
def learnSharedSecret (mlkemSharedSecret : Bytes) (hs : NoiseXxHandshake) : NoiseXxHandshake :=
  { hs with mlkemSharedSecret := some mlkemSharedSecret, msgIdx := 2 }

def readMsg2 (message : Bytes) : Co ρ NoiseXxHandshake JsError Bytes := do
  let hs ← get
  let eSecret ← Co.orThrow (.error "msg-2: missing local ephemeral") hs.eSecret
  let mlkemKeypair ← Co.orThrow (.error "msg-2: missing mlkem keypair") hs.mlkemKeypair
  let rePublic := message.take 32
  modify (learnEphemeral P rePublic)
  let ee ← Co.ofExcept (getSharedSecret P eSecret rePublic)
  modify (mixKeyState P ee)
  readStatic P eSecret ((message.drop 32).take S_CT_BYTES)
  let payload ← Co.await (onState (decryptAndHash P (message.drop (32 + S_CT_BYTES))))
  let hs ← get
  let mlkemSharedSecret ← Co.ofExcept (decapsulate P
    (hs.mlkemKeypair.getD mlkemKeypair).secretKey (payload.take MLKEM_CIPHERTEXT_BYTES))
  modify (learnSharedSecret mlkemSharedSecret)
  return payload.drop MLKEM_CIPHERTEXT_BYTES

/-! ### msg-3 -/

def writeMsg3 (payload : Bytes) : Co ρ NoiseXxHandshake JsError Bytes := do
  let hs ← get
  let _ ← Co.orThrow (.error "msg-3: missing ephemerals") hs.eSecret
  let rePublic ← Co.orThrow (.error "msg-3: missing ephemerals") hs.rePublic
  let sPayload ← staticPayload
  let sCt ← Co.await (onState (encryptAndHash P sPayload))
  staticDh P rePublic
  let ctPayload ← Co.await (onState (encryptAndHash P payload))
  modify fun hs => { hs with msgIdx := 3 }
  return sCt ++ ctPayload

def readMsg3 (message : Bytes) : Co ρ NoiseXxHandshake JsError Bytes := do
  let hs ← get
  let eSecret ← Co.orThrow (.error "msg-3: missing local ephemeral") hs.eSecret
  readStatic P eSecret (message.take S_CT_BYTES)
  let payload ← Co.await (onState (decryptAndHash P (message.drop S_CT_BYTES)))
  modify fun hs => { hs with msgIdx := 3 }
  return payload

/-! ### The two entry points -/

def invalidState (method : String) (hs : NoiseXxHandshake) : JsError :=
  .noiseStateError (method ++ ": invalid state role=" ++ hs.role.toString ++ " idx=" ++
    toString hs.msgIdx.val)

/-- The message an object in this state writes. -/
def writeTurn (draws : NoiseDraws) (payload : Bytes) (hs : NoiseXxHandshake) :
    Co ρ NoiseXxHandshake JsError Bytes :=
  match hs.role, hs.msgIdx with
  | .initiator, 0 => writeMsg1 P draws payload
  | .responder, 1 => writeMsg2 P draws payload
  | .initiator, 2 => writeMsg3 P payload
  | _, _ => throw (invalidState "writeMessage" hs)

def writeMessage (draws : NoiseDraws) (payload : Bytes) :
    Co ρ NoiseXxHandshake JsError Bytes := do
  let hs ← get
  if payload.length > MAX_HANDSHAKE_MSG_BYTES then
    throw (.error "handshake payload too large")
  else writeTurn P draws payload hs

/-- The message an object in this state reads. -/
def readTurn (draws : NoiseDraws) (message : Bytes) (hs : NoiseXxHandshake) :
    Co ρ NoiseXxHandshake JsError Bytes :=
  match hs.role, hs.msgIdx with
  | .responder, 0 => readMsg1 P draws message
  | .initiator, 1 => readMsg2 P message
  | .responder, 2 => readMsg3 P message
  | _, _ => throw (invalidState "readMessage" hs)

def readMessage (draws : NoiseDraws) (message : Bytes) :
    Co ρ NoiseXxHandshake JsError Bytes := do
  let hs ← get
  if message.length > MAX_HANDSHAKE_MSG_BYTES + 256 then
    throw (.error "handshake message too large")
  else readTurn P draws message hs

end NoiseXxHandshake

end Oxpulse.Crypto
