import Oxpulse.Crypto.Laws
import Oxpulse.Crypto.NoiseXX

/-!
# The handshake messages, one call at a time

When the calls on a handshake object are awaited one after another, a message
is an ordinary state transformation. The equations of this module give it for
each of the six messages, with the state left at every point where the call can
throw: `sealed` and `opened` are the AEAD under the current cipher key,
`absorb` is what either of them does to the symmetric state.
-/

namespace Oxpulse.Crypto

open Oxpulse.Coroutine

variable {ρ : Type} {P : Primitives} {r : ρ}

/-- What `encryptAndHash` returns. -/
def sealed (P : Primitives) (s : NoiseState) (plaintext : Bytes) : Bytes :=
  match s.k with
  | none => plaintext
  | some k => P.aesGcmSeal k (nonceBytes s.n) s.h plaintext

/-- What `decryptAndHash` returns, if it does. -/
def opened (P : Primitives) (s : NoiseState) (ciphertext : Bytes) : Option Bytes :=
  match s.k with
  | none => some ciphertext
  | some k => P.aesGcmOpen k (nonceBytes s.n) s.h ciphertext

/-- The symmetric state after it absorbed a ciphertext. -/
def absorb (P : Primitives) (ciphertext : Bytes) (s : NoiseState) : NoiseState :=
  mixHash P ciphertext { s with n := if s.k.isSome then s.n + 1 else s.n }

theorem opened_sealed (hgcm : AesGcmLaws P) (s : NoiseState) (pt : Bytes) :
    opened P s (sealed P s pt) = some pt := by
  unfold opened sealed
  cases s.k with
  | none => rfl
  | some k => exact hgcm.open_seal _ _ _ _

@[simp] theorem encryptAndHash_run (s : NoiseState) (pt : Bytes) :
    (encryptAndHash P pt : Co ρ _ _ _).run r s =
      (absorb P (sealed P s pt) s, .ok (sealed P s pt)) := by
  obtain ⟨ck, h, k, n⟩ := s
  cases k with
  | none => rfl
  | some k => rfl

@[simp] theorem decryptAndHash_run (s : NoiseState) (ct : Bytes) :
    (decryptAndHash P ct : Co ρ _ _ _).run r s =
      match opened P s ct with
      | none => (s, .error .library)
      | some pt => (absorb P ct s, .ok pt) := by
  obtain ⟨ck, h, k, n⟩ := s
  cases k with
  | none => rfl
  | some k =>
      have hopen : opened P ⟨ck, h, some k, n⟩ ct = P.aesGcmOpen k (nonceBytes n) h ct := rfl
      unfold decryptAndHash
      simp only [Co.run_bind, Co.run_get, Co.run_await, aesGcmDecrypt, Co.run_suspend,
        Co.run_orThrow, hopen]
      cases P.aesGcmOpen k (nonceBytes n) h ct with
      | none => rfl
      | some pt => rfl

namespace NoiseXxHandshake

variable (hs : NoiseXxHandshake) (draws : NoiseDraws) (payload message : Bytes)

@[simp] theorem onState_run {α : Type} (m : Co ρ NoiseState JsError α) :
    (onState m).run r hs = (setState (m.run r hs.state).1 hs, (m.run r hs.state).2) := by
  have hget : ∀ (s : NoiseState) (t : NoiseXxHandshake), (setState s t).state = s :=
    fun _ _ => rfl
  have hput : ∀ (s s' : NoiseState) (t : NoiseXxHandshake),
      setState s (setState s' t) = setState s t :=
    fun _ _ _ => rfl
  exact Co.run_zoom hget hput r m hs

def absorbState (P : Primitives) (ciphertext : Bytes) (hs : NoiseXxHandshake) :
    NoiseXxHandshake :=
  setState (absorb P ciphertext hs.state) hs

/-- Encrypting on the handshake object. -/
theorem encrypt_run (pt : Bytes) :
    (onState (encryptAndHash P pt : Co ρ _ _ _)).run r hs =
      (absorbState P (sealed P hs.state pt) hs, .ok (sealed P hs.state pt)) := by
  rw [onState_run, encryptAndHash_run]
  rfl

/-- Decrypting on the handshake object. -/
theorem decrypt_run (ct : Bytes) :
    (onState (decryptAndHash P ct : Co ρ _ _ _)).run r hs =
      match opened P hs.state ct with
      | none => (hs, .error .library)
      | some pt => (absorbState P ct hs, .ok pt) := by
  rw [onState_run, decryptAndHash_run]
  cases opened P hs.state ct with
  | none => rfl
  | some pt => rfl

/-! ### The static keys -/

/-- Both public keys of the identity, or the exception of the one that fails. -/
def staticKeys (identity : DeviceIdentityProvider) : Except JsError Bytes :=
  match identity.getPublicKey with
  | .error e => .error e
  | .ok sPub =>
      match identity.getX25519PublicKey with
      | .error e => .error e
      | .ok sX25519Pub => .ok (sPub ++ sX25519Pub)

theorem staticPayload_run :
    (staticPayload : Co ρ _ _ _).run r hs = (hs, staticKeys hs.identity) := by
  unfold staticPayload staticKeys
  simp only [Co.run_bind, Co.run_get, Co.run_await, Co.run_ofExcept]
  cases hs.identity.getPublicKey with
  | error e => rfl
  | ok a =>
      cases hs.identity.getX25519PublicKey with
      | error e => rfl
      | ok b => rfl

theorem staticDh_run (rePublic : Bytes) :
    (staticDh P rePublic : Co ρ _ _ _).run r hs =
      match hs.identity.dhX25519 (hs.rePublic.getD rePublic) with
      | .error e => (hs, .error e)
      | .ok dh => (mixKeyState P dh hs, .ok ()) := by
  unfold staticDh
  simp only [Co.run_bind, Co.run_get, Co.run_await, Co.run_ofExcept]
  cases hs.identity.dhX25519 (hs.rePublic.getD rePublic) with
  | error e => rfl
  | ok dh => rfl

/-- The object once the remote static keys are decrypted. -/
def learnStatic (P : Primitives) (sCt sPayload : Bytes) (hs : NoiseXxHandshake) :
    NoiseXxHandshake :=
  { absorbState P sCt hs with
    rsPublic := some (sPayload.take 32)
    rsX25519Public := some ((sPayload.drop 32).take 32) }

theorem readStatic_run (eSecret sCt : Bytes) :
    (readStatic P eSecret sCt : Co ρ _ _ _).run r hs =
      match opened P hs.state sCt with
      | none => (hs, .error .library)
      | some sPayload =>
          match getSharedSecret P (hs.eSecret.getD eSecret) ((sPayload.drop 32).take 32) with
          | .error e => (learnStatic P sCt sPayload hs, .error e)
          | .ok dh => (mixKeyState P dh (learnStatic P sCt sPayload hs), .ok ()) := by
  unfold readStatic
  simp only [Co.run_bind, Co.run_await, decrypt_run]
  cases opened P hs.state sCt with
  | none => rfl
  | some sPayload =>
      simp only [Co.run_modify, Co.run_get, Co.run_ofExcept, absorbState, setState]
      cases getSharedSecret P (hs.eSecret.getD eSecret) ((sPayload.drop 32).take 32) with
      | error e => rfl
      | ok dh => rfl

/-! ### The messages -/

theorem writeMsg1_run :
    (writeMsg1 P draws payload : Co ρ _ _ _).run r hs =
      let hs₁ := generateEphemeral P draws hs
      match generateMlkemKeypair P draws.mlkemSeed with
      | .error e => (hs₁, .error e)
      | .ok keypair =>
          let hs₂ := { hs₁ with mlkemKeypair := some keypair }
          let ct := sealed P hs₂.state (keypair.publicKey ++ payload)
          ({ absorbState P ct hs₂ with msgIdx := 1 },
            .ok (P.x25519PublicKey draws.eSecret ++ ct)) := by
  unfold writeMsg1
  simp only [Co.run_bind, Co.run_modify, Co.run_ofExcept]
  cases generateMlkemKeypair P draws.mlkemSeed with
  | error e => rfl
  | ok keypair =>
      simp only [Co.run_await, encrypt_run]
      rfl

theorem readMsg1_run :
    (readMsg1 P draws message : Co ρ _ _ _).run r hs =
      if message.length < 32 + MLKEM_PUBLIC_KEY_BYTES then (hs, .error (.error "msg-1: too short"))
      else
        let hs₁ := learnEphemeral P (message.take 32) hs
        match opened P hs₁.state (message.drop 32) with
        | none => (hs₁, .error .library)
        | some payload =>
            let hs₂ := absorbState P (message.drop 32) hs₁
            match encapsulate P (payload.take MLKEM_PUBLIC_KEY_BYTES) draws.mlkemCoins with
            | .error e => (hs₂, .error e)
            | .ok (ciphertext, sharedSecret) =>
                ({ hs₂ with
                    mlkemKeypair := some ⟨ciphertext, []⟩
                    mlkemSharedSecret := some sharedSecret
                    msgIdx := 1 },
                  .ok (payload.drop MLKEM_PUBLIC_KEY_BYTES)) := by
  unfold readMsg1
  rw [Co.run_ite]
  split
  · rfl
  · simp only [Co.run_bind, Co.run_modify, Co.run_await, decrypt_run]
    cases opened P (learnEphemeral P (message.take 32) hs).state (message.drop 32) with
    | none => rfl
    | some payload =>
        simp only [Co.run_ofExcept]
        cases encapsulate P (payload.take MLKEM_PUBLIC_KEY_BYTES) draws.mlkemCoins with
        | error e => rfl
        | ok p => rfl

theorem writeMsg2_run {rePublic mlkemSharedSecret : Bytes} {keypair : MlkemKeypair}
    (hre : hs.rePublic = some rePublic) (hkp : hs.mlkemKeypair = some keypair)
    (hss : hs.mlkemSharedSecret = some mlkemSharedSecret) :
    (writeMsg2 P draws payload : Co ρ _ _ _).run r hs =
      let hs₁ := generateEphemeral P draws hs
      match getSharedSecret P draws.eSecret rePublic with
      | .error e => (hs₁, .error e)
      | .ok ee =>
          let hs₂ := mixKeyState P ee hs₁
          match staticKeys hs.identity with
          | .error e => (hs₂, .error e)
          | .ok sPayload =>
              let sCt := sealed P hs₂.state sPayload
              let hs₃ := absorbState P sCt hs₂
              match hs.identity.dhX25519 rePublic with
              | .error e => (hs₃, .error e)
              | .ok dh =>
                  let hs₄ := mixKeyState P dh hs₃
                  let ct := sealed P hs₄.state (keypair.publicKey ++ payload)
                  ({ absorbState P ct hs₄ with msgIdx := 2 },
                    .ok (P.x25519PublicKey draws.eSecret ++ sCt ++ ct)) := by
  unfold writeMsg2
  simp only [Co.run_bind, Co.run_get, hre, hkp, hss, Co.run_orThrow, Co.run_modify,
    Co.run_ofExcept]
  cases getSharedSecret P draws.eSecret rePublic with
  | error e => rfl
  | ok ee =>
      simp only [staticPayload_run]
      have hid : (mixKeyState P ee (generateEphemeral P draws hs)).identity = hs.identity := rfl
      rw [hid]
      cases staticKeys hs.identity with
      | error e => rfl
      | ok sPayload =>
          simp only [Co.run_await, encrypt_run, staticDh_run]
          have hre₃ : ∀ ct, (absorbState P ct
              (mixKeyState P ee (generateEphemeral P draws hs))).rePublic = some rePublic :=
            fun _ => hre
          have hid₃ : ∀ ct, (absorbState P ct
              (mixKeyState P ee (generateEphemeral P draws hs))).identity = hs.identity :=
            fun _ => rfl
          rw [hre₃, hid₃, Option.getD_some]
          cases hs.identity.dhX25519 rePublic with
          | error e => rfl
          | ok dh =>
              have hkp₄ : ∀ ct, (mixKeyState P dh (absorbState P ct
                  (mixKeyState P ee (generateEphemeral P draws hs)))).mlkemKeypair =
                    some keypair :=
                fun _ => hkp
              simp only [hkp₄, Option.getD_some]
              rfl

theorem readMsg2_run {eSecret : Bytes} {keypair : MlkemKeypair}
    (he : hs.eSecret = some eSecret) (hkp : hs.mlkemKeypair = some keypair) :
    (readMsg2 P message : Co ρ _ _ _).run r hs =
      let rePublic := message.take 32
      let hs₁ := learnEphemeral P rePublic hs
      match getSharedSecret P eSecret rePublic with
      | .error e => (hs₁, .error e)
      | .ok ee =>
          let hs₂ := mixKeyState P ee hs₁
          let sCt := (message.drop 32).take S_CT_BYTES
          match opened P hs₂.state sCt with
          | none => (hs₂, .error .library)
          | some sPayload =>
              let hs₃ := learnStatic P sCt sPayload hs₂
              match getSharedSecret P eSecret ((sPayload.drop 32).take 32) with
              | .error e => (hs₃, .error e)
              | .ok es =>
                  let hs₄ := mixKeyState P es hs₃
                  let rest := message.drop (32 + S_CT_BYTES)
                  match opened P hs₄.state rest with
                  | none => (hs₄, .error .library)
                  | some payload =>
                      let hs₅ := absorbState P rest hs₄
                      match decapsulate P keypair.secretKey
                          (payload.take MLKEM_CIPHERTEXT_BYTES) with
                      | .error e => (hs₅, .error e)
                      | .ok mlkemSharedSecret =>
                          (learnSharedSecret mlkemSharedSecret hs₅,
                            .ok (payload.drop MLKEM_CIPHERTEXT_BYTES)) := by
  unfold readMsg2
  simp only [Co.run_bind, Co.run_get, he, hkp, Co.run_orThrow, Co.run_modify, Co.run_ofExcept]
  cases getSharedSecret P eSecret (message.take 32) with
  | error e => rfl
  | ok ee =>
      simp only [readStatic_run]
      have he₂ : (mixKeyState P ee (learnEphemeral P (message.take 32) hs)).eSecret =
          some eSecret :=
        he
      rw [he₂, Option.getD_some]
      cases opened P (mixKeyState P ee (learnEphemeral P (message.take 32) hs)).state
          ((message.drop 32).take S_CT_BYTES) with
      | none => rfl
      | some sPayload =>
          dsimp only
          cases getSharedSecret P eSecret ((sPayload.drop 32).take 32) with
          | error e => rfl
          | ok es =>
              simp only [Co.run_await, decrypt_run]
              have hkp₅ : ∀ ct, (absorbState P ct (mixKeyState P es (learnStatic P
                  ((message.drop 32).take S_CT_BYTES) sPayload (mixKeyState P ee
                    (learnEphemeral P (message.take 32) hs))))).mlkemKeypair = some keypair :=
                fun _ => hkp
              cases opened P (mixKeyState P es (learnStatic P ((message.drop 32).take S_CT_BYTES)
                  sPayload (mixKeyState P ee (learnEphemeral P (message.take 32) hs)))).state
                    (message.drop (32 + S_CT_BYTES)) with
              | none => rfl
              | some payload =>
                  simp only [hkp₅, Option.getD_some]
                  cases decapsulate P keypair.secretKey (payload.take MLKEM_CIPHERTEXT_BYTES) with
                  | error e => rfl
                  | ok ss => rfl

theorem writeMsg3_run {eSecret rePublic : Bytes} (he : hs.eSecret = some eSecret)
    (hre : hs.rePublic = some rePublic) :
    (writeMsg3 P payload : Co ρ _ _ _).run r hs =
      match staticKeys hs.identity with
      | .error e => (hs, .error e)
      | .ok sPayload =>
          let sCt := sealed P hs.state sPayload
          let hs₁ := absorbState P sCt hs
          match hs.identity.dhX25519 rePublic with
          | .error e => (hs₁, .error e)
          | .ok dh =>
              let hs₂ := mixKeyState P dh hs₁
              let ct := sealed P hs₂.state payload
              ({ absorbState P ct hs₂ with msgIdx := 3 }, .ok (sCt ++ ct)) := by
  unfold writeMsg3
  simp only [Co.run_bind, Co.run_get, he, hre, Co.run_orThrow, staticPayload_run]
  cases staticKeys hs.identity with
  | error e => rfl
  | ok sPayload =>
      simp only [Co.run_await, encrypt_run, staticDh_run]
      have hre₁ : ∀ ct, (absorbState P ct hs).rePublic = some rePublic := fun _ => hre
      have hid₁ : ∀ ct, (absorbState P ct hs).identity = hs.identity := fun _ => rfl
      rw [hre₁, hid₁, Option.getD_some]
      cases hs.identity.dhX25519 rePublic with
      | error e => rfl
      | ok dh => rfl

theorem readMsg3_run {eSecret : Bytes} (he : hs.eSecret = some eSecret) :
    (readMsg3 P message : Co ρ _ _ _).run r hs =
      let sCt := message.take S_CT_BYTES
      match opened P hs.state sCt with
      | none => (hs, .error .library)
      | some sPayload =>
          let hs₁ := learnStatic P sCt sPayload hs
          match getSharedSecret P eSecret ((sPayload.drop 32).take 32) with
          | .error e => (hs₁, .error e)
          | .ok se =>
              let hs₂ := mixKeyState P se hs₁
              let rest := message.drop S_CT_BYTES
              match opened P hs₂.state rest with
              | none => (hs₂, .error .library)
              | some payload => ({ absorbState P rest hs₂ with msgIdx := 3 }, .ok payload) := by
  unfold readMsg3
  simp only [Co.run_bind, Co.run_get, he, Co.run_orThrow, readStatic_run, Option.getD_some]
  cases opened P hs.state (message.take S_CT_BYTES) with
  | none => rfl
  | some sPayload =>
      dsimp only
      cases getSharedSecret P eSecret ((sPayload.drop 32).take 32) with
      | error e => rfl
      | ok se =>
          simp only [Co.run_await, decrypt_run]
          cases opened P (mixKeyState P se
              (learnStatic P (message.take S_CT_BYTES) sPayload hs)).state
                (message.drop S_CT_BYTES) with
          | none => rfl
          | some payload => rfl

/-! ### The entry points -/

theorem writeMessage_run :
    (writeMessage P draws payload : Co ρ _ _ _).run r hs =
      if payload.length > MAX_HANDSHAKE_MSG_BYTES then
        (hs, .error (.error "handshake payload too large"))
      else (writeTurn P draws payload hs).run r hs := by
  unfold writeMessage
  rw [Co.run_bind_ok (Co.run_get r hs), Co.run_ite]
  rfl

theorem readMessage_run :
    (readMessage P draws message : Co ρ _ _ _).run r hs =
      if message.length > MAX_HANDSHAKE_MSG_BYTES + 256 then
        (hs, .error (.error "handshake message too large"))
      else (readTurn P draws message hs).run r hs := by
  unfold readMessage
  rw [Co.run_bind_ok (Co.run_get r hs), Co.run_ite]
  rfl

end NoiseXxHandshake

end Oxpulse.Crypto
