import Oxpulse.Crypto.NoiseSteps

/-!
# Two honest sides agree

An initiator and a responder that read exactly what the other one wrote. Each
message takes the pair from one agreement to the next: `AfterMsg1`, `AfterMsg2`
and `AfterMsg3` say what the two objects share and what each of them has learned,
and one lemma per message moves between them.

The writer bounds its payload and the reader the whole message. The bounds agree
for msg-3 only: what is written for msg-1 and msg-2 is admitted up to a payload of
540 bytes (`written_is_read_iff`).
-/

namespace Oxpulse.Crypto

open Oxpulse.Coroutine

variable {P : Primitives}

/-! ## The symmetric state -/

theorem mixKey_k_isSome (ikm : Bytes) (s : NoiseState) : (mixKey P ikm s).k.isSome := rfl

theorem sealed_length (hgcm : AesGcmLaws P) {s : NoiseState} (h : s.k.isSome) (pt : Bytes) :
    (sealed P s pt).length = pt.length + 16 := by
  unfold sealed
  cases hk : s.k with
  | none =>
      rw [hk] at h
      cases h
  | some k => exact hgcm.seal_length _ _ _ _

/-- Diffie-Hellman of two generated keys gives both sides one secret. -/
theorem getSharedSecret_commutes (hdh : X25519Laws P) {a b : Bytes} (ha : a.length = 32)
    (hb : b.length = 32) :
    ∃ ss, getSharedSecret P a (P.x25519PublicKey b) = .ok ss ∧
      getSharedSecret P b (P.x25519PublicKey a) = .ok ss := by
  obtain ⟨ss, hab, hba⟩ := hdh.commutes a b ha hb
  exact ⟨ss, by rw [getSharedSecret, hab], by rw [getSharedSecret, hba]⟩

section Identity

variable {identity : DeviceIdentityProvider} {edPublic xSecret : Bytes}

theorem IdentityLaws.staticKeys (h : IdentityLaws P identity edPublic xSecret) :
    NoiseXxHandshake.staticKeys identity = .ok (edPublic ++ P.x25519PublicKey xSecret) := by
  rw [NoiseXxHandshake.staticKeys, h.publicKey, h.x25519PublicKey]

/-- The reader cuts the static payload where the writer joined it. -/
theorem IdentityLaws.cut (h : IdentityLaws P identity edPublic xSecret) (hdh : X25519Laws P) :
    (edPublic ++ P.x25519PublicKey xSecret).length = 64 ∧
    (edPublic ++ P.x25519PublicKey xSecret).take 32 = edPublic ∧
    ((edPublic ++ P.x25519PublicKey xSecret).drop 32).take 32 = P.x25519PublicKey xSecret := by
  have hed := h.publicKey_length
  have hx := hdh.publicKey_length xSecret
  refine ⟨?_, ?_, ?_⟩
  · rw [List.length_append, hed, hx]
  · rw [← hed, List.take_left]
  · rw [← hed, List.drop_left, hed, ← hx, List.take_length]

end Identity

theorem generateMlkemKeypair_ok (hkem : MlKemLaws P) (seed : Bytes) :
    generateMlkemKeypair P seed = .ok ⟨(P.mlkemKeygen seed).1, (P.mlkemKeygen seed).2⟩ := by
  simp only [generateMlkemKeypair, MLKEM_PUBLIC_KEY_BYTES, hkem.publicKey_length, ne_eq,
    not_true_eq_false, if_false]

/-- What the responder encapsulates the initiator decapsulates. -/
theorem encapsulate_ok (hkem : MlKemLaws P) (seed coins : Bytes) :
    ∃ ct ss, encapsulate P (P.mlkemKeygen seed).1 coins = .ok (ct, ss) ∧
      ct.length = MLKEM_CIPHERTEXT_BYTES ∧
      decapsulate P (P.mlkemKeygen seed).2 ct = .ok ss := by
  obtain ⟨ct, ss, henc, hct, hss, hdec⟩ := hkem.encapsulate seed coins
  refine ⟨ct, ss, ?_, hct, ?_⟩
  · simp only [encapsulate, MLKEM_PUBLIC_KEY_BYTES, MLKEM_CIPHERTEXT_BYTES,
      MLKEM_SHARED_SECRET_BYTES, hkem.publicKey_length, henc, hct, hss, ne_eq, not_true_eq_false,
      if_false]
  · simp only [decapsulate, MLKEM_CIPHERTEXT_BYTES, MLKEM_SHARED_SECRET_BYTES, hdec, hct, hss,
      ne_eq, not_true_eq_false, if_false]

/-! ## The three messages -/

namespace NoiseXxHandshake

/-- What the two objects agree on once msg-1 was read. -/
structure AfterMsg1 (eInitiator kemSeed ciphertext sharedSecret : Bytes) (P : Primitives)
    (idI idR : DeviceIdentityProvider) (i r : NoiseXxHandshake) : Prop where
  state : i.state = r.state
  initiator : i.role = .initiator ∧ i.msgIdx = 1 ∧ i.identity = idI
  responder : r.role = .responder ∧ r.msgIdx = 1 ∧ r.identity = idR
  ephemeral : i.eSecret = some eInitiator ∧ r.rePublic = some (P.x25519PublicKey eInitiator)
  kem : i.mlkemKeypair = some ⟨(P.mlkemKeygen kemSeed).1, (P.mlkemKeygen kemSeed).2⟩ ∧
    r.mlkemKeypair = some ⟨ciphertext, []⟩ ∧ r.mlkemSharedSecret = some sharedSecret

/-- What the two objects agree on once msg-2 was read. -/
structure AfterMsg2 (eInitiator eResponder sharedSecret edR : Bytes) (P : Primitives)
    (idI : DeviceIdentityProvider) (i r : NoiseXxHandshake) : Prop where
  state : i.state = r.state
  keyed : i.state.k.isSome
  initiator : i.role = .initiator ∧ i.msgIdx = 2 ∧ i.identity = idI
  responder : r.role = .responder ∧ r.msgIdx = 2
  ephemeral : i.eSecret = some eInitiator ∧ i.rePublic = some (P.x25519PublicKey eResponder) ∧
    r.eSecret = some eResponder
  kem : i.mlkemSharedSecret = some sharedSecret ∧ r.mlkemSharedSecret = some sharedSecret
  peer : i.rsPublic = some edR

/-- What the two objects agree on once msg-3 was read. -/
structure AfterMsg3 (sharedSecret edI edR : Bytes) (i r : NoiseXxHandshake) : Prop where
  state : i.state = r.state
  initiator : i.role = .initiator ∧ i.msgIdx = 3
  responder : r.role = .responder ∧ r.msgIdx = 3
  kem : i.mlkemSharedSecret = some sharedSecret ∧ r.mlkemSharedSecret = some sharedSecret
  peers : i.rsPublic = some edR ∧ r.rsPublic = some edI

variable {idI idR : DeviceIdentityProvider} {i r : NoiseXxHandshake}

/-- **msg-1** between two fresh objects, if the reader admits its length. -/
theorem msg1_agrees (hdh : X25519Laws P) (hkem : MlKemLaws P) (dI dR : NoiseDraws)
    {payload : Bytes} (hp : payload.length ≤ MAX_HANDSHAKE_MSG_BYTES) :
    ∃ i₁ m,
      (writeMessage P dI payload : Co Unit _ _ _).run () (new P .initiator idI) = (i₁, .ok m) ∧
      m.length = 32 + MLKEM_PUBLIC_KEY_BYTES + payload.length ∧
      (m.length ≤ MAX_HANDSHAKE_MSG_BYTES + 256 → ∃ r₁ ciphertext sharedSecret,
        (readMessage P dR m : Co Unit _ _ _).run () (new P .responder idR) = (r₁, .ok payload) ∧
        ciphertext.length = MLKEM_CIPHERTEXT_BYTES ∧
        decapsulate P (P.mlkemKeygen dI.mlkemSeed).2 ciphertext = .ok sharedSecret ∧
        AfterMsg1 dI.eSecret dI.mlkemSeed ciphertext sharedSecret P idI idR i₁ r₁) := by
  obtain ⟨ciphertext, sharedSecret, henc, hct, hdec⟩ :=
    encapsulate_ok hkem dI.mlkemSeed dR.mlkemCoins
  have hpub : (P.x25519PublicKey dI.eSecret).length = 32 := hdh.publicKey_length _
  have hkpub : (P.mlkemKeygen dI.mlkemSeed).1.length = 1184 := hkem.publicKey_length _
  -- no cipher key yet: the payload travels in the clear
  have hwrite : (writeMessage P dI payload : Co Unit _ _ _).run () (new P .initiator idI) =
      ({ absorbState P ((P.mlkemKeygen dI.mlkemSeed).1 ++ payload)
          { generateEphemeral P dI (new P .initiator idI) with
            mlkemKeypair := some ⟨(P.mlkemKeygen dI.mlkemSeed).1,
              (P.mlkemKeygen dI.mlkemSeed).2⟩ } with msgIdx := 1 },
        .ok (P.x25519PublicKey dI.eSecret ++ ((P.mlkemKeygen dI.mlkemSeed).1 ++ payload))) := by
    rw [writeMessage_run, if_neg (Nat.not_lt.mpr hp)]
    change (writeMsg1 P dI payload).run () _ = _
    rw [writeMsg1_run, generateMlkemKeypair_ok hkem]
    rfl
  have hlen : (P.x25519PublicKey dI.eSecret ++
      ((P.mlkemKeygen dI.mlkemSeed).1 ++ payload)).length =
        32 + MLKEM_PUBLIC_KEY_BYTES + payload.length := by
    rw [List.length_append, List.length_append, hpub, hkpub, Nat.add_assoc]
    rfl
  refine ⟨_, _, hwrite, hlen, fun hfits => ?_⟩
  have hread : (readMessage P dR (P.x25519PublicKey dI.eSecret ++
        ((P.mlkemKeygen dI.mlkemSeed).1 ++ payload)) : Co Unit _ _ _).run ()
          (new P .responder idR) =
      ({ absorbState P ((P.mlkemKeygen dI.mlkemSeed).1 ++ payload)
          (learnEphemeral P (P.x25519PublicKey dI.eSecret) (new P .responder idR)) with
            mlkemKeypair := some ⟨ciphertext, []⟩
            mlkemSharedSecret := some sharedSecret
            msgIdx := 1 }, .ok payload) := by
    rw [readMessage_run, if_neg (Nat.not_lt.mpr hfits)]
    change (readMsg1 P dR _).run () _ = _
    rw [readMsg1_run, if_neg (by rw [hlen]; omega)]
    have htake : (P.x25519PublicKey dI.eSecret ++
        ((P.mlkemKeygen dI.mlkemSeed).1 ++ payload)).take 32 = P.x25519PublicKey dI.eSecret :=
      List.take_left' hpub
    have hdrop : (P.x25519PublicKey dI.eSecret ++
        ((P.mlkemKeygen dI.mlkemSeed).1 ++ payload)).drop 32 =
          (P.mlkemKeygen dI.mlkemSeed).1 ++ payload :=
      List.drop_left' hpub
    have hopen : opened P (learnEphemeral P (P.x25519PublicKey dI.eSecret)
        (new P .responder idR)).state ((P.mlkemKeygen dI.mlkemSeed).1 ++ payload) =
          some ((P.mlkemKeygen dI.mlkemSeed).1 ++ payload) := rfl
    have hpk : ((P.mlkemKeygen dI.mlkemSeed).1 ++ payload).take MLKEM_PUBLIC_KEY_BYTES =
        (P.mlkemKeygen dI.mlkemSeed).1 :=
      List.take_left' hkpub
    have hrest : ((P.mlkemKeygen dI.mlkemSeed).1 ++ payload).drop MLKEM_PUBLIC_KEY_BYTES =
        payload :=
      List.drop_left' hkpub
    simp only [htake, hdrop, hopen, hpk, hrest, henc]
  refine ⟨_, ciphertext, sharedSecret, hread, hct, hdec, ?_⟩
  exact ⟨rfl, ⟨rfl, rfl, rfl⟩, ⟨rfl, rfl, rfl⟩, ⟨rfl, rfl⟩, ⟨rfl, rfl, rfl⟩⟩

/-- **msg-2** from the responder to the initiator, if the reader admits its length. -/
theorem msg2_agrees (hgcm : AesGcmLaws P) (hdh : X25519Laws P) {edR xR : Bytes}
    (hR : IdentityLaws P idR edR xR) {eI kemSeed ciphertext sharedSecret : Bytes}
    (heI : eI.length = 32) (hct : ciphertext.length = MLKEM_CIPHERTEXT_BYTES)
    (hdec : decapsulate P (P.mlkemKeygen kemSeed).2 ciphertext = .ok sharedSecret)
    (h : AfterMsg1 eI kemSeed ciphertext sharedSecret P idI idR i r) (dR dI : NoiseDraws)
    {payload : Bytes} (hp : payload.length ≤ MAX_HANDSHAKE_MSG_BYTES) :
    ∃ r₂ m,
      (writeMessage P dR payload : Co Unit _ _ _).run () r = (r₂, .ok m) ∧
      m.length = 32 + S_CT_BYTES + MLKEM_CIPHERTEXT_BYTES + payload.length + 16 ∧
      (m.length ≤ MAX_HANDSHAKE_MSG_BYTES + 256 → ∃ i₂,
        (readMessage P dI m : Co Unit _ _ _).run () i = (i₂, .ok payload) ∧
        AfterMsg2 eI dR.eSecret sharedSecret edR P idI i₂ r₂) := by
  obtain ⟨hstate, ⟨hiRole, hiIdx, hiId⟩, ⟨hrRole, hrIdx, hrId⟩, ⟨hie, hre⟩, hik, hrk, hrss⟩ := h
  obtain ⟨ee, hee, hee'⟩ := getSharedSecret_commutes hdh dR.eSecret_length heI
  obtain ⟨es, hes, hes'⟩ := getSharedSecret_commutes hdh hR.xSecret_length heI
  obtain ⟨hsLen, hsEd, hsX⟩ := hR.cut hdh
  have hpub : (P.x25519PublicKey dR.eSecret).length = 32 := hdh.publicKey_length _
  simp only [MLKEM_CIPHERTEXT_BYTES] at hct
  -- the symmetric states both sides go through
  let s₁ := mixKey P ee (mixHash P (P.x25519PublicKey dR.eSecret) r.state)
  let sCt := sealed P s₁ (edR ++ P.x25519PublicKey xR)
  let s₂ := mixKey P es (absorb P sCt s₁)
  let ct := sealed P s₂ (ciphertext ++ payload)
  have hsCt : sCt.length = 80 := by
    rw [sealed_length hgcm (mixKey_k_isSome _ _), hsLen]
  have hctLen : ct.length = 1088 + payload.length + 16 := by
    rw [sealed_length hgcm (mixKey_k_isSome _ _), List.length_append, hct]
  have hwrite : (writeMessage P dR payload : Co Unit _ _ _).run () r =
      ({ absorbState P ct (mixKeyState P es (absorbState P sCt
          (mixKeyState P ee (generateEphemeral P dR r)))) with msgIdx := 2 },
        .ok (P.x25519PublicKey dR.eSecret ++ sCt ++ ct)) := by
    rw [writeMessage_run, if_neg (Nat.not_lt.mpr hp), writeTurn, hrRole, hrIdx]
    change (writeMsg2 P dR payload).run () r = _
    rw [writeMsg2_run r dR payload hre hrk hrss, hrId, hR.staticKeys, hR.dhX25519, hee, hes]
    rfl
  have hlen : (P.x25519PublicKey dR.eSecret ++ sCt ++ ct).length =
      32 + S_CT_BYTES + MLKEM_CIPHERTEXT_BYTES + payload.length + 16 := by
    simp only [S_CT_BYTES, MLKEM_CIPHERTEXT_BYTES]
    rw [List.length_append, List.length_append, hpub, hsCt, hctLen]
    omega
  refine ⟨_, _, hwrite, hlen, fun hfits => ?_⟩
  have hread : (readMessage P dI (P.x25519PublicKey dR.eSecret ++ sCt ++ ct) :
      Co Unit _ _ _).run () i =
      (learnSharedSecret sharedSecret (absorbState P ct (mixKeyState P es
        (learnStatic P sCt (edR ++ P.x25519PublicKey xR) (mixKeyState P ee
          (learnEphemeral P (P.x25519PublicKey dR.eSecret) i))))), .ok payload) := by
    have htake : (P.x25519PublicKey dR.eSecret ++ sCt ++ ct).take 32 =
        P.x25519PublicKey dR.eSecret := by
      rw [List.append_assoc, List.take_left' hpub]
    have hmid : ((P.x25519PublicKey dR.eSecret ++ sCt ++ ct).drop 32).take S_CT_BYTES = sCt := by
      rw [List.append_assoc, List.drop_left' hpub]
      exact List.take_left' hsCt
    have hrest : (P.x25519PublicKey dR.eSecret ++ sCt ++ ct).drop (32 + S_CT_BYTES) = ct := by
      rw [← List.drop_drop, List.append_assoc, List.drop_left' hpub]
      exact List.drop_left' hsCt
    have hopen₁ : opened P (mixKeyState P ee
        (learnEphemeral P (P.x25519PublicKey dR.eSecret) i)).state sCt =
          some (edR ++ P.x25519PublicKey xR) := by
      have hs₁ : (mixKeyState P ee
          (learnEphemeral P (P.x25519PublicKey dR.eSecret) i)).state = s₁ := by
        show mixKey P ee (mixHash P _ i.state) = s₁
        rw [hstate]
      rw [hs₁]
      exact opened_sealed hgcm _ _
    have hopen₂ : opened P (mixKeyState P es (learnStatic P sCt (edR ++ P.x25519PublicKey xR)
        (mixKeyState P ee (learnEphemeral P (P.x25519PublicKey dR.eSecret) i)))).state ct =
          some (ciphertext ++ payload) := by
      have hs₂ : (mixKeyState P es (learnStatic P sCt (edR ++ P.x25519PublicKey xR)
          (mixKeyState P ee (learnEphemeral P (P.x25519PublicKey dR.eSecret) i)))).state = s₂ := by
        show mixKey P es (absorb P sCt (mixKey P ee (mixHash P _ i.state))) = s₂
        rw [hstate]
      rw [hs₂]
      exact opened_sealed hgcm _ _
    have hkct : (ciphertext ++ payload).take MLKEM_CIPHERTEXT_BYTES = ciphertext :=
      List.take_left' hct
    have hpay : (ciphertext ++ payload).drop MLKEM_CIPHERTEXT_BYTES = payload :=
      List.drop_left' hct
    rw [readMessage_run, if_neg (Nat.not_lt.mpr hfits), readTurn, hiRole, hiIdx]
    change (readMsg2 P _).run () i = _
    rw [readMsg2_run i _ hie hik]
    simp only [htake, hmid, hrest, hee', hopen₁, hsX, hes', hopen₂, hkct, hdec, hpay]
  refine ⟨_, hread, ?_⟩
  refine ⟨?_, rfl, ⟨hiRole, rfl, hiId⟩, ⟨hrRole, rfl⟩, ⟨hie, rfl, rfl⟩, ⟨rfl, hrss⟩, ?_⟩
  · show absorb P ct (mixKey P es (absorb P sCt (mixKey P ee (mixHash P _ i.state)))) =
      absorb P ct (mixKey P es (absorb P sCt (mixKey P ee (mixHash P _ r.state))))
    rw [hstate]
  · show some ((edR ++ P.x25519PublicKey xR).take 32) = some edR
    rw [hsEd]

/-- **msg-3** from the initiator to the responder. -/
theorem msg3_agrees (hgcm : AesGcmLaws P) (hdh : X25519Laws P) {edI xI edR : Bytes}
    (hI : IdentityLaws P idI edI xI) {eI eR sharedSecret : Bytes} (heR : eR.length = 32)
    (h : AfterMsg2 eI eR sharedSecret edR P idI i r) (dI dR : NoiseDraws) {payload : Bytes}
    (hp : payload.length ≤ MAX_HANDSHAKE_MSG_BYTES) :
    ∃ i₃ m r₃,
      (writeMessage P dI payload : Co Unit _ _ _).run () i = (i₃, .ok m) ∧
      (readMessage P dR m : Co Unit _ _ _).run () r = (r₃, .ok payload) ∧
      AfterMsg3 sharedSecret edI edR i₃ r₃ := by
  obtain ⟨hstate, hkeyed, ⟨hiRole, hiIdx, hiId⟩, ⟨hrRole, hrIdx⟩, ⟨hie, hire, hre⟩,
    ⟨hiss, hrss⟩, hpeer⟩ := h
  obtain ⟨se, hse, hse'⟩ := getSharedSecret_commutes hdh hI.xSecret_length heR
  obtain ⟨hsLen, hsEd, hsX⟩ := hI.cut hdh
  let sCt := sealed P i.state (edI ++ P.x25519PublicKey xI)
  let s₁ := mixKey P se (absorb P sCt i.state)
  let ct := sealed P s₁ payload
  have hsCt : sCt.length = 80 := by
    rw [sealed_length hgcm hkeyed, hsLen]
  have hctLen : ct.length = payload.length + 16 :=
    sealed_length hgcm (mixKey_k_isSome _ _) _
  have hwrite : (writeMessage P dI payload : Co Unit _ _ _).run () i =
      ({ absorbState P ct (mixKeyState P se (absorbState P sCt i)) with msgIdx := 3 },
        .ok (sCt ++ ct)) := by
    rw [writeMessage_run, if_neg (Nat.not_lt.mpr hp), writeTurn, hiRole, hiIdx]
    change (writeMsg3 P payload).run () i = _
    rw [writeMsg3_run i payload hie hire, hiId, hI.staticKeys, hI.dhX25519, hse]
    rfl
  have hread : (readMessage P dR (sCt ++ ct) : Co Unit _ _ _).run () r =
      ({ absorbState P ct (mixKeyState P se
          (learnStatic P sCt (edI ++ P.x25519PublicKey xI) r)) with msgIdx := 3 },
        .ok payload) := by
    have hlen : (sCt ++ ct).length = 96 + payload.length := by
      rw [List.length_append, hsCt, hctLen]
      omega
    have htake : (sCt ++ ct).take S_CT_BYTES = sCt := List.take_left' hsCt
    have hrest : (sCt ++ ct).drop S_CT_BYTES = ct := List.drop_left' hsCt
    have hopen₁ : opened P r.state sCt = some (edI ++ P.x25519PublicKey xI) := by
      rw [← hstate]
      exact opened_sealed hgcm _ _
    have hopen₂ : opened P (mixKeyState P se
        (learnStatic P sCt (edI ++ P.x25519PublicKey xI) r)).state ct = some payload := by
      have hs₁ : (mixKeyState P se
          (learnStatic P sCt (edI ++ P.x25519PublicKey xI) r)).state = s₁ := by
        show mixKey P se (absorb P sCt r.state) = s₁
        rw [← hstate]
      rw [hs₁]
      exact opened_sealed hgcm _ _
    simp only [MAX_HANDSHAKE_MSG_BYTES] at hp
    rw [readMessage_run, if_neg (by rw [hlen]; simp only [MAX_HANDSHAKE_MSG_BYTES]; omega),
      readTurn, hrRole, hrIdx]
    change (readMsg3 P _).run () r = _
    rw [readMsg3_run r _ hre]
    simp only [htake, hrest, hopen₁, hsX, hse', hopen₂]
  refine ⟨_, _, _, hwrite, hread, ?_⟩
  refine ⟨?_, ⟨hiRole, rfl⟩, ⟨hrRole, rfl⟩, ⟨hiss, hrss⟩, ⟨hpeer, ?_⟩⟩
  · show absorb P ct (mixKey P se (absorb P sCt i.state)) =
      absorb P ct (mixKey P se (absorb P sCt r.state))
    rw [hstate]
  · show some ((edI ++ P.x25519PublicKey xI).take 32) = some edI
    rw [hsEd]

/-- Equal chaining keys, hashes and ML-KEM secrets split into crossed keys. -/
theorem split_agrees {sharedSecret edI edR : Bytes} (h : AfterMsg3 sharedSecret edI edR i r) :
    ∃ k1 k2, split P i = .ok ⟨k1, k2⟩ ∧ split P r = .ok ⟨k2, k1⟩ := by
  obtain ⟨hstate, ⟨hiRole, hiIdx⟩, ⟨hrRole, hrIdx⟩, ⟨hiss, hrss⟩, -⟩ := h
  let okm := P.hkdf (i.state.ck ++ sharedSecret) (some i.state.h) HKDF_INFO (CHAIN_KEY_BYTES * 2)
  refine ⟨okm.take CHAIN_KEY_BYTES, (okm.drop CHAIN_KEY_BYTES).take CHAIN_KEY_BYTES, ?_, ?_⟩
  · rw [split, hiIdx, hiss, hiRole]
    rfl
  · rw [split, hrIdx, hrss, hrRole, ← hstate]
    rfl

/-- **Honest agreement.** Between two honest sides every step succeeds, every
payload arrives, the symmetric states are equal after each message, and at the
end both sides are complete with crossed session keys, equal SAS and each
other's Ed25519 key. The bounds are the payload lengths whose messages both
size checks admit. -/
theorem honest_handshake_agrees (hgcm : AesGcmLaws P) (hdh : X25519Laws P) (hkem : MlKemLaws P)
    {edI xI edR xR : Bytes} (hI : IdentityLaws P idI edI xI) (hR : IdentityLaws P idR edR xR)
    (dI₁ dR₁ dR₂ dI₂ dI₃ dR₃ : NoiseDraws) (p₁ p₂ p₃ : Bytes)
    (hp₁ : 32 + MLKEM_PUBLIC_KEY_BYTES + p₁.length ≤ MAX_HANDSHAKE_MSG_BYTES + 256)
    (hp₂ : 32 + S_CT_BYTES + MLKEM_CIPHERTEXT_BYTES + p₂.length + 16 ≤
      MAX_HANDSHAKE_MSG_BYTES + 256)
    (hp₃ : p₃.length ≤ MAX_HANDSHAKE_MSG_BYTES) :
    ∃ i₁ m₁ r₁ r₂ m₂ i₂ i₃ m₃ r₃,
      (writeMessage P dI₁ p₁ : Co Unit _ _ _).run () (new P .initiator idI) = (i₁, .ok m₁) ∧
      (readMessage P dR₁ m₁ : Co Unit _ _ _).run () (new P .responder idR) = (r₁, .ok p₁) ∧
      i₁.state = r₁.state ∧
      (writeMessage P dR₂ p₂ : Co Unit _ _ _).run () r₁ = (r₂, .ok m₂) ∧
      (readMessage P dI₂ m₂ : Co Unit _ _ _).run () i₁ = (i₂, .ok p₂) ∧
      r₂.state = i₂.state ∧
      (writeMessage P dI₃ p₃ : Co Unit _ _ _).run () i₂ = (i₃, .ok m₃) ∧
      (readMessage P dR₃ m₃ : Co Unit _ _ _).run () r₂ = (r₃, .ok p₃) ∧
      i₃.state = r₃.state ∧
      i₃.isComplete = true ∧ r₃.isComplete = true ∧
      (∃ k1 k2, i₃.split P = .ok ⟨k1, k2⟩ ∧ r₃.split P = .ok ⟨k2, k1⟩) ∧
      i₃.sas = r₃.sas ∧
      i₃.peerStaticPublicKey = some edR ∧ r₃.peerStaticPublicKey = some edI := by
  simp only [MLKEM_PUBLIC_KEY_BYTES, S_CT_BYTES, MLKEM_CIPHERTEXT_BYTES,
    MAX_HANDSHAKE_MSG_BYTES] at hp₁ hp₂
  obtain ⟨i₁, m₁, hw₁, hlen₁, hfits₁⟩ :=
    @msg1_agrees P idI idR hdh hkem dI₁ dR₁ p₁ (by simp only [MAX_HANDSHAKE_MSG_BYTES]; omega)
  obtain ⟨r₁, ct, ss, hr₁, hct, hdec, h₁⟩ := hfits₁ (by rw [hlen₁]; exact hp₁)
  obtain ⟨r₂, m₂, hw₂, hlen₂, hfits₂⟩ :=
    @msg2_agrees _ _ _ _ _ hgcm hdh _ _ hR _ _ _ _ dI₁.eSecret_length hct hdec h₁ dR₂ dI₂ p₂
      (by simp only [MAX_HANDSHAKE_MSG_BYTES]; omega)
  obtain ⟨i₂, hr₂, h₂⟩ := hfits₂ (by rw [hlen₂]; exact hp₂)
  obtain ⟨i₃, m₃, r₃, hw₃, hr₃, h₃⟩ :=
    msg3_agrees hgcm hdh hI dR₂.eSecret_length h₂ dI₃ dR₃ hp₃
  refine ⟨i₁, m₁, r₁, r₂, m₂, i₂, i₃, m₃, r₃, hw₁, hr₁, h₁.state, hw₂, hr₂, h₂.state.symm,
    hw₃, hr₃, h₃.state, ?_, ?_, split_agrees h₃, ?_, h₃.peers.1, h₃.peers.2⟩
  · rw [isComplete, h₃.initiator.2]
    rfl
  · rw [isComplete, h₃.responder.2]
    rfl
  · rw [sas, sas, h₃.state]

/-- Two devices with in-memory keys, payloads in all three messages. -/
theorem sample_handshake_agrees :
    ∃ i r : NoiseXxHandshake, i.isComplete = true ∧ r.isComplete = true ∧
      (∃ k1 k2, i.split .sample = .ok ⟨k1, k2⟩ ∧ r.split .sample = .ok ⟨k2, k1⟩) ∧
      i.sas = r.sas ∧ i.peerStaticPublicKey = some (List.replicate 32 2) ∧
      r.peerStaticPublicKey = some (List.replicate 32 1) := by
  obtain ⟨-, -, -, -, -, -, i, -, r, -, -, -, -, -, -, -, -, -, h⟩ :=
    honest_handshake_agrees sample_aesGcmLaws sample_x25519Laws sample_mlKemLaws
      (DeviceIdentityProvider.ofKeys_laws .sample (List.length_replicate (n := 32) (a := 1))
        (List.length_replicate (n := 32) (a := 3)))
      (DeviceIdentityProvider.ofKeys_laws .sample (List.length_replicate (n := 32) (a := 2))
        (List.length_replicate (n := 32) (a := 4)))
      (.sample 5) (.sample 6) (.sample 7) (.sample 0) (.sample 0) (.sample 0)
      [1] [2, 3] [] (by decide) (by decide) (by decide)
  exact ⟨i, r, h⟩

/-! ## What is written and what is admitted -/

theorem fits_of_read {d : NoiseDraws} {m payload : Bytes} {r' : NoiseXxHandshake}
    (h : (readMessage P d m : Co Unit _ _ _).run () r = (r', .ok payload)) :
    m.length ≤ MAX_HANDSHAKE_MSG_BYTES + 256 := by
  by_contra hlong
  rw [readMessage_run, if_pos (Nat.not_le.mp hlong)] at h
  cases h

theorem fits_of_write {d : NoiseDraws} {m payload : Bytes} {i' : NoiseXxHandshake}
    (h : (writeMessage P d payload : Co Unit _ _ _).run () i = (i', .ok m)) :
    payload.length ≤ MAX_HANDSHAKE_MSG_BYTES := by
  by_contra hlong
  rw [writeMessage_run, if_pos (Nat.not_le.mp hlong)] at h
  cases h

/-- Two honest sides after so many messages, the one that writes next first: each
message was read as it was written. -/
inductive Exchanged (P : Primitives) (idI idR : DeviceIdentityProvider) :
    ℕ → NoiseXxHandshake → NoiseXxHandshake → Prop
  | start : Exchanged P idI idR 0 (new P .initiator idI) (new P .responder idR)
  | message {n w r w' r' dW dR payload m payload'} (h : Exchanged P idI idR n w r)
      (hwrite : (writeMessage P dW payload : Co Unit _ _ _).run () w = (w', .ok m))
      (hread : (readMessage P dR m : Co Unit _ _ _).run () r = (r', .ok payload')) :
      Exchanged P idI idR (n + 1) r' w'

section Exchanged

variable {w : NoiseXxHandshake} {n : ℕ} {edI xI edR xR : Bytes}

/-- What the two sides agree on at each turn. -/
def Agreed (P : Primitives) (idI idR : DeviceIdentityProvider) (edR : Bytes) :
    ℕ → NoiseXxHandshake → NoiseXxHandshake → Prop
  | 0, w, r => w = new P .initiator idI ∧ r = new P .responder idR
  | 1, w, r => ∃ eI kemSeed ciphertext sharedSecret, eI.length = 32 ∧
      ciphertext.length = MLKEM_CIPHERTEXT_BYTES ∧
      decapsulate P (P.mlkemKeygen kemSeed).2 ciphertext = .ok sharedSecret ∧
      AfterMsg1 eI kemSeed ciphertext sharedSecret P idI idR r w
  | 2, w, r => ∃ eI eR sharedSecret, eR.length = 32 ∧
      AfterMsg2 eI eR sharedSecret edR P idI w r
  | _, _, _ => True

theorem Exchanged.agreed (hgcm : AesGcmLaws P) (hdh : X25519Laws P) (hkem : MlKemLaws P)
    (hR : IdentityLaws P idR edR xR) (h : Exchanged P idI idR n w r) :
    Agreed P idI idR edR n w r := by
  induction h with
  | start => exact ⟨rfl, rfl⟩
  | @message n w r w' r' dW dR payload m payload' _ hwrite hread ih =>
      have hp := fits_of_write hwrite
      have hm := fits_of_read hread
      match n, ih with
      | 0, ih =>
          obtain ⟨rfl, rfl⟩ := ih
          obtain ⟨i₁, m₁, hw₁, -, hfits⟩ := @msg1_agrees P idI idR hdh hkem dW dR payload hp
          rw [hw₁] at hwrite
          cases hwrite
          obtain ⟨r₁, ciphertext, sharedSecret, hr₁, hct, hdec, hafter⟩ := hfits hm
          rw [hr₁] at hread
          cases hread
          exact ⟨_, _, ciphertext, sharedSecret, dW.eSecret_length, hct, hdec, hafter⟩
      | 1, ih =>
          obtain ⟨eI, kemSeed, ciphertext, sharedSecret, heI, hct, hdec, hafter⟩ := ih
          obtain ⟨r₂, m₂, hw₂, -, hfits⟩ := msg2_agrees hgcm hdh hR heI hct hdec hafter dW dR hp
          rw [hw₂] at hwrite
          cases hwrite
          obtain ⟨i₂, hr₂, hafter₂⟩ := hfits hm
          rw [hr₂] at hread
          cases hread
          exact ⟨eI, dW.eSecret, sharedSecret, dW.eSecret_length, hafter₂⟩
      | n + 2, _ => trivial

/-- **An honest peer reads what was written** if and only if the message is msg-3
or the payload has at most 540 bytes. Every payload that passes the writer's check
is written. -/
theorem written_is_read_iff (hgcm : AesGcmLaws P) (hdh : X25519Laws P) (hkem : MlKemLaws P)
    (hI : IdentityLaws P idI edI xI) (hR : IdentityLaws P idR edR xR)
    (h : Exchanged P idI idR n w r) (hn : n < 3) (dW dR : NoiseDraws) {payload : Bytes}
    (hp : payload.length ≤ MAX_HANDSHAKE_MSG_BYTES) :
    ∃ w' m, (writeMessage P dW payload : Co Unit _ _ _).run () w = (w', .ok m) ∧
      ((∃ r', (readMessage P dR m : Co Unit _ _ _).run () r = (r', .ok payload)) ↔
        n = 2 ∨ payload.length ≤ 540) := by
  have hagreed := h.agreed hgcm hdh hkem hR
  have hmax : MAX_HANDSHAKE_MSG_BYTES = 1500 := rfl
  match n, hagreed with
  | 0, hagreed =>
      obtain ⟨rfl, rfl⟩ := hagreed
      obtain ⟨i₁, m, hwrite, hlen, hfits⟩ := @msg1_agrees P idI idR hdh hkem dW dR payload hp
      have hpub : MLKEM_PUBLIC_KEY_BYTES = 1184 := rfl
      refine ⟨i₁, m, hwrite, ?_, ?_⟩
      · rintro ⟨r', hread⟩
        have hm := fits_of_read hread
        exact Or.inr (by omega)
      · rintro (h | hle)
        · cases h
        obtain ⟨r₁, -, -, hread, -⟩ := hfits (by omega)
        exact ⟨r₁, hread⟩
  | 1, hagreed =>
      obtain ⟨eI, kemSeed, ciphertext, sharedSecret, heI, hct, hdec, hafter⟩ := hagreed
      obtain ⟨r₂, m, hwrite, hlen, hfits⟩ := msg2_agrees hgcm hdh hR heI hct hdec hafter dW dR hp
      have hciphertext : MLKEM_CIPHERTEXT_BYTES = 1088 := rfl
      have hstatic : S_CT_BYTES = 80 := rfl
      refine ⟨r₂, m, hwrite, ?_, ?_⟩
      · rintro ⟨r', hread⟩
        have hm := fits_of_read hread
        exact Or.inr (by omega)
      · rintro (h | hle)
        · cases h
        obtain ⟨i₂, hread, -⟩ := hfits (by omega)
        exact ⟨i₂, hread⟩
  | 2, hagreed =>
      obtain ⟨eI, eR, sharedSecret, heR, hafter⟩ := hagreed
      obtain ⟨i₃, m, r₃, hwrite, hread, -⟩ := msg3_agrees hgcm hdh hI heR hafter dW dR hp
      exact ⟨i₃, m, hwrite, fun _ => Or.inl rfl, fun _ => ⟨r₃, hread⟩⟩

end Exchanged

/-- The longest payload of a msg-1 that arrives. -/
theorem written_is_read_sample :
    ∃ w' m r',
      (writeMessage .sample (.sample 5) (List.replicate 540 1) : Co Unit _ _ _).run ()
        (new .sample .initiator (.ofKeys .sample (List.replicate 32 1) (List.replicate 32 3))) =
          (w', .ok m) ∧
      (readMessage .sample (.sample 6) m : Co Unit _ _ _).run ()
        (new .sample .responder (.ofKeys .sample (List.replicate 32 2) (List.replicate 32 4))) =
          (r', .ok (List.replicate 540 1)) := by
  obtain ⟨w', m, hwrite, hread⟩ :=
    written_is_read_iff sample_aesGcmLaws sample_x25519Laws sample_mlKemLaws
      (DeviceIdentityProvider.ofKeys_laws .sample (List.length_replicate (n := 32) (a := 1))
        (List.length_replicate (n := 32) (a := 3)))
      (DeviceIdentityProvider.ofKeys_laws .sample (List.length_replicate (n := 32) (a := 2))
        (List.length_replicate (n := 32) (a := 4)))
      .start (by decide) (.sample 5) (.sample 6)
      (show (List.replicate 540 (1 : UInt8)).length ≤ MAX_HANDSHAKE_MSG_BYTES by
        rw [List.length_replicate]
        decide)
  obtain ⟨r', hr'⟩ := hread.mpr (Or.inr (le_of_eq List.length_replicate))
  exact ⟨w', m, r', hwrite, hr'⟩

/-- One byte more is written and then refused. -/
theorem long_payload_is_refused :
    ∃ w' m,
      (writeMessage .sample (.sample 5) (List.replicate 541 1) : Co Unit _ _ _).run ()
        (new .sample .initiator (.ofKeys .sample (List.replicate 32 1) (List.replicate 32 3))) =
          (w', .ok m) ∧
      (readMessage .sample (.sample 6) m : Co Unit _ _ _).run ()
        (new .sample .responder (.ofKeys .sample (List.replicate 32 2) (List.replicate 32 4))) =
          (new .sample .responder (.ofKeys .sample (List.replicate 32 2) (List.replicate 32 4)),
            .error (.error "handshake message too large")) := by
  obtain ⟨w', m, hwrite, hlen, -⟩ := @msg1_agrees .sample
    (.ofKeys .sample (List.replicate 32 1) (List.replicate 32 3))
    (.ofKeys .sample (List.replicate 32 2) (List.replicate 32 4)) sample_x25519Laws
    sample_mlKemLaws (.sample 5) (.sample 6) (List.replicate 541 1) (by
      rw [List.length_replicate]
      decide)
  refine ⟨w', m, hwrite, ?_⟩
  rw [readMessage_run, if_pos]
  rw [hlen, List.length_replicate]
  decide

end NoiseXxHandshake

end Oxpulse.Crypto
