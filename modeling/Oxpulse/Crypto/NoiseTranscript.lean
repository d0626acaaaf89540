import Oxpulse.Foundation.HashChain
import Oxpulse.Crypto.NoiseRetry

/-!
# The handshake hash binds the transcript

The handshake hash is a running hash of message parts. `HandshakeOp.absorbed`
is what a call adds to its log, a failing call included; `Shape` is what the
log of an object looks like at each turn. In a complete log the ciphertext of
msg-2 and the payload of msg-1 can be told from everything around them by
their lengths, so the log determines the three messages (`Shape.unique₃`).
-/

namespace Oxpulse.Crypto

open Oxpulse.Coroutine

namespace NoiseXxHandshake

variable (P : Primitives) (draws : NoiseDraws) (payload message : Bytes) (hs : NoiseXxHandshake)

/-! ## What a call absorbs, latest part first -/

def writeMsg1Absorbed : List Bytes :=
  let hs₁ := generateEphemeral P draws hs
  let ePublic := P.x25519PublicKey draws.eSecret
  match generateMlkemKeypair P draws.mlkemSeed with
  | .error _ => [ePublic]
  | .ok keypair => [sealed P hs₁.state (keypair.publicKey ++ payload), ePublic]

def readMsg1Absorbed : List Bytes :=
  if message.length < 32 + MLKEM_PUBLIC_KEY_BYTES then []
  else
    let rePublic := message.take 32
    match opened P (learnEphemeral P rePublic hs).state (message.drop 32) with
    | none => [rePublic]
    | some _ => [message.drop 32, rePublic]

def writeMsg2Absorbed : List Bytes :=
  match hs.rePublic, hs.mlkemKeypair, hs.mlkemSharedSecret with
  | some rePublic, some keypair, some _ =>
      let ePublic := P.x25519PublicKey draws.eSecret
      match getSharedSecret P draws.eSecret rePublic with
      | .error _ => [ePublic]
      | .ok ee =>
          let hs₂ := mixKeyState P ee (generateEphemeral P draws hs)
          match staticKeys hs.identity with
          | .error _ => [ePublic]
          | .ok sPayload =>
              let sCt := sealed P hs₂.state sPayload
              match hs.identity.dhX25519 rePublic with
              | .error _ => [sCt, ePublic]
              | .ok dh =>
                  let hs₄ := mixKeyState P dh (absorbState P sCt hs₂)
                  [sealed P hs₄.state (keypair.publicKey ++ payload), sCt, ePublic]
  | _, _, _ => []

def readMsg2Absorbed : List Bytes :=
  match hs.eSecret, hs.mlkemKeypair with
  | some eSecret, some _ =>
      let rePublic := message.take 32
      match getSharedSecret P eSecret rePublic with
      | .error _ => [rePublic]
      | .ok ee =>
          let hs₂ := mixKeyState P ee (learnEphemeral P rePublic hs)
          let sCt := (message.drop 32).take S_CT_BYTES
          match opened P hs₂.state sCt with
          | none => [rePublic]
          | some sPayload =>
              match getSharedSecret P eSecret ((sPayload.drop 32).take 32) with
              | .error _ => [sCt, rePublic]
              | .ok es =>
                  let rest := message.drop (32 + S_CT_BYTES)
                  match opened P (mixKeyState P es (learnStatic P sCt sPayload hs₂)).state rest with
                  | none => [sCt, rePublic]
                  | some _ => [rest, sCt, rePublic]
  | _, _ => []

def writeMsg3Absorbed : List Bytes :=
  match hs.eSecret, hs.rePublic with
  | some _, some rePublic =>
      match staticKeys hs.identity with
      | .error _ => []
      | .ok sPayload =>
          let sCt := sealed P hs.state sPayload
          match hs.identity.dhX25519 rePublic with
          | .error _ => [sCt]
          | .ok dh => [sealed P (mixKeyState P dh (absorbState P sCt hs)).state payload, sCt]
  | _, _ => []

def readMsg3Absorbed : List Bytes :=
  match hs.eSecret with
  | some eSecret =>
      let sCt := message.take S_CT_BYTES
      match opened P hs.state sCt with
      | none => []
      | some sPayload =>
          match getSharedSecret P eSecret ((sPayload.drop 32).take 32) with
          | .error _ => [sCt]
          | .ok se =>
              let rest := message.drop S_CT_BYTES
              match opened P (mixKeyState P se (learnStatic P sCt sPayload hs)).state rest with
              | none => [sCt]
              | some _ => [rest, sCt]
  | none => []

end NoiseXxHandshake

open NoiseXxHandshake in
/-- The parts the call mixes into the handshake hash, latest first. -/
def HandshakeOp.absorbed (P : Primitives) (hs : NoiseXxHandshake) : HandshakeOp → List Bytes
  | .write draws payload =>
      if payload.length > MAX_HANDSHAKE_MSG_BYTES then []
      else
        match hs.role, hs.msgIdx with
        | .initiator, 0 => writeMsg1Absorbed P draws payload hs
        | .responder, 1 => writeMsg2Absorbed P draws payload hs
        | .initiator, 2 => writeMsg3Absorbed P payload hs
        | _, _ => []
  | .read _ message =>
      if message.length > MAX_HANDSHAKE_MSG_BYTES + 256 then []
      else
        match hs.role, hs.msgIdx with
        | .responder, 0 => readMsg1Absorbed P message hs
        | .initiator, 1 => readMsg2Absorbed P message hs
        | .responder, 2 => readMsg3Absorbed P message hs
        | _, _ => []

/-- The wire message the object has seen when the call succeeded. -/
def HandshakeOp.seen (op : HandshakeOp) : Except JsError Bytes → List Bytes
  | .error _ => []
  | .ok result =>
      match op with
      | .write _ _ => [result]
      | .read _ message => [message]

/-- A run under observation: the object, the log of its hash, latest part
first, and the messages that succeeded, in order. -/
structure Observed : Type where
  hs : NoiseXxHandshake
  log : List Bytes
  wires : List Bytes

/-- Take down a call: what it absorbed and how it ended. -/
def Observed.record (o : Observed) (op : HandshakeOp) (absorbed : List Bytes)
    (res : NoiseXxHandshake × Except JsError Bytes) : Observed where
  hs := res.1
  log := absorbed ++ o.log
  wires := o.wires ++ op.seen res.2

def observe (P : Primitives) (o : Observed) (op : HandshakeOp) : Observed :=
  o.record op (op.absorbed P o.hs) (op.step P o.hs)

def observeRun (P : Primitives) (role : Role) (identity : DeviceIdentityProvider)
    (ops : List HandshakeOp) : Observed :=
  ops.foldl (observe P) ⟨.new P role identity, [], []⟩

/-- The observed run is the run. -/
theorem observeRun_hs (P : Primitives) (role : Role) (identity : DeviceIdentityProvider)
    (ops : List HandshakeOp) :
    (observeRun P role identity ops).hs = handshakeRun P (.new P role identity) ops := by
  induction ops using List.reverseRecOn with
  | nil => rfl
  | append_singleton ops op ih =>
      rw [handshakeRun_concat, ← ih]
      unfold observeRun
      rw [List.foldl_concat]
      rfl

/-- Everything SHA-256 was applied to for the handshake hash. -/
def Observed.hashed (P : Primitives) (o : Observed) : List Bytes :=
  Oxpulse.hashed P.sha256 PROTOCOL_NAME o.log

/-! ## The shape of a log -/

/-- The log and the messages of an object at each turn. Failing calls leave
parts behind: none of fifteen bytes before msg-1, short ones before msg-2, none
longer than an encrypted static key before msg-3. -/
inductive Shape : Fin 4 → List Bytes → List Bytes → Prop where
  | fresh {log : List Bytes} (hfail : ∀ x ∈ log, x.length ≠ 15) : Shape 0 log []
  | afterMsg1 {log wires fail : List Bytes} {e payload : Bytes}
      (hlog : Shape 0 log wires) (hpayload : 1184 ≤ payload.length)
      (hfail : ∀ x ∈ fail, ¬ 1184 ≤ x.length) :
      Shape 1 (fail ++ payload :: e :: log) (wires ++ [e ++ payload])
  | afterMsg2 {log wires fail : List Bytes} {e s c : Bytes}
      (hlog : Shape 1 log wires) (hc : 80 < c.length) (hfail : ∀ x ∈ fail, ¬ 80 < x.length) :
      Shape 2 (fail ++ c :: s :: e :: log) (wires ++ [e ++ s ++ c])
  | complete {log wires : List Bytes} {s c : Bytes} (hlog : Shape 2 log wires) :
      Shape 3 (c :: s :: log) (wires ++ [s ++ c])

namespace Shape

variable {log log' wires wires' extra add : List Bytes}

theorem grow₀ (h : Shape 0 log wires) (hadd : ∀ x ∈ add, x.length ≠ 15) :
    Shape 0 (add ++ log) wires := by
  cases h with
  | fresh hfail =>
      apply Shape.fresh
      intro x hx
      rcases List.mem_append.mp hx with hx | hx
      · exact hadd x hx
      · exact hfail x hx

theorem grow₁ (h : Shape 1 log wires) (hadd : ∀ x ∈ add, ¬ 1184 ≤ x.length) :
    Shape 1 (add ++ log) wires := by
  cases h with
  | afterMsg1 hlog hpayload hfail =>
      rw [← List.append_assoc]
      apply Shape.afterMsg1 hlog hpayload
      intro x hx
      rcases List.mem_append.mp hx with hx | hx
      · exact hadd x hx
      · exact hfail x hx

theorem grow₂ (h : Shape 2 log wires) (hadd : ∀ x ∈ add, ¬ 80 < x.length) :
    Shape 2 (add ++ log) wires := by
  cases h with
  | afterMsg2 hlog hc hfail =>
      rw [← List.append_assoc]
      apply Shape.afterMsg2 hlog hc
      intro x hx
      rcases List.mem_append.mp hx with hx | hx
      · exact hadd x hx
      · exact hfail x hx

/-! A log that begins with another one has its messages, and what follows
contains no part of fifteen bytes. -/

theorem unique₀ (h : Shape 0 log wires) (h' : Shape 0 log' wires') (heq : log = log' ++ extra) :
    wires = wires' ∧ ∀ x ∈ extra, x.length ≠ 15 := by
  cases h with
  | fresh hfail =>
      cases h' with
      | fresh _ =>
          refine ⟨rfl, fun x hx => hfail x ?_⟩
          rw [heq]
          exact List.mem_append_right _ hx

theorem unique₁ (h : Shape 1 log wires) (h' : Shape 1 log' wires') (heq : log = log' ++ extra) :
    wires = wires' ∧ ∀ x ∈ extra, x.length ≠ 15 := by
  cases h with
  | afterMsg1 hlog hpayload hfail =>
      cases h' with
      | afterMsg1 hlog' hpayload' hfail' =>
          simp only [List.append_assoc, List.cons_append] at heq
          obtain ⟨-, rfl, hrest⟩ := split_unique hfail hpayload hfail' hpayload' heq
          obtain ⟨rfl, hlogs⟩ := List.cons.inj hrest
          obtain ⟨rfl, hextra⟩ := hlog.unique₀ hlog' hlogs
          exact ⟨rfl, hextra⟩

theorem unique₂ (h : Shape 2 log wires) (h' : Shape 2 log' wires') (heq : log = log' ++ extra) :
    wires = wires' ∧ ∀ x ∈ extra, x.length ≠ 15 := by
  cases h with
  | afterMsg2 hlog hc hfail =>
      cases h' with
      | afterMsg2 hlog' hc' hfail' =>
          simp only [List.append_assoc, List.cons_append] at heq
          obtain ⟨-, rfl, hrest⟩ := split_unique (p := fun x : Bytes => 80 < x.length)
            hfail hc hfail' hc' heq
          obtain ⟨rfl, htail⟩ := List.cons.inj hrest
          obtain ⟨rfl, hlogs⟩ := List.cons.inj htail
          obtain ⟨rfl, hextra⟩ := hlog.unique₁ hlog' hlogs
          exact ⟨rfl, hextra⟩

theorem unique₃ (h : Shape 3 log wires) (h' : Shape 3 log' wires') (heq : log = log' ++ extra) :
    wires = wires' ∧ ∀ x ∈ extra, x.length ≠ 15 := by
  cases h with
  | complete hlog =>
      cases h' with
      | complete hlog' =>
          simp only [List.cons_append] at heq
          obtain ⟨rfl, htail⟩ := List.cons.inj heq
          obtain ⟨rfl, hlogs⟩ := List.cons.inj htail
          obtain ⟨rfl, hextra⟩ := hlog.unique₂ hlog' hlogs
          exact ⟨rfl, hextra⟩

/-- Three messages have been seen. -/
theorem wires_length (h : Shape 3 log wires) : wires.length = 3 := by
  rcases h with _ | _ | _ | ⟨_ | _ | ⟨_ | ⟨⟨-⟩, -, -⟩, -, -⟩⟩
  rfl

end Shape

/-! ## Lengths of parts -/

/-- Both public keys have their documented 32 bytes. -/
structure KeyLengths (identity : DeviceIdentityProvider) : Prop where
  publicKey : ∀ k, identity.getPublicKey = .ok k → k.length = 32
  x25519PublicKey : ∀ k, identity.getX25519PublicKey = .ok k → k.length = 32

theorem KeyLengths.staticKeys {identity : DeviceIdentityProvider} (h : KeyLengths identity)
    {keys : Bytes} (hkeys : NoiseXxHandshake.staticKeys identity = .ok keys) :
    keys.length = 64 := by
  unfold NoiseXxHandshake.staticKeys at hkeys
  split at hkeys
  · cases hkeys
  next sPub hed =>
  split at hkeys
  · cases hkeys
  next sX hx =>
  cases hkeys
  rw [List.length_append, h.publicKey _ hed, h.x25519PublicKey _ hx]

/-- Sealing adds a tag or nothing. -/
theorem sealed_length_bounds {P : Primitives} (hgcm : AesGcmLaws P) (s : NoiseState)
    (pt : Bytes) :
    pt.length ≤ (sealed P s pt).length ∧ (sealed P s pt).length ≤ pt.length + 16 := by
  unfold sealed
  cases s.k with
  | none => exact ⟨le_refl _, Nat.le_add_right _ _⟩
  | some k =>
      simp only [hgcm.seal_length]
      exact ⟨Nat.le_add_right _ _, le_refl _⟩

/-- Opening removes a tag or nothing. -/
theorem opened_length_bounds {P : Primitives} (hgcm : AesGcmLaws P) {s : NoiseState}
    {ct pt : Bytes} (hopen : opened P s ct = some pt) :
    pt.length ≤ ct.length ∧ ct.length ≤ pt.length + 16 := by
  unfold opened at hopen
  cases hk : s.k with
  | none =>
      rw [hk] at hopen
      cases hopen
      exact ⟨le_refl _, Nat.le_add_right _ _⟩
  | some k =>
      rw [hk] at hopen
      have hlen := hgcm.open_length _ _ _ _ _ hopen
      omega

theorem generateMlkemKeypair_spec {P : Primitives} {seed : Bytes} {keypair : MlkemKeypair}
    (h : generateMlkemKeypair P seed = .ok keypair) :
    keypair.publicKey.length = 1184 ∧ keypair.secretKey = (P.mlkemKeygen seed).2 := by
  unfold generateMlkemKeypair at h
  dsimp only at h
  split at h
  · cases h
  next hlen =>
  cases h
  exact ⟨not_not.mp hlen, rfl⟩

theorem encapsulate_spec {P : Primitives} {pub coins ct ss : Bytes}
    (h : encapsulate P pub coins = .ok (ct, ss)) : ct.length = 1088 := by
  unfold encapsulate at h
  split at h
  · cases h
  split at h
  · cases h
  split at h
  · cases h
  next hlen =>
  split at h
  · cases h
  cases h
  exact not_not.mp hlen

/-- Decapsulation with a generated key fails on the wrong size only. -/
theorem decapsulate_error {P : Primitives} (hkem : MlKemLaws P) {seed ct : Bytes} {e : JsError}
    (h : decapsulate P (P.mlkemKeygen seed).2 ct = .error e) : ct.length ≠ 1088 := by
  intro hlen
  obtain ⟨ss, hdec, hss⟩ := hkem.decapsulate_total seed ct hlen
  have hlen' : ct.length = MLKEM_CIPHERTEXT_BYTES := hlen
  have hss' : ss.length = MLKEM_SHARED_SECRET_BYTES := hss
  unfold decapsulate at h
  rw [if_neg (not_not.mpr hlen'), hdec] at h
  dsimp only at h
  rw [if_neg (not_not.mpr hss')] at h
  cases h

theorem decapsulate_ok {P : Primitives} {sec ct ss : Bytes}
    (h : decapsulate P sec ct = .ok ss) : ct.length = 1088 := by
  unfold decapsulate at h
  split at h
  · cases h
  next hlen => exact not_not.mp hlen

/-! ## The log of a run -/

/-- What the log of a run says about the object. -/
structure TranscriptInv (P : Primitives) (o : Observed) : Prop where
  hash : o.hs.state.h = digest P.sha256 PROTOCOL_NAME o.log
  shape : Shape o.hs.msgIdx o.log o.wires
  keyLengths : KeyLengths o.hs.identity
  ciphertext : o.hs.role = .responder → o.hs.msgIdx = 1 →
    ∀ keypair, o.hs.mlkemKeypair = some keypair → keypair.publicKey.length = 1088
  secretKey : o.hs.role = .initiator → o.hs.msgIdx = 1 →
    ∀ keypair, o.hs.mlkemKeypair = some keypair →
      ∃ seed, keypair.secretKey = (P.mlkemKeygen seed).2

section Steps

variable {P : Primitives} {o : Observed} {op : HandshakeOp}

/-- A call that fails stays at its turn and grows the log. -/
theorem TranscriptInv.fail (h : TranscriptInv P o) {hs' : NoiseXxHandshake} {add : List Bytes}
    {e : JsError} (hrole : hs'.role = o.hs.role) (hidx : hs'.msgIdx = o.hs.msgIdx)
    (hid : hs'.identity = o.hs.identity) (hkem : hs'.mlkemKeypair = o.hs.mlkemKeypair)
    (hhash : hs'.state.h = digest P.sha256 PROTOCOL_NAME (add ++ o.log))
    (hshape : Shape o.hs.msgIdx (add ++ o.log) o.wires) :
    TranscriptInv P (o.record op add (hs', .error e)) where
  hash := hhash
  shape := by
    show Shape hs'.msgIdx (add ++ o.log) (o.wires ++ [])
    rw [List.append_nil, hidx]
    exact hshape
  keyLengths := by
    show KeyLengths hs'.identity
    rw [hid]
    exact h.keyLengths
  ciphertext := by
    show hs'.role = _ → hs'.msgIdx = _ → ∀ keypair, hs'.mlkemKeypair = _ → _
    rw [hrole, hidx, hkem]
    exact h.ciphertext
  secretKey := by
    show hs'.role = _ → hs'.msgIdx = _ → ∀ keypair, hs'.mlkemKeypair = _ → _
    rw [hrole, hidx, hkem]
    exact h.secretKey

/-- A call that is refused. -/
theorem TranscriptInv.refused (h : TranscriptInv P o) {e : JsError} :
    TranscriptInv P (o.record op [] (o.hs, .error e)) :=
  h.fail rfl rfl rfl rfl h.hash h.shape

/-- A call that leaves msg-1 behind moves to a turn without ML-KEM state to
look after. -/
theorem TranscriptInv.succeed (h : TranscriptInv P o) {hs' : NoiseXxHandshake}
    {add : List Bytes} {result : Bytes} (hid : hs'.identity = o.hs.identity)
    (hhash : hs'.state.h = digest P.sha256 PROTOCOL_NAME (add ++ o.log))
    (hshape : Shape hs'.msgIdx (add ++ o.log) (o.wires ++ op.seen (.ok result)))
    (hidx : hs'.msgIdx ≠ 1) :
    TranscriptInv P (o.record op add (hs', .ok result)) where
  hash := hhash
  shape := hshape
  keyLengths := by
    show KeyLengths hs'.identity
    rw [hid]
    exact h.keyLengths
  ciphertext := fun _ hone => absurd hone hidx
  secretKey := fun _ hone => absurd hone hidx

namespace NoiseXxHandshake

variable {hs : NoiseXxHandshake} {draws : NoiseDraws} {payload message : Bytes}

/-! ### The hash after each update -/

@[simp] theorem generateEphemeral_h :
    (generateEphemeral P draws hs).state.h =
      P.sha256 (hs.state.h ++ P.x25519PublicKey draws.eSecret) :=
  rfl

@[simp] theorem learnEphemeral_h {re : Bytes} :
    (learnEphemeral P re hs).state.h = P.sha256 (hs.state.h ++ re) :=
  rfl

@[simp] theorem mixKeyState_h {ikm : Bytes} : (mixKeyState P ikm hs).state.h = hs.state.h :=
  rfl

@[simp] theorem absorbState_h {ct : Bytes} :
    (absorbState P ct hs).state.h = P.sha256 (hs.state.h ++ ct) :=
  rfl

@[simp] theorem learnStatic_h {sCt sPayload : Bytes} :
    (learnStatic P sCt sPayload hs).state.h = P.sha256 (hs.state.h ++ sCt) :=
  rfl

/-! ### msg-1 -/

theorem writeMsg1_transcript (hgcm : AesGcmLaws P) (hx : X25519Laws P) (h : TranscriptInv P o)
    (hrole : o.hs.role = .initiator) (hidx : o.hs.msgIdx = 0) :
    TranscriptInv P (o.record (.write draws payload) (writeMsg1Absorbed P draws payload o.hs)
      ((writeMsg1 P draws payload : Co Unit _ _ _).run () o.hs)) := by
  have hshape := h.shape
  rw [hidx] at hshape
  have he : (P.x25519PublicKey draws.eSecret).length = 32 := hx.publicKey_length _
  have hgrown : Shape 0 (P.x25519PublicKey draws.eSecret :: o.log) o.wires := by
    refine @Shape.grow₀ _ _ [_] hshape fun x hx => ?_
    rw [List.mem_singleton.mp hx, he]
    decide
  rw [writeMsg1_run]
  unfold writeMsg1Absorbed
  dsimp only
  cases hkp : generateMlkemKeypair P draws.mlkemSeed with
  | error e =>
      refine h.fail rfl rfl rfl rfl ?_ ?_
      · simp [digest, h.hash]
      · rw [hidx]
        exact hgrown
  | ok keypair =>
      obtain ⟨hpk, hsec⟩ := generateMlkemKeypair_spec hkp
      have hlong := (sealed_length_bounds hgcm (generateEphemeral P draws o.hs).state
        (keypair.publicKey ++ payload)).1
      rw [List.length_append, hpk] at hlong
      refine ⟨?_, ?_, h.keyLengths, ?_, ?_⟩
      · simp [Observed.record, digest, h.hash]
      · exact @Shape.afterMsg1 _ _ [] _ _ hshape (by omega) (by simp)
      · intro hrole'
        exact absurd (hrole.symm.trans hrole') (by decide)
      · rintro - - keypair' heq
        obtain rfl := Option.some.inj heq
        exact ⟨_, hsec⟩

theorem readMsg1_transcript (h : TranscriptInv P o)
    (hrole : o.hs.role = .responder) (hidx : o.hs.msgIdx = 0) :
    TranscriptInv P (o.record (.read draws message) (readMsg1Absorbed P message o.hs)
      ((readMsg1 P draws message : Co Unit _ _ _).run () o.hs)) := by
  have hshape := h.shape
  rw [hidx] at hshape
  rw [readMsg1_run]
  unfold readMsg1Absorbed
  by_cases hlen : message.length < 32 + MLKEM_PUBLIC_KEY_BYTES
  · rw [if_pos hlen, if_pos hlen]
    exact h.refused
  have hre : (message.take 32).length = 32 := by
    rw [List.length_take]
    unfold MLKEM_PUBLIC_KEY_BYTES at hlen
    omega
  have hrest : 1184 ≤ (message.drop 32).length := by
    rw [List.length_drop]
    unfold MLKEM_PUBLIC_KEY_BYTES at hlen
    omega
  rw [if_neg hlen, if_neg hlen]
  dsimp only
  cases opened P (learnEphemeral P (message.take 32) o.hs).state (message.drop 32) with
  | none =>
      refine h.fail rfl rfl rfl rfl ?_ ?_
      · simp [digest, h.hash]
      · rw [hidx]
        refine hshape.grow₀ fun x hx => ?_
        rw [List.mem_singleton.mp hx, hre]
        decide
  | some pt =>
      dsimp only
      cases henc : encapsulate P (pt.take MLKEM_PUBLIC_KEY_BYTES) draws.mlkemCoins with
      | error e =>
          refine h.fail rfl rfl rfl rfl ?_ ?_
          · simp [digest, h.hash]
          · rw [hidx]
            refine hshape.grow₀ fun x hx => ?_
            rcases List.mem_pair.mp hx with rfl | rfl
            · omega
            · omega
      | ok p =>
          obtain ⟨ciphertext, sharedSecret⟩ := p
          refine ⟨?_, ?_, h.keyLengths, ?_, ?_⟩
          · simp [Observed.record, digest, h.hash]
          · have hwire := @Shape.afterMsg1 _ _ [] (message.take 32) _ hshape hrest (by simp)
            rw [List.take_append_drop] at hwire
            exact hwire
          · rintro - - keypair heq
            obtain rfl := Option.some.inj heq
            exact encapsulate_spec henc
          · intro hrole'
            exact absurd (hrole.symm.trans hrole') (by decide)

/-! ### msg-2 -/

theorem writeMsg2_transcript (hgcm : AesGcmLaws P) (hx : X25519Laws P) (h : TranscriptInv P o)
    (hrole : o.hs.role = .responder) (hidx : o.hs.msgIdx = 1) :
    TranscriptInv P (o.record (.write draws payload) (writeMsg2Absorbed P draws payload o.hs)
      ((writeMsg2 P draws payload : Co Unit _ _ _).run () o.hs)) := by
  cases hre : o.hs.rePublic with
  | none =>
      unfold writeMsg2 writeMsg2Absorbed
      simp only [Co.run_bind, Co.run_get, hre, Co.run_orThrow]
      exact h.refused
  | some rePublic =>
  cases hkp : o.hs.mlkemKeypair with
  | none =>
      unfold writeMsg2 writeMsg2Absorbed
      simp only [Co.run_bind, Co.run_get, hre, hkp, Co.run_orThrow]
      exact h.refused
  | some keypair =>
  cases hss : o.hs.mlkemSharedSecret with
  | none =>
      unfold writeMsg2 writeMsg2Absorbed
      simp only [Co.run_bind, Co.run_get, hre, hkp, hss, Co.run_orThrow]
      exact h.refused
  | some ss =>
  have hshape := h.shape
  rw [hidx] at hshape
  have he : (P.x25519PublicKey draws.eSecret).length = 32 := hx.publicKey_length _
  have hgrow : ∀ add : List Bytes, (∀ x ∈ add, x.length ≤ 80) →
      Shape o.hs.msgIdx (add ++ o.log) o.wires := by
    intro add hadd
    rw [hidx]
    refine hshape.grow₁ fun x hx hlong => ?_
    have := hadd x hx
    omega
  rw [writeMsg2_run _ _ _ hre hkp hss]
  unfold writeMsg2Absorbed
  simp only [hre, hkp, hss]
  cases getSharedSecret P draws.eSecret rePublic with
  | error e =>
      refine h.fail rfl rfl rfl rfl ?_ (hgrow _ ?_)
      · simp [digest, h.hash]
      · simp [he]
  | ok ee =>
      dsimp only
      cases hkeys : staticKeys o.hs.identity with
      | error e =>
          refine h.fail rfl rfl rfl rfl ?_ (hgrow _ ?_)
          · simp [digest, h.hash]
          · simp [he]
      | ok sPayload =>
          have hsCt := (sealed_length_bounds hgcm
            (mixKeyState P ee (generateEphemeral P draws o.hs)).state sPayload).2
          rw [h.keyLengths.staticKeys hkeys] at hsCt
          dsimp only
          cases o.hs.identity.dhX25519 rePublic with
          | error e =>
              refine h.fail rfl rfl rfl rfl ?_ (hgrow _ ?_)
              · simp [digest, h.hash]
              · simp [he]
                omega
          | ok dh =>
              have hkem := h.ciphertext hrole hidx keypair hkp
              have hlong := (sealed_length_bounds hgcm (mixKeyState P dh (absorbState P
                (sealed P (mixKeyState P ee (generateEphemeral P draws o.hs)).state sPayload)
                  (mixKeyState P ee (generateEphemeral P draws o.hs)))).state
                (keypair.publicKey ++ payload)).1
              rw [List.length_append, hkem] at hlong
              refine h.succeed rfl ?_ ?_ ?_
              · simp [digest, h.hash]
              · exact @Shape.afterMsg2 _ _ [] _ _ _ hshape (by omega) (by simp)
              · show (2 : Fin 4) ≠ 1
                decide

/-- A msg-2 is its ephemeral, its encrypted static key and the rest. -/
theorem msg2_join (message : Bytes) :
    message.take 32 ++ (message.drop 32).take S_CT_BYTES ++ message.drop (32 + S_CT_BYTES) =
      message := by
  rw [← List.drop_drop, List.append_assoc, List.take_append_drop, List.take_append_drop]

theorem readMsg2_transcript (hgcm : AesGcmLaws P) (hkem : MlKemLaws P) (h : TranscriptInv P o)
    (hrole : o.hs.role = .initiator) (hidx : o.hs.msgIdx = 1) :
    TranscriptInv P (o.record (.read draws message) (readMsg2Absorbed P message o.hs)
      ((readMsg2 P message : Co Unit _ _ _).run () o.hs)) := by
  cases he : o.hs.eSecret with
  | none =>
      unfold readMsg2 readMsg2Absorbed
      simp only [Co.run_bind, Co.run_get, he, Co.run_orThrow]
      exact h.refused
  | some eSecret =>
  cases hkp : o.hs.mlkemKeypair with
  | none =>
      unfold readMsg2 readMsg2Absorbed
      simp only [Co.run_bind, Co.run_get, he, hkp, Co.run_orThrow]
      exact h.refused
  | some keypair =>
  have hshape := h.shape
  rw [hidx] at hshape
  have hre : (message.take 32).length ≤ 32 := List.length_take_le _ _
  have hsCt : ((message.drop 32).take S_CT_BYTES).length ≤ 80 := List.length_take_le _ _
  have hgrow : ∀ add : List Bytes, (∀ x ∈ add, x.length < 1184) →
      Shape o.hs.msgIdx (add ++ o.log) o.wires := by
    intro add hadd
    rw [hidx]
    exact hshape.grow₁ fun x hx => Nat.not_le.mpr (hadd x hx)
  have hshort : ∀ x ∈ [(message.drop 32).take S_CT_BYTES, message.take 32],
      x.length < 1184 := by
    intro x hx
    rcases List.mem_pair.mp hx with rfl | rfl
    · omega
    · omega
  rw [readMsg2_run _ _ he hkp]
  unfold readMsg2Absorbed
  simp only [he, hkp]
  cases getSharedSecret P eSecret (message.take 32) with
  | error e =>
      refine h.fail rfl rfl rfl rfl ?_ (hgrow _ ?_)
      · simp [digest, h.hash]
      · exact fun x hx => hshort x (List.mem_cons_of_mem _ hx)
  | ok ee =>
      dsimp only
      cases opened P (mixKeyState P ee (learnEphemeral P (message.take 32) o.hs)).state
          ((message.drop 32).take S_CT_BYTES) with
      | none =>
          refine h.fail rfl rfl rfl rfl ?_ (hgrow _ ?_)
          · simp [digest, h.hash]
          · exact fun x hx => hshort x (List.mem_cons_of_mem _ hx)
      | some sPayload =>
          dsimp only
          cases getSharedSecret P eSecret ((sPayload.drop 32).take 32) with
          | error e =>
              refine h.fail rfl rfl rfl rfl ?_ (hgrow _ hshort)
              simp [digest, h.hash]
          | ok es =>
              dsimp only
              cases hopen : opened P (mixKeyState P es (learnStatic P
                  ((message.drop 32).take S_CT_BYTES) sPayload (mixKeyState P ee
                    (learnEphemeral P (message.take 32) o.hs)))).state
                  (message.drop (32 + S_CT_BYTES)) with
              | none =>
                  refine h.fail rfl rfl rfl rfl ?_ (hgrow _ hshort)
                  simp [digest, h.hash]
              | some pt =>
                  have hlen := opened_length_bounds hgcm hopen
                  dsimp only
                  cases hdec : decapsulate P keypair.secretKey (pt.take MLKEM_CIPHERTEXT_BYTES) with
                  | error e =>
                      -- the rest was too short for a ciphertext
                      obtain ⟨seed, hseed⟩ := h.secretKey hrole hidx keypair hkp
                      rw [hseed] at hdec
                      have hct := decapsulate_error hkem hdec
                      rw [List.length_take] at hct
                      unfold MLKEM_CIPHERTEXT_BYTES at hct
                      refine h.fail rfl rfl rfl rfl ?_ (hgrow _ ?_)
                      · simp [digest, h.hash]
                      · intro x hx
                        rcases List.mem_cons.mp hx with rfl | hx
                        · omega
                        · exact hshort x hx
                  | ok ss =>
                      have hct := decapsulate_ok hdec
                      rw [List.length_take] at hct
                      refine h.succeed rfl ?_ ?_ ?_
                      · simp [learnSharedSecret, digest, h.hash]
                      · have hwire := @Shape.afterMsg2 _ _ [] (message.take 32)
                          ((message.drop 32).take S_CT_BYTES)
                          (message.drop (32 + S_CT_BYTES)) hshape (by omega) (by simp)
                        rw [msg2_join] at hwire
                        exact hwire
                      · show (2 : Fin 4) ≠ 1
                        decide

/-! ### msg-3 -/

theorem writeMsg3_transcript (hgcm : AesGcmLaws P) (h : TranscriptInv P o)
    (hidx : o.hs.msgIdx = 2) :
    TranscriptInv P (o.record (.write draws payload) (writeMsg3Absorbed P payload o.hs)
      ((writeMsg3 P payload : Co Unit _ _ _).run () o.hs)) := by
  cases he : o.hs.eSecret with
  | none =>
      unfold writeMsg3 writeMsg3Absorbed
      simp only [Co.run_bind, Co.run_get, he, Co.run_orThrow]
      exact h.refused
  | some eSecret =>
  cases hre : o.hs.rePublic with
  | none =>
      unfold writeMsg3 writeMsg3Absorbed
      simp only [Co.run_bind, Co.run_get, he, hre, Co.run_orThrow]
      exact h.refused
  | some rePublic =>
  have hshape := h.shape
  rw [hidx] at hshape
  rw [writeMsg3_run _ _ he hre]
  unfold writeMsg3Absorbed
  simp only [he, hre]
  cases hkeys : staticKeys o.hs.identity with
  | error e => exact h.refused
  | ok sPayload =>
      have hsCt := (sealed_length_bounds hgcm o.hs.state sPayload).2
      rw [h.keyLengths.staticKeys hkeys] at hsCt
      dsimp only
      cases o.hs.identity.dhX25519 rePublic with
      | error e =>
          refine h.fail rfl rfl rfl rfl ?_ ?_
          · simp [digest, h.hash]
          · rw [hidx]
            refine hshape.grow₂ fun x hx => ?_
            rw [List.mem_singleton.mp hx]
            omega
      | ok dh =>
          refine h.succeed rfl ?_ (Shape.complete hshape) ?_
          · simp [digest, h.hash]
          · show (3 : Fin 4) ≠ 1
            decide

theorem readMsg3_transcript (h : TranscriptInv P o) (hidx : o.hs.msgIdx = 2) :
    TranscriptInv P (o.record (.read draws message) (readMsg3Absorbed P message o.hs)
      ((readMsg3 P message : Co Unit _ _ _).run () o.hs)) := by
  cases he : o.hs.eSecret with
  | none =>
      unfold readMsg3 readMsg3Absorbed
      simp only [Co.run_bind, Co.run_get, he, Co.run_orThrow]
      exact h.refused
  | some eSecret =>
  have hshape := h.shape
  rw [hidx] at hshape
  have hgrown : Shape o.hs.msgIdx (message.take S_CT_BYTES :: o.log) o.wires := by
    rw [hidx]
    refine @Shape.grow₂ _ _ [_] hshape fun x hx => ?_
    rw [List.mem_singleton.mp hx]
    exact Nat.not_lt.mpr (List.length_take_le _ _)
  rw [readMsg3_run _ _ he]
  unfold readMsg3Absorbed
  simp only [he]
  cases opened P o.hs.state (message.take S_CT_BYTES) with
  | none => exact h.refused
  | some sPayload =>
      dsimp only
      cases getSharedSecret P eSecret ((sPayload.drop 32).take 32) with
      | error e =>
          refine h.fail rfl rfl rfl rfl ?_ hgrown
          simp [digest, h.hash]
      | ok se =>
          dsimp only
          cases opened P (mixKeyState P se (learnStatic P (message.take S_CT_BYTES) sPayload
              o.hs)).state (message.drop S_CT_BYTES) with
          | none =>
              refine h.fail rfl rfl rfl rfl ?_ hgrown
              simp [digest, h.hash]
          | some pt =>
              refine h.succeed rfl ?_ ?_ ?_
              · simp [digest, h.hash]
              · have hwire := Shape.complete (s := message.take S_CT_BYTES)
                  (c := message.drop S_CT_BYTES) hshape
                rw [List.take_append_drop] at hwire
                exact hwire
              · show (3 : Fin 4) ≠ 1
                decide

end NoiseXxHandshake

/-- One call keeps the log true. -/
theorem TranscriptInv.observe (hgcm : AesGcmLaws P) (hx : X25519Laws P) (hkem : MlKemLaws P)
    (h : TranscriptInv P o) (op : HandshakeOp) : TranscriptInv P (observe P o op) := by
  unfold Oxpulse.Crypto.observe HandshakeOp.step HandshakeOp.call HandshakeOp.absorbed
  cases op with
  | write draws payload =>
      dsimp only
      rw [NoiseXxHandshake.writeMessage_run]
      by_cases hbig : payload.length > MAX_HANDSHAKE_MSG_BYTES
      · rw [if_pos hbig, if_pos hbig]
        exact h.refused
      rw [if_neg hbig, if_neg hbig]
      unfold NoiseXxHandshake.writeTurn
      generalize hrole : o.hs.role = role
      generalize hidx : o.hs.msgIdx = idx
      match role, idx with
      | .initiator, 0 => exact NoiseXxHandshake.writeMsg1_transcript hgcm hx h hrole hidx
      | .responder, 1 => exact NoiseXxHandshake.writeMsg2_transcript hgcm hx h hrole hidx
      | .initiator, 2 => exact NoiseXxHandshake.writeMsg3_transcript hgcm h hidx
      | .initiator, 1 | .initiator, 3 | .responder, 0 | .responder, 2 | .responder, 3 =>
          exact h.refused
  | read draws message =>
      dsimp only
      rw [NoiseXxHandshake.readMessage_run]
      by_cases hbig : message.length > MAX_HANDSHAKE_MSG_BYTES + 256
      · rw [if_pos hbig, if_pos hbig]
        exact h.refused
      rw [if_neg hbig, if_neg hbig]
      unfold NoiseXxHandshake.readTurn
      generalize hrole : o.hs.role = role
      generalize hidx : o.hs.msgIdx = idx
      match role, idx with
      | .responder, 0 => exact NoiseXxHandshake.readMsg1_transcript h hrole hidx
      | .initiator, 1 => exact NoiseXxHandshake.readMsg2_transcript hgcm hkem h hrole hidx
      | .responder, 2 => exact NoiseXxHandshake.readMsg3_transcript h hidx
      | .responder, 1 | .responder, 3 | .initiator, 0 | .initiator, 2 | .initiator, 3 =>
          exact h.refused

/-- The log of every run of a new object is true. -/
theorem observeRun_inv (hgcm : AesGcmLaws P) (hx : X25519Laws P) (hkem : MlKemLaws P)
    (role : Role) {identity : DeviceIdentityProvider} (hkeys : KeyLengths identity)
    (ops : List HandshakeOp) : TranscriptInv P (observeRun P role identity ops) := by
  induction ops using List.reverseRecOn with
  | nil =>
      have hidx : (0 : Fin 4) ≠ 1 := by decide
      refine ⟨rfl, Shape.fresh (fun x hx => nomatch hx), hkeys, ?_, ?_⟩
      · exact fun _ hone => absurd hone hidx
      · exact fun _ hone => absurd hone hidx
  | append_singleton ops op ih =>
      unfold observeRun
      rw [List.foldl_concat]
      exact ih.observe hgcm hx hkem op

end Steps

/-! ## The main result -/

theorem protocolName_length : PROTOCOL_NAME.length = 47 := by
  decide +kernel

/-- **The handshake hash binds the transcript.** Take two runs of new objects,
each with whatever calls in it, failing ones included, that both ended complete.
When SHA-256 is injective on what the two chains applied it to, equal final
hashes mean that both objects saw the same three messages, byte for byte. -/
theorem handshake_hash_binds_transcript {P : Primitives} (hgcm : AesGcmLaws P)
    (hx : X25519Laws P) (hkem : MlKemLaws P) (hsha : ∀ x, (P.sha256 x).length = 32)
    {role₁ role₂ : Role} {identity₁ identity₂ : DeviceIdentityProvider}
    (hkeys₁ : KeyLengths identity₁) (hkeys₂ : KeyLengths identity₂)
    {ops₁ ops₂ : List HandshakeOp}
    (hinj : Set.InjOn P.sha256
      {x | x ∈ (observeRun P role₁ identity₁ ops₁).hashed P ∨
        x ∈ (observeRun P role₂ identity₂ ops₂).hashed P})
    (hdone₁ : (handshakeRun P (.new P role₁ identity₁) ops₁).isComplete = true)
    (hdone₂ : (handshakeRun P (.new P role₂ identity₂) ops₂).isComplete = true)
    (heq : (handshakeRun P (.new P role₁ identity₁) ops₁).state.h =
      (handshakeRun P (.new P role₂ identity₂) ops₂).state.h) :
    (observeRun P role₁ identity₁ ops₁).wires = (observeRun P role₂ identity₂ ops₂).wires ∧
    (observeRun P role₁ identity₁ ops₁).wires.length = 3 := by
  have h₁ := observeRun_inv hgcm hx hkem role₁ hkeys₁ ops₁
  have h₂ := observeRun_inv hgcm hx hkem role₂ hkeys₂ ops₂
  rw [← observeRun_hs] at hdone₁ hdone₂ heq
  rw [← observeRun_hs, h₁.hash, h₂.hash] at heq
  have hshape₁ := h₁.shape
  have hshape₂ := h₂.shape
  rw [show _ = (3 : Fin 4) from beq_iff_eq.mp hdone₁] at hshape₁
  rw [show _ = (3 : Fin 4) from beq_iff_eq.mp hdone₂] at hshape₂
  refine ⟨?_, hshape₁.wires_length⟩
  rcases digest_inj hsha hinj heq with hlog | ⟨x, rest, hlog, hlen⟩ | ⟨x, rest, hlog, hlen⟩
  · exact (@Shape.unique₃ _ _ _ _ [] hshape₁ hshape₂ (by rw [hlog, List.append_nil])).1
  · -- one log would continue the other with a part of fifteen bytes
    have hnone := (hshape₁.unique₃ hshape₂ hlog).2 x List.mem_cons_self
    rw [protocolName_length] at hlen
    omega
  · have hnone := (hshape₂.unique₃ hshape₁ hlog).2 x List.mem_cons_self
    rw [protocolName_length] at hlen
    omega

def sampleMsg3 : Bytes :=
  (HandshakeOp.write (.sample 9) []).wire
    (handshakeRun .sample sampleInitiator [.write (.sample 5) [], .read (.sample 8) sampleMsg2])

def sampleInitiatorOps : List HandshakeOp :=
  [.write (.sample 5) [], .read (.sample 8) sampleMsg2, .write (.sample 9) []]

/-- The responder retries msg-1 once. -/
def sampleResponderOps : List HandshakeOp :=
  [.read (.sample 6) [1, 2, 3], .read (.sample 6) sampleMsg1, .write (.sample 7) [],
    .read (.sample 10) sampleMsg3]

/-- The two ends of the sample handshake saw the same three messages. -/
theorem sample_handshake_transcripts :
    (observeRun .sample .initiator sampleInitiator.identity sampleInitiatorOps).wires =
      (observeRun .sample .responder sampleResponder.identity sampleResponderOps).wires ∧
    (observeRun .sample .initiator sampleInitiator.identity sampleInitiatorOps).wires.length =
      3 := by
  have hkeys : ∀ ed x : Bytes, ed.length = 32 →
      KeyLengths (.ofKeys .sample ed x) := by
    intro ed x hed
    refine ⟨?_, ?_⟩
    · rintro k ⟨⟩
      exact hed
    · rintro k ⟨⟩
      exact sample_x25519Laws.publicKey_length x
  have hsame : (observeRun .sample .initiator sampleInitiator.identity
      sampleInitiatorOps).hashed .sample = (observeRun .sample .responder sampleResponder.identity
        sampleResponderOps).hashed .sample := by
    decide +kernel
  have hinj : ∀ x ∈ (observeRun .sample .initiator sampleInitiator.identity
      sampleInitiatorOps).hashed .sample, ∀ y ∈ (observeRun .sample .initiator
        sampleInitiator.identity sampleInitiatorOps).hashed .sample,
      Primitives.sample.sha256 x = Primitives.sample.sha256 y → x = y := by
    decide +kernel
  have hmem : ∀ x, x ∈ (observeRun .sample .initiator sampleInitiator.identity
      sampleInitiatorOps).hashed .sample ∨ x ∈ (observeRun .sample .responder
        sampleResponder.identity sampleResponderOps).hashed .sample →
      x ∈ (observeRun .sample .initiator sampleInitiator.identity
        sampleInitiatorOps).hashed .sample := by
    rintro x (hx | hx)
    · exact hx
    · rw [hsame]
      exact hx
  refine handshake_hash_binds_transcript sample_aesGcmLaws sample_x25519Laws sample_mlKemLaws
    (fun x => padTo_length _ _) (hkeys _ _ List.length_replicate)
    (hkeys _ _ List.length_replicate) ?_ (by decide +kernel) (by decide +kernel)
    (by decide +kernel)
  intro x hx y hy
  exact hinj x (hmem x hx) y (hmem y hy)

end Oxpulse.Crypto
