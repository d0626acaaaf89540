import Oxpulse.Foundation.Interleaving
import Oxpulse.Crypto.NoiseTranscript

/-!
# How long the handshake messages are

The calls on a handshake object may overlap. Whatever they do to each other, the
role stays, the keys have their documented lengths, and a cipher key that was
mixed in is never dropped (`Sized`, `Grows`). So the length of a message is known
when the call that writes it starts: 1216 bytes for msg-1 and msg-2, 96 for
msg-3, and the payload.
-/

namespace Oxpulse.Crypto

open Oxpulse.Coroutine

namespace NoiseXxHandshake

/-! ## What is kept -/

/-- The lengths of the keys an object holds, and when it has a cipher key. -/
structure Sized (hs : NoiseXxHandshake) : Prop where
  identity : KeyLengths hs.identity
  ePublic : ∀ e, hs.ePublic = some e → e.length = 32
  /-- On the responder, the key pair holds the ML-KEM ciphertext. -/
  ciphertext : hs.role = .responder →
    ∀ keypair, hs.mlkemKeypair = some keypair → keypair.publicKey.length = 1088
  plain : hs.role = .initiator → hs.msgIdx = 0 → hs.state.k = none
  keyed : hs.role = .initiator → hs.msgIdx = 2 → hs.state.k.isSome

/-- What no call undoes. -/
structure Grows (hs hs' : NoiseXxHandshake) : Prop where
  role : hs'.role = hs.role
  begun : hs.msgIdx ≠ 0 → hs'.msgIdx ≠ 0
  key : hs.state.k.isSome → hs'.state.k.isSome
  ePublic : hs.ePublic.isSome → hs'.ePublic.isSome

/-- The length of the message that an object in this state writes. -/
def messageSize (hs : NoiseXxHandshake) : ℕ :=
  match hs.role, hs.msgIdx with
  | .initiator, 2 => 96
  | _, _ => 1216

theorem Grows.refl (hs : NoiseXxHandshake) : Grows hs hs := ⟨rfl, id, id, id⟩

theorem Grows.trans {a b c : NoiseXxHandshake} (h : Grows a b) (h' : Grows b c) : Grows a c :=
  ⟨h'.role.trans h.role, h'.begun ∘ h.begun, h'.key ∘ h.key, h'.ePublic ∘ h.ePublic⟩

theorem sized_new (P : Primitives) (role : Role) {identity : DeviceIdentityProvider}
    (h : KeyLengths identity) : Sized (new P role identity) where
  identity := h
  ePublic := fun _ he => nomatch he
  ciphertext := fun _ _ hk => nomatch hk
  plain := fun _ _ => rfl
  keyed := fun _ h => nomatch h

/-- The symmetric state moved and still has its key. -/
theorem Sized.setState {hs : NoiseXxHandshake} {s : NoiseState} (h : Sized hs)
    (hk : s.k = hs.state.k) : Sized (setState s hs) ∧ Grows hs (setState s hs) := by
  constructor
  · exact ⟨h.identity, h.ePublic, h.ciphertext, fun hrole hidx => hk.trans (h.plain hrole hidx),
      fun hrole hidx => (congrArg Option.isSome hk).trans (h.keyed hrole hidx)⟩
  · exact ⟨rfl, id, fun hsome => (congrArg Option.isSome hk).trans hsome, id⟩

theorem mixKey_k (P : Primitives) (ikm : Bytes) (s : NoiseState) : (mixKey P ikm s).k.isSome := rfl

theorem Sized.mixKeyState {hs : NoiseXxHandshake} (P : Primitives) (ikm : Bytes) (h : Sized hs)
    (hturn : hs.role = .initiator → hs.msgIdx ≠ 0) :
    Sized (mixKeyState P ikm hs) ∧ Grows hs (mixKeyState P ikm hs) := by
  constructor
  · exact ⟨h.identity, h.ePublic, h.ciphertext,
      fun hrole hidx => absurd hidx (hturn hrole), fun _ _ => mixKey_k P ikm hs.state⟩
  · exact ⟨rfl, id, fun _ => mixKey_k P ikm hs.state, id⟩

/-! ## Triples -/

/-- From an object of known sizes, the coroutine keeps what is kept and returns
values that satisfy `Q`. -/
def Says {α : Type} (Q : α → Prop) (co : Co Unit NoiseXxHandshake JsError α)
    (hs : NoiseXxHandshake) : Prop :=
  (co hs).Sat Sized Grows Grows
    (fun hs' x => Sized hs' ∧ Grows hs hs' ∧ ∀ a, x = .ok a → Q a) hs

section Says

variable {α β : Type} {Q : α → Prop} {Qβ : β → Prop} {hs : NoiseXxHandshake}

theorem Says.value {a : α} (h : Sized hs) (hQ : Q a) : Says Q (pure a) hs := by
  refine ⟨.refl hs, h, .refl hs, fun b hb => ?_⟩
  cases hb
  exact hQ

theorem Says.ofExcept {x : Except JsError α} (h : Sized hs) (hQ : ∀ a, x = .ok a → Q a) :
    Says Q (Co.ofExcept x) hs := by
  cases x with
  | ok a => exact Says.value h (hQ a rfl)
  | error e => exact ⟨.refl hs, h, .refl hs, fun _ he => nomatch he⟩

theorem Says.assign {f : NoiseXxHandshake → NoiseXxHandshake} (h : Sized (f hs) ∧ Grows hs (f hs)) :
    Says (fun _ => True) (modify f) hs :=
  ⟨h.2, h.1, h.2, fun _ _ => trivial⟩

theorem Says.mono {Q' : α → Prop} {co : Co Unit NoiseXxHandshake JsError α} (h : Says Q co hs)
    (hQ : ∀ a, Q a → Q' a) : Says Q' co hs :=
  Outcome.Sat.mono (fun _ _ hG => hG) (fun _ _ ⟨hsized, hgrows, hx⟩ =>
    ⟨hsized, hgrows, fun a ha => hQ a (hx a ha)⟩) h

theorem Says.bind {co : Co Unit NoiseXxHandshake JsError α}
    {f : α → Co Unit NoiseXxHandshake JsError β} (h : Says Q co hs)
    (hf : ∀ hs' a, Sized hs' → Grows hs hs' → Q a → Says Qβ (f a) hs') : Says Qβ (co >>= f) hs := by
  refine Outcome.Sat.bind (fun a b (hG : Grows a b) => hG) (fun _ _ _ => Grows.trans) ?_ ?_ h
  · rintro hs' a ⟨hsized, hgrows, hQ⟩
    refine Outcome.Sat.mono (fun _ _ hG => hG) ?_ (hf hs' a hsized hgrows (hQ a rfl))
    exact fun _ _ ⟨hsized', hgrows', hx⟩ => ⟨hsized', hgrows.trans hgrows', hx⟩
  · exact fun _ e ⟨hsized, hgrows, _⟩ => ⟨hsized, hgrows, fun _ he => nomatch he⟩

theorem Says.ofExcept_bind {x : Except JsError α} {f : α → Co Unit NoiseXxHandshake JsError β}
    (h : Sized hs) (hf : ∀ a, x = .ok a → Says Qβ (f a) hs) : Says Qβ (Co.ofExcept x >>= f) hs := by
  cases x with
  | ok a => exact hf a rfl
  | error e => exact ⟨.refl hs, h, .refl hs, fun _ he => nomatch he⟩

theorem Says.orThrow_bind {e : JsError} {x : Option α} {f : α → Co Unit NoiseXxHandshake JsError β}
    (h : Sized hs) (hf : ∀ a, x = some a → Says Qβ (f a) hs) :
    Says Qβ (Co.orThrow e x >>= f) hs := by
  cases x with
  | some a => exact hf a rfl
  | none => exact ⟨.refl hs, h, .refl hs, fun _ he => nomatch he⟩

theorem Says.read {f : NoiseXxHandshake → Co Unit NoiseXxHandshake JsError β}
    (h : Says Qβ (f hs) hs) : Says Qβ (get >>= f) hs :=
  h

theorem Says.assign_bind {f : NoiseXxHandshake → NoiseXxHandshake}
    {co : PUnit → Co Unit NoiseXxHandshake JsError β} (h : Sized (f hs) ∧ Grows hs (f hs))
    (hco : Says Qβ (co ⟨⟩) (f hs)) : Says Qβ (modify f >>= co) hs := by
  refine Outcome.Sat.precede (fun _ hG => h.2.trans hG) (Outcome.Sat.mono (fun _ _ hG => hG) ?_ hco)
  exact fun _ _ ⟨hsized, hgrows, hx⟩ => ⟨hsized, h.2.trans hgrows, hx⟩

/-- The assignment at the end of a call. -/
theorem Says.finish {f : NoiseXxHandshake → NoiseXxHandshake} {a : α}
    (h : Sized (f hs) ∧ Grows hs (f hs)) (hQ : Q a) :
    Says Q (do modify f; return a : Co Unit NoiseXxHandshake JsError α) hs :=
  Says.assign_bind h (Says.value h.1 hQ)

theorem Says.await {co : Co Unit NoiseXxHandshake JsError α} (h : Says Q co hs) :
    Says Q (Co.await co) hs := by
  refine Outcome.Sat.later Grows.refl (fun _ _ hQ => hQ.1) ?_ h
  exact fun s s' x ⟨_, hgrows, hx⟩ hsized' hR => ⟨hsized', hgrows.trans hR, hx⟩

end Says

/-! ## The messages -/

section Messages

variable {P : Primitives} {hs : NoiseXxHandshake}

/-- The symmetric state seals with the key it has when the call starts. -/
theorem encryptAndHash_sat (hgcm : AesGcmLaws P) (pt : Bytes) (s : NoiseState) :
    (encryptAndHash P pt s : Outcome Unit _ JsError _).Sat (fun _ => True) (fun _ _ => True)
      (fun a b => b.k = a.k)
      (fun _ x => ∀ ct, x = .ok ct → ct.length = pt.length + if s.k.isSome then 16 else 0) s := by
  obtain ⟨ck, h, k, n⟩ := s
  cases k with
  | none =>
      refine ⟨rfl, fun ct hct => ?_⟩
      cases hct
      rfl
  | some k =>
      refine ⟨trivial, rfl, fun _ s₁ _ _ => ⟨trivial, rfl, fun _ s₂ _ _ => ⟨trivial, rfl,
        fun _ s₃ _ _ => ⟨rfl, fun ct hct => ?_⟩⟩⟩⟩
      cases hct
      exact hgcm.seal_length _ _ _ _

theorem decryptAndHash_sat (ct : Bytes) (s : NoiseState) :
    (decryptAndHash P ct s : Outcome Unit _ JsError _).Sat (fun _ => True) (fun _ _ => True)
      (fun a b => b.k = a.k) (fun _ _ => True) s := by
  obtain ⟨ck, h, k, n⟩ := s
  cases k with
  | none => exact ⟨rfl, trivial⟩
  | some k =>
      refine ⟨trivial, rfl, fun _ s₁ _ _ => ⟨trivial, rfl, fun _ s₂ _ _ => ?_⟩⟩
      show Outcome.Sat _ _ _ _ s₂ (((Co.orThrow JsError.library
        (P.aesGcmOpen k (nonceBytes n) h ct) s₂).later).bind _)
      cases P.aesGcmOpen k (nonceBytes n) h ct with
      | none => exact ⟨trivial, rfl, fun _ _ _ _ => ⟨rfl, trivial⟩⟩
      | some pt => exact ⟨trivial, rfl, fun _ _ _ _ => ⟨rfl, trivial⟩⟩

/-- A call on the symmetric state that leaves its key. -/
theorem says_onState {α : Type} {Q : α → Prop} {co : Co Unit NoiseState JsError α} (h : Sized hs)
    (hco : (co hs.state).Sat (fun _ => True) (fun _ _ => True) (fun a b => b.k = a.k)
      (fun _ x => ∀ a, x = .ok a → Q a) hs.state) : Says Q (onState co) hs := by
  refine Outcome.Sat.assume (U := Grows hs) (fun _ _ hgrows hR => hgrows.trans hR) ?_
  refine Outcome.Sat.zoom ?_ ?_ ?_ ?_ ⟨h, .refl hs⟩ hco
  · exact fun hs' s hs'' hk _ =>
      ⟨(hs''.1.setState hk).1, hs''.2.trans (hs''.1.setState hk).2⟩
  · exact fun _ _ _ _ _ _ _ => ⟨trivial, trivial⟩
  · exact fun hs' s hs'' hk => (hs''.1.setState hk).2
  · exact fun hs' s x hs'' hk hx =>
      ⟨(hs''.1.setState hk).1, hs''.2.trans (hs''.1.setState hk).2, hx⟩

theorem says_encrypt (hgcm : AesGcmLaws P) (pt : Bytes) (h : Sized hs) :
    Says (fun ct => ct.length = pt.length + if hs.state.k.isSome then 16 else 0)
      (Co.await (onState (encryptAndHash P pt))) hs :=
  (says_onState h (encryptAndHash_sat hgcm pt hs.state)).await

theorem says_decrypt (ct : Bytes) (h : Sized hs) :
    Says (fun _ => True) (Co.await (onState (decryptAndHash P ct))) hs :=
  (says_onState h ((decryptAndHash_sat ct hs.state).mono (fun _ _ hG => hG)
    fun _ _ _ _ _ => trivial)).await

theorem Sized.generateEphemeral (hx : X25519Laws P) (draws : NoiseDraws) (h : Sized hs) :
    Sized (generateEphemeral P draws hs) ∧ Grows hs (generateEphemeral P draws hs) := by
  constructor
  · refine ⟨h.identity, fun e he => ?_, h.ciphertext, h.plain, h.keyed⟩
    cases he
    exact hx.publicKey_length draws.eSecret
  · exact ⟨rfl, id, id, fun _ => rfl⟩

theorem Sized.learnEphemeral (rePublic : Bytes) (h : Sized hs) :
    Sized (learnEphemeral P rePublic hs) ∧ Grows hs (learnEphemeral P rePublic hs) :=
  ⟨⟨h.identity, h.ePublic, h.ciphertext, h.plain, h.keyed⟩, ⟨rfl, id, id, id⟩⟩

/-- The call moves on to message `idx`; the initiator has a key by msg-2. -/
theorem Sized.setIdx {idx : Fin 4} (h : Sized hs) (hidx : idx ≠ 0)
    (hkey : hs.role = .initiator → idx = 2 → hs.state.k.isSome) :
    Sized { hs with msgIdx := idx } ∧ Grows hs { hs with msgIdx := idx } :=
  ⟨⟨h.identity, h.ePublic, h.ciphertext, fun _ h0 => absurd h0 hidx, hkey⟩,
    ⟨rfl, fun _ => hidx, id, id⟩⟩

theorem ePublic_length (h : Sized hs) (he : hs.ePublic.isSome) :
    (hs.ePublic.getD []).length = 32 := by
  obtain ⟨e, heq⟩ := Option.isSome_iff_exists.mp he
  rw [heq]
  exact h.ePublic e heq

theorem says_writeMsg1 (hgcm : AesGcmLaws P) (hx : X25519Laws P) (draws : NoiseDraws)
    (payload : Bytes) (h : Sized hs) (hrole : hs.role = .initiator) (hidx : hs.msgIdx = 0) :
    Says (fun msg => msg.length = 1216 + payload.length) (writeMsg1 P draws payload) hs := by
  have hplain := h.plain hrole hidx
  have hgen := h.generateEphemeral hx draws
  refine Says.assign_bind hgen (Says.ofExcept_bind hgen.1 fun keypair hkeypair => ?_)
  have hpk := (generateMlkemKeypair_spec hkeypair).1
  have hkem : Sized { generateEphemeral P draws hs with mlkemKeypair := some keypair } := by
    refine ⟨hgen.1.identity, hgen.1.ePublic, fun hresp => ?_, hgen.1.plain, hgen.1.keyed⟩
    cases hrole.symm.trans hresp
  refine Says.assign_bind ⟨hkem, rfl, id, id, id⟩ ?_
  refine (says_encrypt hgcm _ hkem).bind fun hs₁ ct hsized hgrows hct => Says.read ?_
  have hct' : ct.length = 1184 + payload.length := by
    rw [hct, List.length_append, hpk, if_neg, Nat.add_zero]
    exact fun hsome => nomatch (congrArg Option.isSome hplain).symm.trans hsome
  refine Says.finish ?_ ?_
  · exact hsized.setIdx (by decide) fun _ h2 => absurd h2 (by decide)
  rw [List.length_append, ePublic_length hsized (hgrows.ePublic rfl), hct', ← Nat.add_assoc]

theorem says_readMsg1 (draws : NoiseDraws) (message : Bytes) (h : Sized hs)
    (hrole : hs.role = .responder) : Says (fun _ => True) (readMsg1 P draws message) hs := by
  unfold readMsg1
  split
  · exact Says.ofExcept (x := .error _) h fun _ he => nomatch he
  · have hlearn := h.learnEphemeral (P := P) (message.take 32)
    refine Says.assign_bind hlearn ((says_decrypt _ hlearn.1).bind fun hs₁ payload hsized hgrows _ => ?_)
    refine Says.ofExcept_bind hsized fun pair hpair => ?_
    obtain ⟨ciphertext, sharedSecret⟩ := pair
    have hrole₁ : hs₁.role = .responder := hgrows.role.trans hrole
    refine Says.finish ?_ trivial
    refine ⟨⟨hsized.identity, hsized.ePublic, fun _ keypair hkeypair => ?_, fun hinit => ?_,
      fun hinit => ?_⟩, ⟨rfl, fun _ => (by decide : (1 : Fin 4) ≠ 0), id, id⟩⟩
    · cases hkeypair
      exact encapsulate_spec hpair
    · cases hrole₁.symm.trans hinit
    · cases hrole₁.symm.trans hinit

theorem says_staticPayload (h : Sized hs) :
    Says (fun keys => keys.length = 64) staticPayload hs := by
  refine Says.read (Says.bind (Q := fun k : Bytes => k.length = 32)
    (Says.ofExcept h fun _ hk => h.identity.publicKey _ hk).await fun hs₁ sPub hsized _ hpub => ?_)
  refine Says.bind (Q := fun k : Bytes => k.length = 32)
    (Says.ofExcept hsized fun _ hk => h.identity.x25519PublicKey _ hk).await
    fun hs₂ sX25519Pub hsized₂ _ hx => Says.value hsized₂ ?_
  rw [List.length_append, hpub, hx]

theorem says_staticDh (rePublic : Bytes) (h : Sized hs)
    (hturn : hs.role = .initiator → hs.msgIdx ≠ 0) :
    Says (fun _ => True) (staticDh P rePublic) hs := by
  refine Says.read (Says.bind (Q := fun _ => True)
    (Says.ofExcept h fun _ _ => trivial).await fun hs₁ dh hsized hgrows _ => ?_)
  exact Says.assign (hsized.mixKeyState P dh fun hrole =>
    hgrows.begun (hturn (hgrows.role.symm.trans hrole)))

theorem says_writeMsg2 (hgcm : AesGcmLaws P) (hx : X25519Laws P) (draws : NoiseDraws)
    (payload : Bytes) (h : Sized hs) (hrole : hs.role = .responder) :
    Says (fun msg => msg.length = 1216 + payload.length) (writeMsg2 P draws payload) hs := by
  have hturn : ∀ {hs' : NoiseXxHandshake}, Grows hs hs' → hs'.role = .initiator →
      hs'.msgIdx ≠ 0 := by
    intro hs' hgrows hinit
    cases (hgrows.role.trans hrole).symm.trans hinit
  refine Says.read (Says.orThrow_bind h fun rePublic _ => Says.orThrow_bind h fun kem hkem =>
    Says.orThrow_bind h fun _ _ => ?_)
  have hgen := h.generateEphemeral hx draws
  refine Says.assign_bind hgen (Says.ofExcept_bind hgen.1 fun ee _ => ?_)
  have hmix := hgen.1.mixKeyState P ee (hturn hgen.2)
  refine Says.assign_bind hmix ((says_staticPayload hmix.1).bind fun hs₁ keys h₁ g₁ hkeys => ?_)
  have hkey₁ : hs₁.state.k.isSome := g₁.key (mixKey_k P ee _)
  have g₁' : Grows hs hs₁ := (hgen.2.trans hmix.2).trans g₁
  refine (says_encrypt hgcm keys h₁).bind fun hs₂ sCt h₂ g₂ hsCt => ?_
  refine (says_staticDh rePublic h₂ (hturn (g₁'.trans g₂))).bind fun hs₃ _ h₃ g₃ _ => ?_
  have g₃' : Grows hs₁ hs₃ := g₂.trans g₃
  refine Says.read ((says_encrypt hgcm _ h₃).bind fun hs₄ ctPayload h₄ g₄ hct => Says.read ?_)
  refine Says.finish ?_ ?_
  · refine h₄.setIdx (by decide) fun hinit _ => ?_
    cases ((((g₁'.trans g₃').trans g₄).role.trans hrole).symm.trans hinit)
  · have hkem₃ : (hs₃.mlkemKeypair.getD kem).publicKey.length = 1088 := by
      have hrole₃ : hs₃.role = .responder := (g₁'.trans g₃').role.trans hrole
      cases hk : hs₃.mlkemKeypair with
      | none => exact h.ciphertext hrole kem hkem
      | some keypair => exact h₃.ciphertext hrole₃ keypair hk
    rw [if_pos hkey₁, hkeys] at hsCt
    rw [if_pos (g₃'.key hkey₁), List.length_append, hkem₃] at hct
    rw [List.length_append, List.length_append,
      ePublic_length h₄ ((g₃'.trans g₄).ePublic (g₁.ePublic rfl)), hsCt, hct]
    omega

theorem says_readStatic (eSecret sCt : Bytes) (h : Sized hs)
    (hturn : hs.role = .initiator → hs.msgIdx ≠ 0) :
    Says (fun _ => True) (readStatic P eSecret sCt) hs := by
  refine (says_decrypt sCt h).bind fun hs₁ sPayload h₁ g₁ _ => ?_
  have hlearn : Sized { hs₁ with
      rsPublic := some (sPayload.take 32)
      rsX25519Public := some ((sPayload.drop 32).take 32) } :=
    ⟨h₁.identity, h₁.ePublic, h₁.ciphertext, h₁.plain, h₁.keyed⟩
  refine Says.assign_bind ⟨hlearn, rfl, id, id, id⟩ (Says.read (Says.ofExcept_bind hlearn ?_))
  intro dh _
  exact Says.assign (hlearn.mixKeyState P dh fun hinit =>
    g₁.begun (hturn (g₁.role.symm.trans hinit)))

theorem says_readMsg2 (message : Bytes) (h : Sized hs) (hidx : hs.msgIdx ≠ 0) :
    Says (fun _ => True) (readMsg2 P message) hs := by
  refine Says.read (Says.orThrow_bind h fun eSecret _ => Says.orThrow_bind h fun kem _ => ?_)
  have hlearn := h.learnEphemeral (P := P) (message.take 32)
  refine Says.assign_bind hlearn (Says.ofExcept_bind hlearn.1 fun ee _ => ?_)
  have hmix := hlearn.1.mixKeyState P ee fun _ => hlearn.2.begun hidx
  refine Says.assign_bind hmix ((says_readStatic eSecret _ hmix.1 fun _ =>
    (hlearn.2.trans hmix.2).begun hidx).bind fun hs₁ _ h₁ g₁ _ => ?_)
  refine (says_decrypt _ h₁).bind fun hs₂ payload h₂ g₂ _ => Says.read ?_
  refine Says.ofExcept_bind h₂ fun mlkemSharedSecret _ => Says.finish ?_ trivial
  have hkey : hs₂.state.k.isSome := (g₁.trans g₂).key (mixKey_k P ee _)
  exact ⟨⟨h₂.identity, h₂.ePublic, h₂.ciphertext, fun _ h0 => (nomatch h0), fun _ _ => hkey⟩,
    ⟨rfl, fun _ h0 => (nomatch h0), id, id⟩⟩

theorem says_writeMsg3 (hgcm : AesGcmLaws P) (payload : Bytes) (h : Sized hs)
    (hrole : hs.role = .initiator) (hidx : hs.msgIdx = 2) :
    Says (fun msg => msg.length = 96 + payload.length) (writeMsg3 P payload) hs := by
  have hkey := h.keyed hrole hidx
  have hbegun : hs.msgIdx ≠ 0 := by
    rw [hidx]
    decide
  refine Says.read (Says.orThrow_bind h fun eSecret _ => Says.orThrow_bind h fun rePublic _ => ?_)
  refine (says_staticPayload h).bind fun hs₁ keys h₁ g₁ hkeys => ?_
  refine (says_encrypt hgcm keys h₁).bind fun hs₂ sCt h₂ g₂ hsCt => ?_
  refine (says_staticDh rePublic h₂ fun _ => (g₁.trans g₂).begun hbegun).bind
    fun hs₃ _ h₃ g₃ _ => ?_
  refine (says_encrypt hgcm payload h₃).bind fun hs₄ ctPayload h₄ g₄ hct => Says.finish ?_ ?_
  · exact h₄.setIdx (by decide) fun _ h3 => absurd h3 (by decide)
  · rw [if_pos (g₁.key hkey), hkeys] at hsCt
    rw [if_pos (((g₁.trans g₂).trans g₃).key hkey)] at hct
    rw [List.length_append, hsCt, hct]
    omega

theorem says_readMsg3 (message : Bytes) (h : Sized hs) (hrole : hs.role = .responder) :
    Says (fun _ => True) (readMsg3 P message) hs := by
  refine Says.read (Says.orThrow_bind h fun eSecret _ => ?_)
  refine (says_readStatic eSecret _ h fun hinit => nomatch hrole.symm.trans hinit).bind
    fun hs₁ _ h₁ g₁ _ => ?_
  refine (says_decrypt _ h₁).bind fun hs₂ payload h₂ g₂ _ => Says.finish ?_ trivial
  exact h₂.setIdx (by decide) fun _ h3 => absurd h3 (by decide)

theorem says_writeTurn (hgcm : AesGcmLaws P) (hx : X25519Laws P) (draws : NoiseDraws)
    (payload : Bytes) (h : Sized hs) :
    Says (fun msg => msg.length = messageSize hs + payload.length)
      (writeTurn P draws payload hs) hs := by
  unfold writeTurn messageSize
  cases hrole : hs.role with
  | initiator =>
      match hidx : hs.msgIdx with
      | 0 => exact says_writeMsg1 hgcm hx draws payload h hrole hidx
      | 1 => exact Says.ofExcept (x := .error _) h fun _ he => nomatch he
      | 2 => exact says_writeMsg3 hgcm payload h hrole hidx
      | 3 => exact Says.ofExcept (x := .error _) h fun _ he => nomatch he
  | responder =>
      match hidx : hs.msgIdx with
      | 0 => exact Says.ofExcept (x := .error _) h fun _ he => nomatch he
      | 1 => exact says_writeMsg2 hgcm hx draws payload h hrole
      | 2 => exact Says.ofExcept (x := .error _) h fun _ he => nomatch he
      | 3 => exact Says.ofExcept (x := .error _) h fun _ he => nomatch he

theorem says_readTurn (draws : NoiseDraws) (message : Bytes) (h : Sized hs) :
    Says (fun _ => True) (readTurn P draws message hs) hs := by
  unfold readTurn
  split
  · next hrole hidx => exact says_readMsg1 draws message h hrole
  · next hrole hidx =>
      refine says_readMsg2 message h ?_
      rw [hidx]
      decide
  · next hrole hidx => exact says_readMsg3 message h hrole
  · exact Says.ofExcept (x := .error _) h fun _ he => nomatch he

/-- **Each call keeps the sizes**, and a message is as long as the object says
when the call starts. -/
theorem says_call (hgcm : AesGcmLaws P) (hx : X25519Laws P) (op : HandshakeOp) (h : Sized hs) :
    Says (fun msg => ∀ draws payload, op = .write draws payload →
      msg.length = messageSize hs + payload.length) (op.call P) hs := by
  cases op with
  | write draws payload =>
      refine Says.mono (Q := fun msg => msg.length = messageSize hs + payload.length) ?_ ?_
      · show Says _ (writeMessage P draws payload) hs
        unfold writeMessage
        refine Says.read ?_
        split
        · exact Says.ofExcept (x := .error _) h fun _ he => nomatch he
        · exact says_writeTurn hgcm hx draws payload h
      · intro msg hmsg _ _ heq
        cases heq
        exact hmsg
  | read draws message =>
      refine Says.mono (Q := fun _ => True) ?_ fun _ _ _ _ heq => nomatch heq
      show Says _ (readMessage P draws message) hs
      unfold readMessage
      refine Says.read ?_
      split
      · exact Says.ofExcept (x := .error _) h fun _ he => nomatch he
      · exact says_readTurn draws message h

end Messages

end NoiseXxHandshake

/-! ## Calls that overlap -/

/-- The calls on one handshake object, as a schedule interleaves them. -/
abbrev HandshakePool : Type := Pool HandshakeOp Unit NoiseXxHandshake JsError Bytes

/-- The pool a schedule of calls leaves. -/
def overlapRun (P : Primitives) (hs : NoiseXxHandshake) (ms : List (Move HandshakeOp Unit)) :
    HandshakePool :=
  (Pool.fresh hs).exec (HandshakeOp.call P) ms

/-- **The length of a message** is what the object says when its call starts,
whatever calls overlap with it. -/
theorem message_length {P : Primitives} (hgcm : AesGcmLaws P) (hx : X25519Laws P) {role : Role}
    {identity : DeviceIdentityProvider} (hkeys : KeyLengths identity)
    {pre post : List (Move HandshakeOp Unit)} {draws : NoiseDraws} {payload msg : Bytes}
    (hcall : (overlapRun P (.new P role identity)
      (pre ++ .start (.write draws payload) :: post)).calls[(starts pre).length]? =
        some ⟨.write draws payload, .settled (.ok msg)⟩) :
    msg.length =
      (overlapRun P (.new P role identity) pre).shared.messageSize + payload.length := by
  -- What call `i` leaves speaks of the state at its start.
  let Q : ℕ → HandshakeOp → NoiseXxHandshake → Except JsError Bytes → Prop := fun i op hs x =>
    hs.Sized ∧ ∀ pre' post' msg', pre ++ .start (.write draws payload) :: post =
        pre' ++ .start op :: post' → (starts pre').length = i → x = .ok msg' →
      ∀ draws' payload', op = .write draws' payload' → msg'.length =
        (overlapRun P (.new P role identity) pre').shared.messageSize + payload'.length
  have hbody : ∀ pre₁ op post₁, pre ++ .start (.write draws payload) :: post =
        pre₁ ++ .start op :: post₁ → (overlapRun P (.new P role identity) pre₁).shared.Sized →
      (op.call P (overlapRun P (.new P role identity) pre₁).shared).Sat NoiseXxHandshake.Sized
        NoiseXxHandshake.Grows NoiseXxHandshake.Grows
        (Q (overlapRun P (.new P role identity) pre₁).calls.length op)
        (overlapRun P (.new P role identity) pre₁).shared := by
    intro pre₁ op post₁ heq hsized
    refine Outcome.Sat.mono (fun _ _ hG => hG) ?_ (NoiseXxHandshake.says_call hgcm hx op hsized)
    rintro hs x ⟨hsized', -, hx'⟩
    refine ⟨hsized', fun pre' post' msg' heq' hlen hok draws' payload' hop => ?_⟩
    have hargs : (overlapRun P (.new P role identity) pre₁).calls.length = (starts pre₁).length :=
      Pool.exec_length pre₁
    have hpre : pre₁ = pre' := starts_split_unique (heq.symm.trans heq') (hargs.symm.trans hlen.symm)
    subst hpre
    exact hx' msg' hok draws' payload' hop
  have hkept := Pool.exec_kept (Q := Q) NoiseXxHandshake.Grows.refl
    (fun _ _ _ => NoiseXxHandshake.Grows.trans) (fun _ _ _ _ h => h.1)
    (NoiseXxHandshake.sized_new P role hkeys) (pre ++ .start (.write draws payload) :: post) hbody
  obtain ⟨hs, hQ, -⟩ := hkept.2 _ _ _ hcall
  exact hQ.2 pre post msg rfl rfl rfl draws payload rfl

end Oxpulse.Crypto
