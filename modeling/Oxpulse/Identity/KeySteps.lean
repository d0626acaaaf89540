import Oxpulse.Identity.Requests

/-!
# What the key operations yield

The operations on keys touch no state. `Evaluates V` says so, and what they end
in: whatever the others do meanwhile, the outcome is the one the inputs decide.
-/

namespace Oxpulse.Identity

open Oxpulse.Coroutine Oxpulse.Crypto

/-- **No state is touched**, and the outcome is in `V`. -/
def Evaluates {α : Type} (V : Except IdentityError α → Prop) (co : TabCo α) : Prop :=
  ∀ t, Co.Triple (fun _ _ => True) (fun t t' => t' = t) (fun _ x => V x) co t

section

variable {P : IdentityPrimitives} {env : Runtime} {R G : Tab → Tab → Prop} {J : Tab → Prop}
  {t : Tab} {α β : Type} {V V' : Except IdentityError α → Prop} {co : TabCo α}

/-! ## Rules -/

theorem evaluates_sat (hG : Guarantee env G) (hJ : ∀ t t', J t → R t t' → J t') :
    ∀ {o : Outcome PlatformReply Tab IdentityError α} {t : Tab}, J t →
      o.Sat (fun _ => True) (fun _ _ => True) (fun t t' => t' = t) (fun _ x => V x) t →
      o.Sat (fun _ => True) R G (fun t x => J t ∧ V x) t
  | .ret t _, _, hJt, ⟨rfl, hV⟩ => ⟨hG.refl t, hJt, hV⟩
  | .throw t _, _, hJt, ⟨rfl, hV⟩ => ⟨hG.refl t, hJt, hV⟩
  | .await t _, _, hJt, ⟨_, rfl, hk⟩ =>
      ⟨trivial, hG.refl t, fun r t' _ hR =>
        evaluates_sat hG hJ (hJ t t' hJt hR) (hk r t' trivial trivial)⟩

theorem Evaluates.triple (h : Evaluates V co) (hG : Guarantee env G)
    (hJ : ∀ t t', J t → R t t' → J t') (ht : J t) :
    Co.Triple R G (fun t x => J t ∧ V x) co t :=
  evaluates_sat hG hJ ht (h t)

/-- An operation on keys, and what follows it. -/
theorem Evaluates.bind_triple {Q : Tab → Except IdentityError β → Prop} {f : α → TabCo β}
    (h : Evaluates V co) (hG : Guarantee env G) (hJ : ∀ t t', J t → R t t' → J t') (ht : J t)
    (hok : ∀ a t', V (.ok a) → J t' → Co.Triple R G Q (f a) t')
    (herr : ∀ e t', V (.error e) → J t' → Q t' (.error e)) :
    Co.Triple R G Q (co >>= f) t :=
  (h.triple hG hJ ht).bind hG.trans (fun t' a hV => hok a t' hV.2 hV.1)
    fun t' e hV => herr e t' hV.2 hV.1

theorem Evaluates.mono (h : Evaluates V co) (hV : ∀ x, V x → V' x) : Evaluates V' co :=
  fun t => (h t).mono fun _ x => hV x

theorem evaluates_pure {a : α} (h : V (.ok a)) : Evaluates V (pure a : TabCo α) :=
  fun _ => ⟨rfl, h⟩

theorem evaluates_throw {e : IdentityError} (h : V (.error e)) :
    Evaluates V (throw e : TabCo α) :=
  fun _ => ⟨rfl, h⟩

theorem Evaluates.bind {V' : Except IdentityError β → Prop} {f : α → TabCo β}
    (h : Evaluates V co) (hok : ∀ a, V (.ok a) → Evaluates V' (f a))
    (herr : ∀ e, V (.error e) → V' (.error e)) : Evaluates V' (co >>= f) := by
  intro t
  refine (h t).bind ?_ (fun t' a hV => hok a hV t') fun _ e hV => herr e hV
  rintro _ _ _ rfl rfl
  rfl

theorem evaluates_suspend {f : PlatformReply → TabCo β} {V' : Except IdentityError β → Prop}
    (h : ∀ r, Evaluates V' (f r)) : Evaluates V' (Co.suspend >>= f) :=
  fun _ => ⟨trivial, rfl, fun r t' _ _ => h r t'⟩

theorem Evaluates.attempt (h : Evaluates V co) :
    Evaluates (fun x => ∃ y, x = .ok y ∧ V y) (Co.attempt co) :=
  fun t => Outcome.Sat.attempt (fun _ y hV => ⟨y, rfl, hV⟩) (h t)

/-- A missing value is the error. -/
def orError (e : IdentityError) : Option α → Except IdentityError α
  | some a => .ok a
  | none => .error e

theorem evaluates_orThrow {e : IdentityError} {o : Option α} :
    Evaluates (fun x => x = orError e o) (Co.orThrow e o : TabCo α) := by
  cases o with
  | some a => exact evaluates_pure rfl
  | none => exact evaluates_throw rfl

/-- An outcome, when the operation may be missing on the runtime. -/
def toleratedUnsupported : Except IdentityError α → Except IdentityError (Option α)
  | .ok a => .ok (some a)
  | .error .notSupported => .ok none
  | .error e => .error e

theorem Evaluates.unlessNotSupported (h : Evaluates V co) :
    Evaluates (fun x => ∃ y, V y ∧ x = toleratedUnsupported y) (unlessNotSupported co) := by
  refine h.attempt.bind ?_ ?_
  · rintro x ⟨y, hy, hV⟩
    cases hy
    cases x with
    | ok a => exact evaluates_pure ⟨_, hV, rfl⟩
    | error e =>
        cases e
        case notSupported => exact evaluates_pure ⟨_, hV, rfl⟩
        all_goals exact evaluates_throw ⟨_, hV, rfl⟩
  · rintro e ⟨y, hy, -⟩
    cases hy

/-! ## WebCrypto and AES-KW -/

/-- The outcome of an operation that the runtime may lack. -/
def whenSupported (supported : Bool) (x : Except IdentityError α) : Except IdentityError α :=
  if supported then x else .error .notSupported

theorem draw_evaluates : Evaluates (fun x => ∃ bytes, x = .ok bytes) draw :=
  evaluates_suspend fun r => evaluates_pure ⟨r.random, rfl⟩

theorem importPkcs8_evaluates {supported : Bool} {header pkcs8 : Bytes} :
    Evaluates (fun x => x = whenSupported supported (orError .data (pkcs8Secret env header pkcs8)))
      (importPkcs8 env supported header pkcs8) := by
  refine evaluates_suspend fun _ => ?_
  cases supported with
  | true => exact evaluates_orThrow
  | false => exact evaluates_throw rfl

theorem importPublicKey_evaluates {supported : Bool} {bytes : Bytes} :
    Evaluates (fun x => x = whenSupported supported
        (if bytes.length = 32 then .ok bytes else .error .data))
      (importPublicKey supported bytes) := by
  refine evaluates_suspend fun _ => ?_
  cases supported with
  | true =>
      by_cases hlength : bytes.length = 32
      · simp only [hlength, if_true]
        exact evaluates_pure rfl
      · simp only [hlength, if_true, if_false]
        exact evaluates_throw rfl
  | false => exact evaluates_throw rfl

/-- The outcome of an operation with a key that the platform takes for it, or not. -/
def whenTaken (taken : Bool) (x : Except IdentityError α) : Except IdentityError α :=
  if taken then x else .error .data

theorem wrapPkcs8_outcome {header secret : Bytes} {kek : CryptoKey} :
    Evaluates (fun x => x = whenTaken kek.wraps (.ok (P.aesKwWrap kek.raw (header ++ secret))))
      (wrapPkcs8 P header secret kek) := by
  refine evaluates_suspend fun _ => ?_
  cases kek.wraps with
  | true => exact evaluates_pure rfl
  | false => exact evaluates_throw rfl

theorem wrapPkcs8_evaluates {header secret : Bytes} {kek : CryptoKey}
    (hwraps : kek.wraps = true) :
    Evaluates (fun x => x = .ok (P.aesKwWrap kek.raw (header ++ secret)))
      (wrapPkcs8 P header secret kek) := by
  refine wrapPkcs8_outcome.mono ?_
  rintro x rfl
  rw [hwraps]
  rfl

/-- The secret of a wrapped PKCS#8 envelope. -/
def openPkcs8 (P : IdentityPrimitives) (env : Runtime) (header wrapped : Bytes) (kek : CryptoKey) :
    Except IdentityError Bytes :=
  match P.aesKwUnwrap kek.raw wrapped with
  | some pkcs8 => orError .data (pkcs8Secret env header pkcs8)
  | none => .error .operation

theorem unwrapPkcs8_outcome {supported : Bool} {header wrapped : Bytes} {kek : CryptoKey} :
    Evaluates (fun x => x = whenTaken kek.genuine (whenSupported supported
        (whenTaken kek.unwraps (openPkcs8 P env header wrapped kek))))
      (unwrapPkcs8 P env supported header wrapped kek) := by
  refine evaluates_suspend fun _ => ?_
  cases kek.genuine with
  | false => exact evaluates_throw rfl
  | true =>
      cases supported with
      | false => exact evaluates_throw rfl
      | true =>
          cases kek.unwraps with
          | false => exact evaluates_throw rfl
          | true =>
              simp only [whenTaken, whenSupported, openPkcs8, if_true]
              cases P.aesKwUnwrap kek.raw wrapped with
              | some pkcs8 => exact evaluates_orThrow
              | none => exact evaluates_throw rfl

theorem unwrapPkcs8_evaluates {supported : Bool} {header wrapped : Bytes} {kek : CryptoKey}
    (hunwraps : kek.unwraps = true) :
    Evaluates (fun x => x = whenSupported supported (openPkcs8 P env header wrapped kek))
      (unwrapPkcs8 P env supported header wrapped kek) := by
  refine unwrapPkcs8_outcome.mono ?_
  rintro x rfl
  rw [genuine_of_unwraps hunwraps, hunwraps]
  rfl

theorem wrapSecretBytes_outcome {kek : CryptoKey} {rawBytes : Bytes}
    (hlength : 16 ≤ rawBytes.length ∧ rawBytes.length % 8 = 0) :
    Evaluates (fun x => x = whenTaken kek.wraps (.ok (P.aesKwWrap kek.raw rawBytes)))
      (wrapSecretBytes P kek rawBytes) := by
  have hcond : ¬ (rawBytes.length < 16 ∨ rawBytes.length % 8 ≠ 0) := by omega
  simp only [wrapSecretBytes, hcond, if_false]
  refine evaluates_suspend fun _ => evaluates_suspend fun _ => ?_
  cases kek.wraps with
  | true => exact evaluates_pure rfl
  | false => exact evaluates_throw rfl

theorem wrapKey32_outcome {kek : CryptoKey} {secret : Key32} :
    Evaluates (fun x => x = whenTaken kek.wraps (.ok (P.aesKwWrap kek.raw secret.bytes)))
      (wrapSecretBytes P kek secret.bytes) :=
  wrapSecretBytes_outcome (by rw [secret.size]; decide)

theorem wrapSecretBytes_evaluates {kek : CryptoKey} {rawBytes : Bytes} (hwraps : kek.wraps = true)
    (hlength : 16 ≤ rawBytes.length ∧ rawBytes.length % 8 = 0) :
    Evaluates (fun x => x = .ok (P.aesKwWrap kek.raw rawBytes))
      (wrapSecretBytes P kek rawBytes) := by
  refine (wrapSecretBytes_outcome hlength).mono ?_
  rintro x rfl
  rw [hwraps]
  rfl

theorem wrapKey32_evaluates {kek : CryptoKey} {secret : Key32} (hwraps : kek.wraps = true) :
    Evaluates (fun x => x = .ok (P.aesKwWrap kek.raw secret.bytes))
      (wrapSecretBytes P kek secret.bytes) :=
  wrapSecretBytes_evaluates hwraps (by rw [secret.size]; decide)

theorem unwrapSecretBytes_outcome {kek : CryptoKey} {wrapped : Bytes} :
    Evaluates (fun x => x = whenTaken kek.unwraps
        (orError .operation (P.aesKwUnwrap kek.raw wrapped)))
      (unwrapSecretBytes P kek wrapped) := by
  refine evaluates_suspend fun _ => ?_
  cases kek.unwraps with
  | false => exact evaluates_throw rfl
  | true =>
      simp only [whenTaken, if_true]
      cases P.aesKwUnwrap kek.raw wrapped with
      | some rawBytes => exact evaluates_suspend fun _ => evaluates_pure rfl
      | none => exact evaluates_throw rfl

theorem unwrapSecretBytes_evaluates {kek : CryptoKey} {wrapped : Bytes}
    (hunwraps : kek.unwraps = true) :
    Evaluates (fun x => x = orError .operation (P.aesKwUnwrap kek.raw wrapped))
      (unwrapSecretBytes P kek wrapped) := by
  refine unwrapSecretBytes_outcome.mono ?_
  rintro x rfl
  rw [hunwraps]
  rfl

/-- A key that may not unwrap is refused. -/
theorem unwrapSecretBytes_refused {kek : CryptoKey} {wrapped : Bytes}
    (hrefused : kek.unwraps = false) :
    Evaluates (fun x => ∃ e, x = .error e) (unwrapSecretBytes P kek wrapped) := by
  refine unwrapSecretBytes_outcome.mono ?_
  rintro x rfl
  rw [hrefused]
  exact ⟨_, rfl⟩

theorem generateAesKwKey_evaluates {extractable : Bool} :
    Evaluates (fun x => ∃ raw : Key32, x = .ok (aesKwKey extractable raw.bytes))
      (generateAesKwKey extractable) :=
  evaluates_suspend fun r => evaluates_pure ⟨r.random, rfl⟩

theorem importAesKwRaw_evaluates {bytes : Bytes} {extractable : Bool} :
    Evaluates (fun x => x = if bytes.length ∈ [16, 24, 32] then
        .ok (aesKwKey extractable bytes) else .error .data)
      (importAesKwRaw bytes extractable) := by
  refine evaluates_suspend fun _ => ?_
  by_cases hlength : bytes.length ∈ [16, 24, 32]
  · simp only [hlength, if_true]
    exact evaluates_pure rfl
  · simp only [hlength, if_false]
    exact evaluates_throw rfl

/-- A handle is the key that the entry opens. -/
theorem handle_evaluates {entry : KekEntry} :
    Evaluates (fun x => (∃ key, x = .ok key ∧ entry.Opens key) ∨
        (x = .error .data ∧ ∀ key, ¬ entry.Opens key)) entry.handle := by
  cases entry with
  | raw bytes =>
      refine importAesKwRaw_evaluates.mono ?_
      rintro x rfl
      by_cases hlength : bytes.length ∈ [16, 24, 32]
      · rw [if_pos hlength]
        exact Or.inl ⟨_, rfl, hlength, rfl⟩
      · rw [if_neg hlength]
        exact Or.inr ⟨rfl, fun key hkey => hlength hkey.1⟩
  | key handle => exact evaluates_pure (Or.inl ⟨handle, rfl, rfl⟩)

/-! ## Identities -/

/-- **A whole identity** with this seed, as this runtime holds one. -/
structure Whole (P : IdentityPrimitives) (env : Runtime) (seed : Key32) (d : DeviceIdentity) :
    Prop where
  publicKeyB64 : d.publicKeyB64 = toBase64url (P.ed25519PublicKey seed).bytes
  privateKeySeed : d.privateKeySeed = some seed.bytes
  privateKey : d.privateKey = if env.ed25519 then some seed.bytes else none

theorem generateDeviceIdentity_evaluates :
    Evaluates (fun x => ∃ seed d, x = .ok d ∧ Whole P env seed d)
      (generateDeviceIdentity P env) := by
  refine draw_evaluates.bind ?_ (fun e h => ?_)
  · rintro seed -
    have hhandles : Evaluates (fun x => x = whenSupported env.ed25519
        (.ok (seed.bytes, (P.ed25519PublicKey seed).bytes)))
        (do
          let privateKey ←
            importPkcs8 env env.ed25519 ED25519_PKCS8_PREFIX (ED25519_PKCS8_PREFIX ++ seed.bytes)
          let publicKey ← importPublicKey env.ed25519 (P.ed25519PublicKey seed).bytes
          return (privateKey, publicKey)) := by
      refine importPkcs8_evaluates.bind ?_ ?_
      · intro privateKey h
        rw [pkcs8Secret_ed25519] at h
        cases hed : env.ed25519 with
        | false => rw [hed] at h; cases h
        | true =>
            rw [hed] at h
            cases h
            refine importPublicKey_evaluates.bind ?_ ?_
            · intro publicKey h
              rw [if_pos (P.ed25519PublicKey seed).size] at h
              cases h
              exact evaluates_pure rfl
            · intro e h
              rw [if_pos (P.ed25519PublicKey seed).size] at h
              cases h
      · intro e h
        rw [pkcs8Secret_ed25519] at h
        cases hed : env.ed25519 with
        | false => rw [hed] at h; cases h; rfl
        | true => rw [hed] at h; cases h
    refine hhandles.unlessNotSupported.bind ?_ ?_
    · rintro handles ⟨y, rfl, h⟩
      refine evaluates_pure ⟨seed, _, rfl, rfl, rfl, ?_⟩
      cases hed : env.ed25519 with
      | false => rw [hed] at h; cases h; rfl
      | true => rw [hed] at h; cases h; rfl
    · rintro e ⟨y, rfl, h⟩
      cases hed : env.ed25519 with
      | false => rw [hed] at h; cases h
      | true => rw [hed] at h; cases h
  · obtain ⟨_, h⟩ := h
    cases h

end

end Oxpulse.Identity
