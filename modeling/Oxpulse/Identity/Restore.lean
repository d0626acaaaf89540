import Oxpulse.Identity.Backup

/-!
# Restore, and the round trip

A restore leaves a pair of the secret under the wrapping key of the device, whatever
the device held before: from then on every call, in this session and in every later
one, agrees on the identity. The round trip therefore fails exactly where the export
does.
-/

namespace Oxpulse.Identity

open Oxpulse.Coroutine Oxpulse.Crypto

/-- **A restored device**: the pair under the key that resolves, in a form this
runtime can export. -/
structure Restored (P : IdentityPrimitives) (env : Runtime) (key : CryptoKey) (seed : Key32)
    (stored : StoredIdentity) (t : Tab) : Prop where
  idle : Idle t
  pair : Pair P key.raw seed stored t.storage
  ready : KekReady env key t
  opens : env.ed25519 = true ∨ stored.wrappedPrivateKey = []
  cached : ∀ d, t.session.cachedIdentity = some d → IsIdentity stored.publicKeyB64 seed d

/-- The key that the Ed25519 import makes of a restored secret. -/
def imported (env : Runtime) (secret : Bytes) : Option Key32 :=
  env.pkcs8.secret ED25519_PKCS8_PREFIX (ED25519_PKCS8_PREFIX ++ secret)

/-- A secret that a restore stores: AES-KW wraps it, and Ed25519 imports it where the
runtime has that. -/
def Storable (env : Runtime) (secret : Bytes) : Prop :=
  16 ≤ secret.length ∧ secret.length % 8 = 0 ∧
    (env.ed25519 = true → (imported env secret).isSome = true)

/-- The envelope of the imported key, or the sentinel where the runtime has no Ed25519. -/
def Enveloped (P : IdentityPrimitives) (env : Runtime) (key : CryptoKey) (secret wrapped : Bytes) :
    Prop :=
  env.ed25519 = true ∧ (∃ seed, imported env secret = some seed ∧
      wrapped = P.aesKwWrap key.raw (ED25519_PKCS8_PREFIX ++ seed.bytes)) ∨
    env.ed25519 = false ∧ wrapped = []

/-- The rows of a secret and a record, whatever their worth, under the key that resolves. -/
structure Replaced (P : IdentityPrimitives) (env : Runtime) (key : CryptoKey) (secret : Bytes)
    (stored : StoredIdentity) (t : Tab) : Prop where
  idle : Idle t
  deviceKey : t.storage.deviceKey = some stored
  devicePrivRaw : t.storage.devicePrivRaw = some (P.aesKwWrap key.raw secret)
  enveloped : Enveloped P env key secret stored.wrappedPrivateKey
  ready : KekReady env key t
  cachedIdentity : t.session.cachedIdentity = none

/-- The identity rows and the entry of the old layout are as they were in `t`. -/
structure Untouched (t t' : Tab) : Prop where
  idle : Idle t'
  cachedIdentity : t'.session.cachedIdentity = none
  deviceKey : t'.storage.deviceKey = t.storage.deviceKey
  devicePrivRaw : t'.storage.devicePrivRaw = t.storage.devicePrivRaw
  legacy : t'.storage.legacyWrappingKey = t.storage.legacyWrappingKey

/-- A restore that was rejected, before or after it had the wrapping key. -/
def Rejected (env : Runtime) (t t' : Tab) : Prop :=
  KekSearch env (Untouched t) t.storage.kek t.storage.legacyWrappingKey t' ∨
    ∃ key, KekFound env (Untouched t) t.storage.kek key t'

/-- Any sequence of that many calls — loads of the identity and exports — with the
page reloaded in between or not, yields the public key and the seed each time. -/
def HoldsIdentity (P : IdentityPrimitives) (env : Runtime) (publicKeyB64 : List Char)
    (seed : Key32) : ℕ → Tab → Prop
  | 0, _ => True
  | calls + 1, t =>
      (∀ me, Co.Triple Alone Anything
        (fun t x => (∃ d, x = .ok d ∧ IsIdentity publicKeyB64 seed d) ∧
          HoldsIdentity P env publicKeyB64 seed calls t ∧
          HoldsIdentity P env publicKeyB64 seed calls (page t.storage))
        (getOrCreateDeviceIdentity P env me) t) ∧
      Co.Triple Alone Anything
        (fun t x => x = .ok (seed.bytes, publicKeyB64) ∧
          HoldsIdentity P env publicKeyB64 seed calls t ∧
          HoldsIdentity P env publicKeyB64 seed calls (page t.storage))
        (exportRawDeviceSecret P env) t

section

variable {P : IdentityPrimitives} {env : Runtime} {key : CryptoKey} {seed : Key32}
  {stored : StoredIdentity} {me : Agent} {t : Tab}

/-! ## Restore -/

theorem pkcs8Secret_restored {secret : Bytes} :
    pkcs8Secret env ED25519_PKCS8_PREFIX (ED25519_PKCS8_PREFIX ++ secret) =
      (imported env secret).map Key32.bytes := rfl

/-- The envelope of a restored secret is stored where the runtime has Ed25519, and only
what its import takes passes there. -/
theorem wrapRestoredSecret_evaluates {secret : Bytes} (hwraps : key.wraps = true) :
    Evaluates (fun x => (env.ed25519 = true → (imported env secret).isSome = true) ∧
          (∃ wrapped, x = .ok wrapped ∧ Enveloped P env key secret wrapped) ∨
        x = .error .data ∧ ¬ (env.ed25519 = true → (imported env secret).isSome = true))
      (wrapRestoredSecret P env secret key) := by
  have hwrap : Evaluates
      (fun x => x = whenSupported env.ed25519 ((imported env secret).elim (.error .data)
        fun key' => .ok (P.aesKwWrap key.raw (ED25519_PKCS8_PREFIX ++ key'.bytes))))
      (do
        let key' ← importPkcs8 env env.ed25519 ED25519_PKCS8_PREFIX (ED25519_PKCS8_PREFIX ++ secret)
        wrapPkcs8 P ED25519_PKCS8_PREFIX key' key) := by
    refine importPkcs8_evaluates.bind ?_ ?_
    · intro key' h
      cases hed : env.ed25519 with
      | false => rw [hed] at h; cases h
      | true =>
          rw [hed] at h
          rw [pkcs8Secret_restored] at h
          cases himport : imported env secret with
          | some seed =>
              rw [himport] at h
              cases h
              exact wrapPkcs8_evaluates hwraps
          | none => rw [himport] at h; cases h
    · intro e h
      cases hed : env.ed25519 with
      | false => rw [hed] at h; cases h; rfl
      | true =>
          rw [hed] at h
          rw [pkcs8Secret_restored] at h
          cases himport : imported env secret with
          | some seed => rw [himport] at h; cases h
          | none => rw [himport] at h; cases h; rfl
  refine hwrap.unlessNotSupported.bind ?_ ?_
  · rintro wrapped ⟨y, rfl, h⟩
    cases hed : env.ed25519 with
    | false =>
        rw [hed] at h
        cases h
        exact evaluates_pure (Or.inl ⟨by rintro ⟨⟩, [], rfl, Or.inr ⟨hed, rfl⟩⟩)
    | true =>
        rw [hed] at h
        cases himport : imported env secret with
        | some seed =>
            rw [himport] at h
            cases h
            exact evaluates_pure (Or.inl ⟨fun _ => rfl, _, rfl, Or.inl ⟨hed, seed, himport, rfl⟩⟩)
        | none => rw [himport] at h; cases h
  · rintro e ⟨y, rfl, h⟩
    cases hed : env.ed25519 with
    | false => rw [hed] at h; cases h
    | true =>
        rw [hed] at h
        cases himport : imported env secret with
        | some seed => rw [himport] at h; cases h
        | none =>
            rw [himport] at h
            cases h
            exact Or.inr ⟨rfl, fun h => absurd (h rfl) Bool.false_ne_true⟩

theorem wrapSecretBytes_restored {secret : Bytes} (hwraps : key.wraps = true) :
    Evaluates (fun x => (16 ≤ secret.length ∧ secret.length % 8 = 0) ∧
          x = .ok (P.aesKwWrap key.raw secret) ∨
        (∃ e, x = .error e) ∧ ¬ (16 ≤ secret.length ∧ secret.length % 8 = 0))
      (wrapSecretBytes P key secret) := by
  by_cases hlength : 16 ≤ secret.length ∧ secret.length % 8 = 0
  · exact (wrapSecretBytes_evaluates hwraps hlength).mono fun x hx => Or.inl ⟨hlength, hx⟩
  · have hcond : secret.length < 16 ∨ secret.length % 8 ≠ 0 := by omega
    simp only [wrapSecretBytes, hcond, if_true]
    exact evaluates_throw (Or.inr ⟨⟨_, rfl⟩, hlength⟩)

theorem untouched_blind : KekBlind (Untouched t) :=
  ⟨fun _ _ h => ⟨⟨h.idle.inflight, h.idle.lock⟩, h.cachedIdentity, h.deviceKey, h.devicePrivRaw,
      h.legacy⟩,
    fun _ _ h => ⟨⟨h.idle.inflight, h.idle.lock⟩, h.cachedIdentity, h.deviceKey, h.devicePrivRaw,
      h.legacy⟩,
    fun _ _ h => ⟨⟨h.idle.inflight, h.idle.lock⟩, h.cachedIdentity, h.deviceKey, h.devicePrivRaw,
      h.legacy⟩,
    fun _ _ h => ⟨⟨h.idle.inflight, h.idle.lock⟩, h.cachedIdentity, h.deviceKey, h.devicePrivRaw,
      h.legacy⟩⟩

theorem replaced_stable {secret : Bytes} : Stable env Alone (Replaced P env key secret stored) :=
  alone_stable fun _ _ h hc => ⟨⟨h.idle.inflight, h.idle.lock⟩, h.deviceKey, h.devicePrivRaw,
    h.enveloped, ⟨h.ready.entry, h.ready.cached, Tab.Available.quiet hc⟩, h.cachedIdentity⟩

theorem wipeForeignSealed_triple {secret : Bytes} {publicB64u : List Char}
    (ht : Replaced P env key secret stored t) :
    Co.Triple Alone Anything (fun t _ => Replaced P env key secret stored t)
      (wipeForeignSealed env publicB64u) t := by
  have hG := anything_guarantee env
  have hstable : Stable env Alone (Replaced P env key secret stored) := replaced_stable
  have hwipe : ∀ t, Replaced P env key secret stored t →
      Co.Triple Alone Anything (fun t (_ : Except IdentityError Unit) =>
        Replaced P env key secret stored t)
        (write env .identity fun storage => { storage with sealedX25519 := none }) t := by
    intro t ht
    refine (write_triple (Replaced P env key secret stored) hG hstable
      (fun t h => h.ready.available) hstable.rely ?_ ht).mono fun t x hx => ?_
    · rintro t ⟨⟨hinflight, hlock⟩, hdevice, hraw, henveloped, ⟨hentry, hcached, havailable⟩, hnone⟩
      exact ⟨trivial, ⟨hinflight, hlock⟩, hdevice, hraw, henveloped,
        ⟨hentry, hcached, havailable⟩, hnone⟩
    · cases x with
      | ok _ => exact hx
      | error e => exact hx.1
  refine (load_triple hG hstable (fun t h => h.ready.available) ht).bind hG.trans ?_ fun t e h => h.1
  rintro t row ⟨ht, -⟩
  cases row with
  | none => exact Co.Triple.value hG.refl ht
  | some existingSealed =>
      by_cases hforeign : existingSealed.ownerEd25519PubB64 ≠ publicB64u
      · simp only [hforeign, ne_eq, not_false_eq_true, if_true]
        exact hwipe t ht
      · simp only [hforeign, if_false]
        exact Co.Triple.value hG.refl ht

/-- **What a restore ends in**, on a runtime whose databases may fault: the rows of the
secret are there, or the rows that were there are untouched — because of a fault, or of
the secret. -/
theorem replaceDeviceIdentity_ends {secret : Bytes} {publicB64u : List Char}
    (ht : Restorable env t) :
    Co.Triple Alone Anything
      (Post (fun _ t' => Storable env secret ∧ ∃ key wrapped,
          Replaced P env key secret ⟨publicB64u, wrapped⟩ t')
        fun e t' => Rejected env t t' ∧
          (Faults env .kek e ∨ Faults env .identity e ∨ ¬ Storable env secret))
      (replaceDeviceIdentity P env secret publicB64u) t := by
  have hG := anything_guarantee env
  refine modify_bind hG trivial ?_
  have huntouched : Untouched t (t.withSession fun s =>
      { s with cachedIdentity := none, cachedWrappingKey := none }) :=
    ⟨⟨ht.idle.inflight, ht.idle.lock⟩, rfl, rfl, rfl, rfl⟩
  have hreset : Restorable env (t.withSession fun s =>
      { s with cachedIdentity := none, cachedWrappingKey := none }) :=
    ⟨⟨ht.idle.inflight, ht.idle.lock⟩, ht.available, ht.supported, ht.kek⟩
  refine (getOrCreateWrappingKey_search untouched_blind rfl hreset.supported hreset.available
    hreset.kek huntouched).bind hG.trans ?_ ?_
  · intro t' key ht'
    have hstable : Stable env Alone (KekFound env (Untouched t) t.storage.kek key) :=
      kekFound_stable untouched_blind
    have hwraps := ht'.ready.entry.usable.1
    refine (wrapSecretBytes_restored hwraps).bind_triple hG hstable.rely ht' ?_ ?_
    · rintro wrappedRawSeed t' (⟨hlength, h⟩ | ⟨⟨_, ⟨⟩⟩, -⟩) ht'
      cases h
      refine (wrapRestoredSecret_evaluates hwraps).bind_triple hG hstable.rely ht' ?_ ?_
      · rintro wrapped t' (⟨himport, wrapped', h, henveloped⟩ | ⟨⟨⟩, -⟩) ht'
        cases h
        have hstorable : Storable env secret := ⟨hlength.1, hlength.2, himport⟩
        refine (write_triple (Replaced P env key secret ⟨publicB64u, wrapped⟩) hG hstable
          (fun t h => h.ready.available) replaced_stable.rely ?_ ht').bind hG.trans ?_ ?_
        · rintro t' ⟨⟨⟨hinflight, hlock⟩, hnone, -⟩, ⟨hentry, hcached, havailable⟩, -⟩
          exact ⟨trivial, ⟨hinflight, hlock⟩, rfl, rfl, henveloped, ⟨hentry, hcached, havailable⟩,
            hnone⟩
        · intro t' _ ht'
          refine (wipeForeignSealed_triple ht').attempt_bind hG.trans fun t' _ ht' => ?_
          obtain ⟨⟨hinflight, hlock⟩, hdevice, hraw, henveloped, hready, -⟩ := ht'
          exact Co.Triple.assign trivial ⟨hstorable, key, wrapped, ⟨hinflight, hlock⟩, hdevice, hraw,
            henveloped, ⟨hready.entry, hready.cached, hready.available⟩, rfl⟩
        · rintro t' e ⟨ht', hfault⟩
          exact ⟨Or.inr ⟨key, ht'⟩, Or.inr (Or.inl hfault)⟩
      · rintro e t' (⟨-, _, ⟨⟩, -⟩ | ⟨-, hno⟩) ht'
        exact ⟨Or.inr ⟨key, ht'⟩, Or.inr (Or.inr fun h => hno h.2.2)⟩
    · rintro e t' (⟨-, ⟨⟩⟩ | ⟨-, hno⟩) ht'
      exact ⟨Or.inr ⟨key, ht'⟩, Or.inr (Or.inr fun h => hno ⟨h.1, h.2.1⟩)⟩
  · rintro t' e ⟨ht', hfault⟩
    exact ⟨Or.inl ht', Or.inl hfault⟩

theorem imported_key (env : Runtime) (seed : Key32) : imported env seed.bytes = some seed :=
  env.pkcs8.ed25519 seed

theorem storable_key (env : Runtime) (seed : Key32) : Storable env seed.bytes := by
  rw [Storable, seed.size, imported_key]
  exact ⟨by decide, by decide, fun _ => rfl⟩

/-- The rows of a matching secret are a restored device. -/
theorem Replaced.restored {publicB64u : List Char} {wrapped : Bytes}
    (hmatch : fromBase64url publicB64u = some (P.ed25519PublicKey seed).bytes)
    (h : Replaced P env key seed.bytes ⟨publicB64u, wrapped⟩ t) :
    Restored P env key seed ⟨publicB64u, wrapped⟩ t := by
  refine ⟨h.idle, ⟨⟨?_, hmatch⟩, h.deviceKey, h.devicePrivRaw⟩, h.ready, ?_, ?_⟩
  · rcases h.enveloped with ⟨-, seed', himport, hwrapped⟩ | ⟨-, hwrapped⟩
    · rw [imported_key] at himport
      cases himport
      exact Or.inr hwrapped
    · exact Or.inl hwrapped
  · exact h.enveloped.imp And.left And.right
  · intro d hd
    rw [h.cachedIdentity] at hd
    cases hd

/-- **A restore leaves the pair of the secret**, under the key of this device. -/
theorem replaceDeviceIdentity_restores {publicB64u : List Char}
    (hidentity : Healthy env .identity) (hkek : Healthy env .kek)
    (hmatch : fromBase64url publicB64u = some (P.ed25519PublicKey seed).bytes)
    (ht : Restorable env t) :
    Co.Triple Alone Anything
      (fun t x => x = .ok () ∧ ∃ key stored, stored.publicKeyB64 = publicB64u ∧
        Restored P env key seed stored t)
      (replaceDeviceIdentity P env seed.bytes publicB64u) t := by
  refine (replaceDeviceIdentity_ends ht).mono fun t' x hx => ?_
  cases x with
  | ok _ =>
      obtain ⟨-, key, wrapped, hreplaced⟩ := hx
      exact ⟨rfl, key, ⟨publicB64u, wrapped⟩, rfl, hreplaced.restored hmatch⟩
  | error e =>
      rcases hx.2 with hfault | hfault | hno
      · exact absurd hfault hkek.noFaults
      · exact absurd hfault hidentity.noFaults
      · exact absurd (storable_key env seed) hno

/-! ## The calls after it -/

theorem Restored.page (h : Restored P env key seed stored t) :
    Restored P env key seed stored (page t.storage) := by
  refine ⟨⟨rfl, rfl⟩, h.pair, ⟨h.ready.entry, ?_, ?_⟩, h.opens, ?_⟩
  · rintro key' ⟨⟩
  · rintro - c ⟨⟩
  · rintro d ⟨⟩

/-- What a call that looks for the identity knows of its tab. -/
def Looking (P : IdentityPrimitives) (env : Runtime) (key : CryptoKey) (seed : Key32)
    (stored : StoredIdentity) (lock : Option Agent) (t : Tab) : Prop :=
  (Pair P key.raw seed stored t.storage ∧ t.session.cachedIdentity = none ∧
    t.origin.identityLock = lock) ∧ KekReady env key t

/-- The identity is found and remembered. -/
def Loaded (P : IdentityPrimitives) (env : Runtime) (key : CryptoKey) (seed : Key32)
    (stored : StoredIdentity) (lock : Option Agent) (t : Tab)
    (x : Except IdentityError DeviceIdentity) : Prop :=
  (Pair P key.raw seed stored t.storage ∧ t.origin.identityLock = lock ∧ KekReady env key t) ∧
    ∃ d, x = .ok d ∧ IsIdentity stored.publicKeyB64 seed d ∧ t.session.cachedIdentity = some d

theorem looking_stable {lock : Option Agent} :
    Stable env Alone (Looking P env key seed stored lock) :=
  alone_stable fun _ _ h hc => ⟨h.1, h.2.entry, h.2.cached, Tab.Available.quiet hc⟩

theorem getOrCreateDeviceIdentityInner_loads (laws : AesKwLaws P)
    (hidentity : Healthy env .identity) (hkek : Healthy env .kek) {lock : Option Agent}
    (ht : Looking P env key seed stored lock t) :
    Co.Triple Alone Anything (Loaded P env key seed stored lock)
      (getOrCreateDeviceIdentityInner P env) t := by
  have hblind : KekBlind fun t => Pair P key.raw seed stored t.storage ∧
      t.session.cachedIdentity = none ∧ t.origin.identityLock = lock := by
    constructor
    · rintro t value ⟨⟨hrecord, hdevice, hraw⟩, h⟩
      exact ⟨⟨hrecord, hdevice, hraw⟩, h⟩
    · exact fun t b h => h
    · exact fun t key' h => h
    · exact fun t c h => h
  have hunwrap : ∀ t, Looking P env key seed stored lock t → Co.Triple Alone Anything
      (Post (fun d t => Looking P env key seed stored lock t ∧
        IsIdentity stored.publicKeyB64 seed d) fun _ _ => False)
      (unwrapIdentity P env stored) t := by
    intro t ht
    refine (getOrCreateWrappingKey_ready hidentity hkek hblind ht.1 ht.2).bind
      (anything_guarantee env).trans ?_ ?_
    · rintro t key' ⟨ht, rfl⟩
      exact unwrapIdentityWith_right laws (anything_guarantee env) looking_stable
        (fun t h => h.2.available) hidentity ht.2.entry.usable.2 ht.1.1.record
        (fun t h => h.1.1.devicePrivRaw) ht
    · rintro t e ⟨⟩
  refine get_bind ?_
  simp only [ht.1.2.1]
  refine (load_triple (anything_guarantee env) looking_stable (fun t h => h.2.available)
    ht).attempt_bind (anything_guarantee env).trans fun t x hx => ?_
  cases x with
  | error e => exact absurd hx.2 hidentity.noFaults
  | ok row =>
      obtain ⟨ht, t₀, ht₀, rfl⟩ := hx
      simp only [ht₀.1.1.deviceKey]
      refine (hunwrap t ht).attempt_bind (anything_guarantee env).trans fun t x hx => ?_
      cases x with
      | error e => exact hx.elim
      | ok d =>
          obtain ⟨⟨⟨hpair, -, hlock⟩, hready⟩, hd⟩ := hx
          have hseed : d.privateKeySeed.isSome = true := by
            rw [hd.2]
            rfl
          simp only [useIdentity, hseed, if_true]
          exact modify_bind (anything_guarantee env) trivial (Co.Triple.value
            (anything_guarantee env).refl
            ⟨⟨hpair, hlock, hready.entry, hready.cached, hready.available⟩, d, rfl, hd, rfl⟩)

/-- **A load on a restored device** yields the identity and leaves the device so. -/
theorem getOrCreateDeviceIdentity_restored (laws : AesKwLaws P)
    (hidentity : Healthy env .identity) (hkek : Healthy env .kek)
    (ht : Restored P env key seed stored t) :
    Co.Triple Alone Anything
      (fun t x => Restored P env key seed stored t ∧
        ∃ d, x = .ok d ∧ IsIdentity stored.publicKeyB64 seed d)
      (getOrCreateDeviceIdentity P env me) t := by
  cases hcached : t.session.cachedIdentity with
  | some d =>
      refine get_bind ?_
      simp only [hcached]
      exact Co.Triple.value (anything_guarantee env).refl ⟨ht, d, rfl, ht.cached d hcached⟩
  | none =>
      refine getOrCreateDeviceIdentity_alone (Looking P env key seed stored)
        (Loaded P env key seed stored) (anything_guarantee env) (fun _ _ _ => trivial) hcached
        ht.idle.inflight ⟨⟨ht.pair, hcached, ht.idle.lock⟩, ht.ready.entry, ht.ready.cached,
          ht.ready.available⟩ (fun t h => h.1.2.2) ?_
        (fun lock t => getOrCreateDeviceIdentityInner_loads laws hidentity hkek) ?_ ?_
      · rintro t ⟨⟨hpair, hnone, -⟩, hready⟩
        exact ⟨⟨hpair, hnone, rfl⟩, hready.entry, hready.cached, hready.available⟩
      · rintro t x ⟨⟨hpair, -, hready⟩, hd⟩
        exact ⟨⟨hpair, rfl, hready.entry, hready.cached, hready.available⟩, hd⟩
      · rintro t x ⟨⟨hpair, hlock, hready⟩, d, rfl, hd, hsome⟩ promise
        refine ⟨⟨⟨rfl, hlock⟩, hpair, ⟨hready.entry, hready.cached, hready.available⟩, ht.opens, ?_⟩,
          d, rfl, hd⟩
        intro d' hd'
        have hsome' : (t.settlePromise promise (.ok d)).session.cachedIdentity = some d := hsome
        rw [hsome'] at hd'
        cases hd'
        exact hd

/-- **An export on a restored device** yields the pair and leaves the device so. -/
theorem exportRawDeviceSecret_restored (laws : AesKwLaws P) (hidentity : Healthy env .identity)
    (hkek : Healthy env .kek) (ht : Restored P env key seed stored t) :
    Co.Triple Alone Anything
      (fun t x => Restored P env key seed stored t ∧ x = .ok (seed.bytes, stored.publicKeyB64))
      (exportRawDeviceSecret P env) t := by
  have hblind : KekBlind fun t => Idle t ∧ Pair P key.raw seed stored t.storage ∧
      ∀ d, t.session.cachedIdentity = some d → IsIdentity stored.publicKeyB64 seed d := by
    constructor
    · rintro t value ⟨⟨hinflight, hlock⟩, ⟨hrecord, hdevice, hraw⟩, h⟩
      exact ⟨⟨hinflight, hlock⟩, ⟨hrecord, hdevice, hraw⟩, h⟩
    · exact fun t b h => ⟨⟨h.1.inflight, h.1.lock⟩, h.2⟩
    · exact fun t key' h => ⟨⟨h.1.inflight, h.1.lock⟩, h.2⟩
    · exact fun t c h => ⟨⟨h.1.inflight, h.1.lock⟩, h.2⟩
  refine (exportRawDeviceSecret_right laws hidentity hkek hblind ht.opens
    ⟨⟨⟨ht.idle, ht.pair, ht.cached⟩, ht.pair.record, ht.pair.deviceKey,
      Or.inl ht.pair.devicePrivRaw⟩, ht.ready⟩).mono ?_
  rintro t x ⟨⟨⟨⟨hidle, hpair, hcached⟩, -⟩, hready⟩, rfl⟩
  exact ⟨⟨hidle, hpair, hready, ht.opens, hcached⟩, rfl⟩

theorem Restored.holds (laws : AesKwLaws P) (hidentity : Healthy env .identity)
    (hkek : Healthy env .kek) (calls : ℕ) (ht : Restored P env key seed stored t) :
    HoldsIdentity P env stored.publicKeyB64 seed calls t := by
  induction calls generalizing t with
  | zero => trivial
  | succ calls ih =>
      constructor
      · intro me
        refine (getOrCreateDeviceIdentity_restored laws hidentity hkek ht).mono ?_
        rintro t x ⟨ht, hx⟩
        exact ⟨hx, ih ht, ih ht.page⟩
      · refine (exportRawDeviceSecret_restored laws hidentity hkek ht).mono ?_
        rintro t x ⟨ht, hx⟩
        exact ⟨hx, ih ht, ih ht.page⟩

end

/-! ## The round trip -/

/-- **The round trip.** The export on `A` resolves, the restore of its result on `B`
does, and then any sequence of calls on `B` yields the public key and the seed. -/
def RoundTrip (P : IdentityPrimitives) (envA envB : Runtime) (publicKeyB64 : List Char)
    (seed : Key32) (A B : Tab) : Prop :=
  Co.Triple Alone Anything
    (fun _ x => ∃ secret publicB64u, x = .ok (secret, publicB64u) ∧
      Co.Triple Alone Anything
        (fun t x => x = .ok () ∧ ∀ calls, HoldsIdentity P envB publicKeyB64 seed calls t)
        (replaceDeviceIdentity P envB secret publicB64u) B)
    (exportRawDeviceSecret P envA) A

/-- A runtime whose two databases work. -/
def Working (env : Runtime) : Prop := Healthy env .identity ∧ Healthy env .kek

theorem anything_blind : KekBlind fun _ => True :=
  ⟨fun _ _ _ => trivial, fun _ _ _ => trivial, fun _ _ _ => trivial, fun _ _ _ => trivial⟩

/-- A round trip needs an export that can read the record: one run of the export on its
own throws where it cannot. -/
theorem RoundTrip.opens {P : IdentityPrimitives} {envA envB : Runtime} (hA : Working envA)
    {key : CryptoKey} {seed : Key32} {stored : StoredIdentity} {A B : Tab}
    (hrows : Consistent P key.raw seed stored A.storage) (hready : KekReady envA key A)
    (h : RoundTrip P envA envB stored.publicKeyB64 seed A B) :
    envA.ed25519 = true ∨ stored.wrappedPrivateKey = [] := by
  by_contra hopens
  obtain ⟨hsupported, hwrapped⟩ := not_or.mp hopens
  have hfails := exportRawDeviceSecret_unsupported hA.1 hA.2 anything_blind
    (Bool.eq_false_iff.mpr hsupported) hwrapped ⟨⟨trivial, hrows⟩, hready⟩
  have hrefl : ∀ t, Alone t t := fun _ => rfl
  obtain ⟨secret, publicB64u, hok, -⟩ := Outcome.Sat.run hrefl ⟨0, seed, none, none⟩ h
  have herror := Outcome.Sat.run hrefl ⟨0, seed, none, none⟩ hfails
  rw [hok] at herror
  cases herror

/-- **Export and restore are inverse exactly when the export can read the record**: on a
runtime with Ed25519, or when the record has no envelope. -/
theorem roundTrip_iff {P : IdentityPrimitives} (laws : AesKwLaws P) {envA envB : Runtime}
    (hA : Working envA) (hB : Working envB) {key : CryptoKey} {seed : Key32}
    {stored : StoredIdentity} {A B : Tab} (hrows : Consistent P key.raw seed stored A.storage)
    (hready : KekReady envA key A) (hrestorable : Restorable envB B) :
    RoundTrip P envA envB stored.publicKeyB64 seed A B ↔
      envA.ed25519 = true ∨ stored.wrappedPrivateKey = [] := by
  constructor
  · exact fun h => h.opens hA hrows hready
  · intro hopens
    refine (exportRawDeviceSecret_right laws hA.1 hA.2 anything_blind hopens
      ⟨⟨trivial, hrows⟩, hready⟩).mono ?_
    rintro t x ⟨-, rfl⟩
    refine ⟨_, _, rfl, ?_⟩
    refine (replaceDeviceIdentity_restores hB.1 hB.2 hrows.record.matching hrestorable).mono ?_
    rintro t x ⟨rfl, key', stored', hpublic, hrestored⟩
    rw [← hpublic]
    exact ⟨rfl, fun calls => hrestored.holds laws hB.1 hB.2 calls⟩

/-- A runtime on which everything works, with WebCrypto Ed25519 and X25519 or without. -/
def sampleRuntime (webCrypto : Bool) : Runtime :=
  ⟨webCrypto, webCrypto, .dropping 0, .notSupported, true, true, false, fun _ => false⟩

/-- The record of seed 7 as a runtime with Ed25519 writes it under key 1. -/
def sampleStored : StoredIdentity where
  publicKeyB64 := toBase64url (samplePrimitives.ed25519PublicKey (sampleKey 7)).bytes
  wrappedPrivateKey := samplePrimitives.aesKwWrap (sampleKey 1).bytes
    (ED25519_PKCS8_PREFIX ++ (sampleKey 7).bytes)

/-- Both rows of it, with the KEK. -/
def sampleStorage : Storage :=
  { Storage.empty with
    deviceKey := some sampleStored
    devicePrivRaw := some (samplePrimitives.aesKwWrap (sampleKey 1).bytes (sampleKey 7).bytes)
    kek := some (.arrayBuffer (sampleKey 1).bytes) }

theorem sampleStorage_consistent :
    Consistent samplePrimitives (aesKwKey false (sampleKey 1).bytes).raw (sampleKey 7) sampleStored
      (page sampleStorage).storage :=
  ⟨⟨Or.inr rfl, fromBase64url_toBase64url _⟩, rfl, Or.inl rfl⟩

theorem sampleStorage_ready (env : Runtime) :
    KekReady env (aesKwKey false (sampleKey 1).bytes) (page sampleStorage) := by
  refine ⟨Or.inl ⟨_, rfl, (holds_generated (sampleKey 1)).1⟩, ?_, ?_⟩
  · rintro key' ⟨⟩
  · rintro - c ⟨⟩

/-- A new device: its wrapping key is made by the restore. -/
theorem empty_restorable (env : Runtime) : Restorable env (page Storage.empty) := by
  refine ⟨⟨rfl, rfl⟩, ?_, ?_, Or.inr ⟨rfl, ?_⟩⟩
  · rintro - c ⟨⟩
  · rintro b ⟨⟩
  · rintro value ⟨⟩

theorem roundTrip_iff_sample :
    RoundTrip samplePrimitives (sampleRuntime true) (sampleRuntime false) sampleStored.publicKeyB64
        (sampleKey 7) (page sampleStorage) (page Storage.empty) ↔
      (sampleRuntime true).ed25519 = true ∨ sampleStored.wrappedPrivateKey = [] :=
  roundTrip_iff samplePrimitives_laws ⟨⟨rfl, rfl⟩, rfl, rfl⟩ ⟨⟨rfl, rfl⟩, rfl, rfl⟩
    sampleStorage_consistent (sampleStorage_ready _) (empty_restorable _)

/-- The record was written by a runtime with Ed25519 and is exported by one without: the
raw-seed row is there, and the export throws. -/
theorem roundTrip_unsupported :
    ¬ ∀ (envA envB : Runtime) (key : CryptoKey) (seed : Key32) (stored : StoredIdentity)
        (A B : Tab), Working envA → Working envB →
        Consistent samplePrimitives key.raw seed stored A.storage → KekReady envA key A →
        Restorable envB B →
        RoundTrip samplePrimitives envA envB stored.publicKeyB64 seed A B := by
  intro h
  have htrip := h (sampleRuntime false) (sampleRuntime false) _ _ _ _ _
    ⟨⟨rfl, rfl⟩, rfl, rfl⟩ ⟨⟨rfl, rfl⟩, rfl, rfl⟩ sampleStorage_consistent (sampleStorage_ready _)
    (empty_restorable _)
  rcases htrip.opens ⟨⟨rfl, rfl⟩, rfl, rfl⟩ sampleStorage_consistent (sampleStorage_ready _) with
    hsupported | hwrapped
  · cases hsupported
  · exact samplePrimitives_laws.wrap_ne_nil _ _ hwrapped

end Oxpulse.Identity
