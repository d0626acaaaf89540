import Oxpulse.Identity.FirstIdentity

/-!
# A flight over the first identity

The inner sequence under the lock, from whatever the storage may hold: it resolves the
wrapping key or makes a first one, unwraps the pair or mints one, and lands with the
identity that the storage holds then.
-/

namespace Oxpulse.Identity

open Oxpulse.Coroutine Oxpulse.Crypto

/-- Nothing is there. -/
structure Blank (storage : Storage) : Prop where
  deviceKey : storage.deviceKey = none
  kek : storage.kek = none
  legacy : NoLegacy storage

/-- The wrapping key resolves, beside what else is known; the entry of the old layout is
never written. -/
structure Keyed (key : CryptoKey) (legacy : Option StoredValue) (F : Storage → Prop)
    (storage : Storage) : Prop where
  legacy : storage.legacyWrappingKey = legacy
  resolves : Resolves key storage
  known : F storage

/-- There is a wrapping key, and no pair yet. -/
structure Mintworthy (P : IdentityPrimitives) (key : CryptoKey) (storage : Storage) : Prop where
  resolves : Resolves key storage
  unpaired : Unpaired P key storage

section

variable {P : IdentityPrimitives} {env : Runtime} {me : Agent} {key : CryptoKey} {seed : Key32}
  {stored : StoredIdentity} {legacy : Option StoredValue} {F : Storage → Prop}
  {d : DeviceIdentity} {t : Tab}

/-- A triple of a flight that holds the lock. -/
abbrev FlightTriple (P : IdentityPrimitives) (env : Runtime) (me : Agent) {α : Type}
    (ok : α → Storage → Prop) (co : TabCo α) (t : Tab) : Prop :=
  Co.Triple (Others P env me) (Moves P env me)
    (Post (fun a t => Inside P env me (ok a) t) fun _ _ => False) co t

/-! ## The wrapping key -/

theorem inside_probe (ht : Inside P env me F t) :
    Moves P env me t (t.withSession (deviceKek.cacheProbe env.structuredClone)) ∧
      Inside P env me F (t.withSession (deviceKek.cacheProbe env.structuredClone)) := by
  refine inside_session ht fun hs => ⟨hs.identity, hs.wrappingKey, ?_, hs.available, hs.promises⟩
  rintro b ⟨⟩
  rfl

theorem getOrCreateWrappingKey_keyed (hidentity : Healthy env .identity)
    (hkek : Healthy env .kek) (hF : ∀ storage value, F storage → F (deviceKek.put value storage))
    (ht : Inside P env me (Keyed key legacy F) t) :
    Co.Triple (Others P env me) (Moves P env me)
      (Post (fun key' t => Inside P env me (Keyed key legacy F) t ∧ key' = key) fun _ _ => False)
      (getOrCreateWrappingKey env) t := by
  refine getOrCreateWrappingKey_resolves (moves_guarantee P env me) (inside_stable P env me _)
    (fun t h => h.available) hidentity hkek (fun t h => ⟨h.storage.legacy, h.storage.resolves⟩)
    ?_ ?_ (fun t h => inside_probe h) (fun t h => inside_cacheKey h h.storage.resolves) ht
  · intro t key' ht hkey'
    exact (ht.session.wrappingKey key' hkey').unique ht.storage.resolves
  · intro t value ht hholds
    exact inside_storage ht (advance_put ht.storage.resolves hholds)
      ⟨ht.storage.legacy, Or.inl ⟨value, rfl, hholds⟩, hF _ _ ht.storage.known⟩

/-- The key of a device that has no pair yet. -/
theorem getOrCreateWrappingKey_mintworthy (hidentity : Healthy env .identity)
    (hkek : Healthy env .kek) (hF : ∀ storage value, F storage → F (deviceKek.put value storage))
    (hunpaired : ∀ storage, F storage → Unpaired P key storage)
    (ht : Inside P env me (Keyed key legacy F) t) :
    FlightTriple P env me (Mintworthy P) (getOrCreateWrappingKey env) t := by
  refine (getOrCreateWrappingKey_keyed hidentity hkek hF ht).mono fun t x hx => ?_
  cases x with
  | ok key' =>
      obtain ⟨ht, rfl⟩ := hx
      exact ht.mono fun h => ⟨h.resolves, hunpaired _ h.known⟩
  | error e => exact hx

/-- The first wrapping key of a device. -/
theorem getOrCreateWrappingKey_blank (hkek : Healthy env .kek) (ht : Inside P env me Blank t) :
    FlightTriple P env me (Mintworthy P) (getOrCreateWrappingKey env) t := by
  have hG := moves_guarantee P env me
  have hsaved : ∀ key t t', Inside P env me (Mintworthy P key) t → Others P env me t t' →
      Inside P env me (Mintworthy P key) t' :=
    fun key => (inside_stable P env me _).rely
  refine resolveWrappingKey_minted hG (inside_stable P env me Blank) (fun t h => h.available) hkek
    hsaved (fun t h => h.storage.kek) ?_ (fun t b h => h.session.supported b) ?_
    (fun t h => inside_probe h) ?_ (fun t key h => inside_cacheKey h h.storage.resolves) ht
  · intro t ht
    cases hcached : t.session.cachedWrappingKey with
    | none => exact hcached
    | some key =>
        exact absurd (ht.session.wrappingKey key hcached)
          (not_resolves ht.storage.kek ht.storage.legacy)
  · exact fun t ht => adoptLegacyWrappingKey_none hG (inside_stable P env me Blank)
      (fun t h => h.available) (fun t h => h.storage.legacy) ht
  · intro t value key ht hholds
    exact inside_storage ht
      (advance_first ht.storage.deviceKey ht.storage.kek ht.storage.legacy hholds)
      ⟨Or.inl ⟨value, rfl, hholds⟩, Or.inl ht.storage.deviceKey⟩

/-! ## Mint -/

/-- The handles that persistence hands out are of the same identity. -/
theorem runtimeHandles_same (laws : AesKwLaws P) (hd : Whole P env seed d) {wrapped : Bytes}
    (hwrapped : ∀ secret, d.privateKey = some secret → key.unwraps = true ∧
      wrapped = P.aesKwWrap key.raw (ED25519_PKCS8_PREFIX ++ seed.bytes)) :
    Evaluates (fun x => ∃ d', x = .ok d' ∧ d'.publicKeyB64 = d.publicKeyB64 ∧
        d'.privateKeySeed = d.privateKeySeed) (runtimeHandles P env d wrapped key) := by
  have hpublic : ∀ priv : Option Bytes, Evaluates (fun x => ∃ d', x = .ok d' ∧
      d'.publicKeyB64 = d.publicKeyB64 ∧ d'.privateKeySeed = d.privateKeySeed) (do
        let publicKey ← Co.attempt (do
          let bytes ← Co.orThrow .data (fromBase64url d.publicKeyB64)
          importPublicKey env.ed25519 bytes)
        return { d with publicKey := publicKey.toOption, privateKey := priv } :
        TabCo DeviceIdentity) := by
    intro priv
    refine importPublicKey_any.attempt.bind ?_ ?_
    · rintro publicKey -
      exact evaluates_pure ⟨_, rfl, rfl, rfl⟩
    · rintro e ⟨y, hy, -⟩
      cases hy
  have hprivate : ∀ secret, d.privateKey = some secret →
      Evaluates (fun x => x = .ok (some seed.bytes))
        (some <$> unwrapPkcs8 P env env.ed25519 ED25519_PKCS8_PREFIX wrapped key) := by
    intro secret hsecret
    obtain ⟨hunwraps, rfl⟩ := hwrapped secret hsecret
    have hopen : openPkcs8 P env ED25519_PKCS8_PREFIX
        (P.aesKwWrap key.raw (ED25519_PKCS8_PREFIX ++ seed.bytes)) key = .ok seed.bytes := by
      simp only [openPkcs8, laws.unwrap_wrap, pkcs8Secret_ed25519, orError]
    have hsupported : env.ed25519 = true := by
      cases hed : env.ed25519 with
      | true => rfl
      | false =>
          have hnone := hd.privateKey
          rw [hed, hsecret] at hnone
          cases hnone
    rw [map_eq_pure_bind]
    refine (unwrapPkcs8_evaluates hunwraps).bind ?_ ?_
    · intro secret' h
      rw [hopen, hsupported] at h
      cases h
      exact evaluates_pure rfl
    · intro e h
      rw [hopen, hsupported] at h
      cases h
  unfold runtimeHandles
  cases hsecret : d.privateKey with
  | none =>
      refine (evaluates_pure (V := fun x => x = .ok (none : Option Bytes)) rfl).bind ?_ ?_
      · rintro priv ⟨⟩
        cases d.publicKey with
        | some bytes => exact evaluates_pure ⟨_, rfl, rfl, rfl⟩
        | none => exact hpublic none
      · rintro e ⟨⟩
  | some secret =>
      refine (hprivate secret hsecret).bind ?_ ?_
      · rintro priv ⟨⟩
        cases d.publicKey with
        | some bytes => exact evaluates_pure ⟨_, rfl, rfl, rfl⟩
        | none => exact hpublic _
      · rintro e ⟨⟩

/-- The envelope of a whole identity, or the sentinel where the runtime has none. -/
theorem wrapPrivateKey_whole (hwraps : key.wraps = true) (hd : Whole P env seed d) :
    Evaluates (fun x => ∃ wrapped, x = .ok wrapped ∧
        (env.ed25519 = true ∧ wrapped = P.aesKwWrap key.raw (ED25519_PKCS8_PREFIX ++ seed.bytes) ∨
          env.ed25519 = false ∧ d.privateKey = none ∧ wrapped = []))
      (wrapPrivateKey P d.privateKey key) := by
  rw [hd.privateKey]
  cases hed : env.ed25519 with
  | false => exact evaluates_pure ⟨[], rfl, Or.inr ⟨rfl, rfl, rfl⟩⟩
  | true => exact (wrapPkcs8_evaluates hwraps).mono fun x hx => ⟨_, hx, Or.inl ⟨rfl, rfl⟩⟩

/-- **A whole identity is persisted**: once the key is there, its pair is written and the
handles of it are returned. -/
theorem persistIdentity_pairs {R G : Tab → Tab → Prop} (J : CryptoKey → Tab → Prop)
    (J' : CryptoKey → StoredIdentity → Tab → Prop) (laws : AesKwLaws P)
    (hidentity : Healthy env .identity) (hd : Whole P env seed d) (hG : Guarantee env G)
    (hJ : ∀ key, Stable env R (J key)) (havailable : ∀ key t, J key t → t.Available env)
    (hJ' : ∀ key stored t t', J' key stored t → R t t' → J' key stored t')
    (husable : ∀ key t, J key t → key.Usable)
    (hsave : ∀ key stored t, J key t → Record P key.raw seed stored →
      G t (t.withStorage (putIdentity stored (P.aesKwWrap key.raw seed.bytes))) ∧
        J' key stored (t.withStorage (putIdentity stored (P.aesKwWrap key.raw seed.bytes))))
    (hkey : Co.Triple R G (Post J fun _ _ => False) (getOrCreateWrappingKey env) t) :
    Co.Triple R G (Post (fun d' t => ∃ key stored, J' key stored t ∧
        IsIdentity stored.publicKeyB64 seed d' ∧
        (env.ed25519 = true ∨ stored.wrappedPrivateKey = [])) fun _ _ => False)
      (persistIdentity P env d) t := by
  refine hkey.bind hG.trans ?_ ?_
  · intro t key ht
    have hkey := husable key t ht
    simp only [hd.privateKeySeed]
    refine evaluates_orThrow.bind_triple hG (hJ key).rely ht ?_ ?_
    · rintro seed' t h ht
      cases h
      refine (wrapKey32_evaluates hkey.1).bind_triple hG (hJ key).rely ht ?_ ?_
      · rintro wrappedRawSeed t h ht
        cases h
        refine (wrapPrivateKey_whole hkey.1 hd).bind_triple hG (hJ key).rely ht ?_ ?_
        · rintro wrapped t ⟨wrapped', h, hwrapped⟩ ht
          cases h
          have hrecord : Record P key.raw seed ⟨d.publicKeyB64, wrapped⟩ := by
            refine ⟨?_, ?_⟩
            · rcases hwrapped with ⟨-, hwrapped⟩ | ⟨-, -, hwrapped⟩
              · exact Or.inr hwrapped
              · exact Or.inl hwrapped
            · rw [hd.publicKeyB64]
              exact fromBase64url_toBase64url _
          have hsame : ∀ secret, d.privateKey = some secret → key.unwraps = true ∧
              wrapped = P.aesKwWrap key.raw (ED25519_PKCS8_PREFIX ++ seed.bytes) := by
            intro secret hsecret
            rcases hwrapped with ⟨-, hwrapped⟩ | ⟨-, hnone, -⟩
            · exact ⟨hkey.2, hwrapped⟩
            · rw [hsecret] at hnone
              cases hnone
          refine write_bind (J' key ⟨d.publicKeyB64, wrapped⟩) hidentity hG (hJ key)
            (havailable key) (hJ' key _) (fun t ht => hsave key _ t ht hrecord) ht fun t ht => ?_
          refine ((runtimeHandles_same laws hd hsame).triple hG (hJ' key _) ht).mono ?_
          rintro t x ⟨ht, d', rfl, hpublic, hsecret⟩
          exact ⟨key, _, ht, ⟨hpublic, hsecret.trans hd.privateKeySeed⟩,
            hwrapped.imp And.left fun h => h.2.2⟩
        · rintro e t ⟨_, ⟨⟩, -⟩
      · rintro e t ⟨⟩
    · rintro e t ⟨⟩
  · rintro t e ⟨⟩

/-- **An identity is persisted**: the pair is written where there is none. -/
theorem persistIdentity_holds (laws : AesKwLaws P) (hidentity : Healthy env .identity)
    (hd : Whole P env seed d)
    (hkey : FlightTriple P env me (Mintworthy P) (getOrCreateWrappingKey env) t) :
    FlightTriple P env me (fun d' storage => Held P storage d') (persistIdentity P env d) t := by
  refine (persistIdentity_pairs (fun key => Inside P env me (Mintworthy P key))
    (fun key stored => Inside P env me (IdentityAt P key seed stored)) laws hidentity hd
    (moves_guarantee P env me) (fun key => inside_stable P env me _) (fun key t h => h.available)
    (fun key stored => (inside_stable P env me _).rely)
    (fun key t h => h.storage.resolves.usable) ?_ hkey).mono fun t x hx => ?_
  · intro key stored t ht hrecord
    have hpair : IdentityAt P key seed stored
        (putIdentity stored (P.aesKwWrap key.raw seed.bytes) t.storage) :=
      ⟨⟨hrecord, rfl, rfl⟩, ht.storage.resolves⟩
    exact inside_storage ht (advance_pair ht.storage.resolves ht.storage.unpaired hpair) hpair
  · cases x with
    | ok d' =>
        obtain ⟨key, stored, ht, hd', -⟩ := hx
        exact ht.mono fun hat => ⟨key, seed, stored, hat, hd'⟩
    | error e => exact hx

/-- **A minted identity is held**: nothing falls back while storage works. -/
theorem mintIdentityWithStorageFallback_holds (laws : AesKwLaws P)
    (hidentity : Healthy env .identity)
    (hkey : ∀ t, Inside P env me F t →
      FlightTriple P env me (Mintworthy P) (getOrCreateWrappingKey env) t)
    (ht : Inside P env me F t) :
    FlightTriple P env me (fun minted storage => minted.persisted = true ∧
      Held P storage minted.identity) (mintIdentityWithStorageFallback P env) t := by
  have hG := moves_guarantee P env me
  have hpersist : FlightTriple P env me (fun d storage => Held P storage d)
      (do persistIdentity P env (← generateDeviceIdentity P env)) t := by
    refine generateDeviceIdentity_evaluates.bind_triple hG (inside_stable P env me F).rely ht ?_ ?_
    · rintro d t ⟨seed, d', h, hd⟩ ht
      cases h
      exact persistIdentity_holds laws hidentity hd (hkey t ht)
    · rintro e t ⟨_, _, ⟨⟩, -⟩
  refine hpersist.attempt_bind hG.trans fun t x hx => ?_
  cases x with
  | ok d => exact Co.Triple.value hG.refl (hx.mono fun h => ⟨rfl, h⟩)
  | error e => exact hx.elim

/-! ## What a flight lands with -/

/-- The identity is put in memory and returned. -/
theorem cacheIdentity_lands (ht : Inside P env me (fun storage => Held P storage d) t) :
    FlightTriple P env me (fun d storage => Held P storage d)
      (do modify (Tab.withSession (cacheIdentity d)); return d : TabCo DeviceIdentity) t := by
  have hG := moves_guarantee P env me
  have hcache := inside_session ht (f := cacheIdentity d) fun hs =>
    ⟨by rintro d' ⟨⟩; exact ht.storage, hs.wrappingKey, hs.supported, hs.available, hs.promises⟩
  exact modify_bind hG hcache.1 (Co.Triple.value hG.refl hcache.2)

theorem createIdentity_lands (laws : AesKwLaws P) (hidentity : Healthy env .identity)
    (hkey : ∀ t, Inside P env me F t →
      FlightTriple P env me (Mintworthy P) (getOrCreateWrappingKey env) t)
    (ht : Inside P env me F t) :
    FlightTriple P env me (fun d storage => Held P storage d) (createIdentity P env) t := by
  have hG := moves_guarantee P env me
  refine (mintIdentityWithStorageFallback_holds laws hidentity hkey ht).bind hG.trans ?_ ?_
  · intro t minted ht
    simp only [ht.storage.1, if_true]
    exact cacheIdentity_lands (ht.mono And.right)
  · rintro t e ⟨⟩

/-- The residue is none of the rows that hold an identity. -/
theorem wipeSafe_held (P : IdentityPrimitives) (env : Runtime) (me : Agent) (d : DeviceIdentity) :
    WipeSafe (Moves P env me) (Inside P env me fun storage => Held P storage d) := by
  have hrow : ∀ f : Storage → Storage, (∀ storage, (f storage).deviceKey = storage.deviceKey) →
      (∀ storage, (f storage).devicePrivRaw = storage.devicePrivRaw) →
      (∀ storage, (f storage).kek = storage.kek) →
      (∀ storage, (f storage).legacyWrappingKey = storage.legacyWrappingKey) →
      Safe (Moves P env me) (Inside P env me fun storage => Held P storage d)
        (Tab.withStorage f) := by
    intro f hdevice hraw hkek hlegacy t ht
    have hadvance : Advance P t.storage (f t.storage) :=
      advance_of_rows (hdevice _) (hraw _) (hkek _) (hlegacy _)
    exact inside_storage ht hadvance (hadvance.held ht.storage)
  exact ⟨hrow _ (fun _ => rfl) (fun _ => rfl) (fun _ => rfl) fun _ => rfl,
    hrow _ (fun _ => rfl) (fun _ => rfl) (fun _ => rfl) fun _ => rfl,
    hrow _ (fun _ => rfl) (fun _ => rfl) (fun _ => rfl) fun _ => rfl,
    fun t ht => inside_session ht fun hs =>
      ⟨hs.identity, hs.wrappingKey, hs.supported, hs.available, hs.promises⟩,
    hrow _ (fun _ => rfl) (fun _ => rfl) (fun _ => rfl) fun _ => rfl⟩

theorem replaceLegacyIdentity_lands (laws : AesKwLaws P) (hidentity : Healthy env .identity)
    (hkey : ∀ t, Inside P env me F t →
      FlightTriple P env me (Mintworthy P) (getOrCreateWrappingKey env) t)
    (ht : Inside P env me F t) :
    FlightTriple P env me (fun d storage => Held P storage d) (replaceLegacyIdentity P env) t := by
  have hG := moves_guarantee P env me
  refine (mintIdentityWithStorageFallback_holds laws hidentity hkey ht).bind hG.trans ?_ ?_
  · intro t minted ht
    simp only [ht.storage.1, if_true]
    have hheld : Inside P env me (fun storage => Held P storage minted.identity) t :=
      ht.mono And.right
    have hretire := inside_session hheld (f := retireCaches) fun hs =>
      ⟨hs.identity, hs.wrappingKey, hs.supported, hs.available, hs.promises⟩
    refine modify_bind hG hretire.1 ?_
    refine (wipeResidue_keeps hG (inside_stable P env me _) (fun t h => h.available)
      (wipeSafe_held P env me minted.identity) hretire.2).attempt_bind hG.trans fun t _ ht => ?_
    exact cacheIdentity_lands ht
  · rintro t e ⟨⟩

/-! ## The stored record -/

/-- Without a raw-seed row the record is unwrapped to an identity without a seed. -/
theorem unwrapIdentityWith_seedless {R G : Tab → Tab → Prop} {J : Tab → Prop}
    (laws : AesKwLaws P) (hG : Guarantee env G) (hJ : Stable env R J)
    (havailable : ∀ t, J t → t.Available env) (hdb : Healthy env .identity)
    (hunwraps : key.unwraps = true) (hrecord : Record P key.raw seed stored)
    (hraw : ∀ t, J t → t.storage.devicePrivRaw = none) (ht : J t) :
    Co.Triple R G (Post (fun d t => J t ∧ d.privateKeySeed = none) fun _ _ => False)
      (unwrapIdentityWith P env stored key) t := by
  refine (importStoredPublicKey_evaluates hrecord.matching).bind_triple hG hJ.rely ht ?_ ?_
  · intro publicKey t _ ht
    refine (unwrapStoredPrivateKey_right laws hunwraps hrecord).bind_triple hG hJ.rely ht ?_ ?_
    · intro privateKey t _ ht
      refine load_bind hdb hG hJ havailable ht fun t t₀ ht ht₀ => ?_
      simp only [hraw t₀ ht₀]
      exact Co.Triple.value hG.refl ⟨ht, rfl⟩
    · rintro e t ⟨_, ⟨⟩⟩
  · rintro e t ⟨_, ⟨⟩⟩

/-- A record without a raw seed. -/
structure Seedless (stored : StoredIdentity) (storage : Storage) : Prop where
  deviceKey : storage.deviceKey = some stored
  devicePrivRaw : storage.devicePrivRaw = none

/-- **A record without a raw seed is replaced.** -/
theorem useStored_replaces (laws : AesKwLaws P) (hidentity : Healthy env .identity)
    (hkek : Healthy env .kek) (hrecord : Record P key.raw seed stored)
    (ht : Inside P env me (Keyed key legacy (Seedless stored)) t) :
    FlightTriple P env me (fun d storage => Held P storage d) (useStored P env stored) t := by
  have hG := moves_guarantee P env me
  have hunwrap : Co.Triple (Others P env me) (Moves P env me) (Post (fun d t =>
      Inside P env me (Keyed key legacy (Seedless stored)) t ∧ d.privateKeySeed = none)
        fun _ _ => False) (unwrapIdentity P env stored) t := by
    refine (getOrCreateWrappingKey_keyed hidentity hkek
      (fun _ _ h => ⟨h.deviceKey, h.devicePrivRaw⟩) ht).bind hG.trans ?_ ?_
    · rintro t key' ⟨ht, rfl⟩
      exact unwrapIdentityWith_seedless laws hG (inside_stable P env me _)
        (fun t h => h.available) hidentity ht.storage.resolves.usable.2 hrecord
        (fun t h => h.storage.known.devicePrivRaw) ht
    · rintro t e ⟨⟩
  refine hunwrap.attempt_bind hG.trans fun t x hx => ?_
  cases x with
  | ok d =>
      obtain ⟨ht, hnone⟩ := hx
      show Co.Triple _ _ _ (useIdentity P env d) t
      have hseed : ¬ d.privateKeySeed.isSome = true := by
        rw [hnone]
        decide
      simp only [useIdentity, hseed]
      refine replaceLegacyIdentity_lands laws hidentity (fun t ht => ?_) ht
      exact getOrCreateWrappingKey_mintworthy hidentity hkek
        (fun _ _ h => ⟨h.deviceKey, h.devicePrivRaw⟩)
        (fun _ h => Or.inr ⟨h.devicePrivRaw, seed, stored, h.deviceKey, hrecord⟩) ht
  | error e => exact hx.elim

/-- **A pair is unwrapped.** -/
theorem useStored_unwraps (laws : AesKwLaws P) (hidentity : Healthy env .identity)
    (hkek : Healthy env .kek)
    (ht : Inside P env me (Keyed key legacy (Pair P key.raw seed stored)) t) :
    FlightTriple P env me (fun d storage => Held P storage d) (useStored P env stored) t := by
  have hG := moves_guarantee P env me
  have hunwrap : Co.Triple (Others P env me) (Moves P env me) (Post (fun d t =>
      Inside P env me (Keyed key legacy (Pair P key.raw seed stored)) t ∧
        IsIdentity stored.publicKeyB64 seed d) fun _ _ => False) (unwrapIdentity P env stored) t := by
    refine (getOrCreateWrappingKey_keyed hidentity hkek
      (fun _ _ h => ⟨h.record, h.deviceKey, h.devicePrivRaw⟩) ht).bind hG.trans ?_ ?_
    · rintro t key' ⟨ht, rfl⟩
      exact unwrapIdentityWith_right laws hG (inside_stable P env me _) (fun t h => h.available)
        hidentity ht.storage.resolves.usable.2 ht.storage.known.record
        (fun t h => h.storage.known.devicePrivRaw) ht
    · rintro t e ⟨⟩
  refine hunwrap.attempt_bind hG.trans fun t x hx => ?_
  cases x with
  | ok d =>
      obtain ⟨ht, hd⟩ := hx
      show Co.Triple _ _ _ (useIdentity P env d) t
      have hseed : d.privateKeySeed.isSome = true := by
        rw [hd.2]
        rfl
      simp only [useIdentity, hseed, if_true]
      exact cacheIdentity_lands (ht.mono fun h => ⟨key, seed, stored, ⟨h.known, h.resolves⟩, hd⟩)
  | error e => exact hx.elim

/-! ## The inner sequence -/

/-- The record is loaded, and what follows depends on it. -/
theorem getOrCreateDeviceIdentityInner_continues {row : Option StoredIdentity}
    (hidentity : Healthy env .identity) (hcached : t.session.cachedIdentity = none)
    (hrow : ∀ storage, F storage → storage.deviceKey = row)
    (hstored : ∀ stored t, row = some stored → Inside P env me F t →
      FlightTriple P env me (fun d storage => Held P storage d) (useStored P env stored) t)
    (hnone : ∀ t, row = none → Inside P env me F t →
      FlightTriple P env me (fun d storage => Held P storage d) (createIdentity P env) t)
    (ht : Inside P env me F t) :
    FlightTriple P env me (fun d storage => Held P storage d)
      (getOrCreateDeviceIdentityInner P env) t := by
  have hG := moves_guarantee P env me
  refine get_bind ?_
  simp only [hcached]
  refine (load_triple hG (inside_stable P env me F) (fun t h => h.available) ht).attempt_bind
    hG.trans fun t x hx => ?_
  cases x with
  | error e => exact absurd hx.2 hidentity.noFaults
  | ok row' =>
      obtain ⟨ht, t₀, ht₀, rfl⟩ := hx
      have hdevice := hrow _ ht₀.storage
      simp only [hdevice]
      cases row with
      | none => exact hnone t rfl ht
      | some stored => exact hstored stored t rfl ht

/-- **The inner sequence**, from whatever the storage may hold. -/
theorem getOrCreateDeviceIdentityInner_lands (laws : AesKwLaws P)
    (hidentity : Healthy env .identity) (hkek : Healthy env .kek)
    (ht : Inside P env me (StorageSound P) t) :
    FlightTriple P env me (fun d storage => Held P storage d)
      (getOrCreateDeviceIdentityInner P env) t := by
  have hG := moves_guarantee P env me
  cases hcached : t.session.cachedIdentity with
  | some d =>
      refine get_bind ?_
      simp only [hcached]
      exact Co.Triple.value hG.refl (ht.mono fun _ => ht.session.identity d hcached)
  | none =>
      cases ht.storage with
      | blank hnone hunset hlegacy =>
          refine getOrCreateDeviceIdentityInner_continues (F := Blank) hidentity hcached
            (fun _ h => h.deviceKey) (by rintro _ _ ⟨⟩) (fun t _ ht => ?_)
            (ht.mono fun _ => ⟨hnone, hunset, hlegacy⟩)
          exact createIdentity_lands laws hidentity
            (fun t ht => getOrCreateWrappingKey_blank hkek ht) ht
      | keyed key hresolves hunpaired =>
          rcases hunpaired with hnone | ⟨hraw, seed, stored, hdevice, hrecord⟩
          · refine getOrCreateDeviceIdentityInner_continues (F := Keyed key
              t.storage.legacyWrappingKey fun storage => storage.deviceKey = none) hidentity hcached
              (fun _ h => h.known) (by rintro _ _ ⟨⟩) (fun t _ ht => ?_)
              (ht.mono fun _ => ⟨rfl, hresolves, hnone⟩)
            refine createIdentity_lands laws hidentity (fun t ht => ?_) ht
            exact getOrCreateWrappingKey_mintworthy hidentity hkek (fun _ _ h => h)
              (fun _ h => Or.inl h) ht
          · refine getOrCreateDeviceIdentityInner_continues (F := Keyed key
              t.storage.legacyWrappingKey (Seedless stored)) hidentity hcached
              (fun _ h => h.known.deviceKey) ?_ (by rintro _ ⟨⟩)
              (ht.mono fun _ => ⟨rfl, hresolves, hdevice, hraw⟩)
            rintro stored' t ⟨⟩ ht
            exact useStored_replaces laws hidentity hkek hrecord ht
      | identity key seed stored hat =>
          refine getOrCreateDeviceIdentityInner_continues (F := Keyed key t.storage.legacyWrappingKey
            (Pair P key.raw seed stored)) hidentity hcached (fun _ h => h.known.deviceKey) ?_
            (by rintro _ ⟨⟩) (ht.mono fun _ => ⟨rfl, hat.resolves, hat.pair⟩)
          rintro stored' t ⟨⟩ ht
          exact useStored_unwraps laws hidentity hkek ht

end

end Oxpulse.Identity
