import Oxpulse.Identity.LockSteps

/-!
# Export and restore

`exportRawDeviceSecret` on one device and `replaceDeviceIdentity` on another: the
secret is stored twice, as a wrapped PKCS#8 envelope where the runtime has Ed25519
and as a wrapped raw seed, and an export reads one of the two. Restore and every
later call agree on all combinations. An export does not: it looks at the envelope
whenever there is one, also on a runtime that cannot open it.
-/

namespace Oxpulse.Identity

open Oxpulse.Coroutine Oxpulse.Crypto

/-- Nobody else touches the tab. -/
def Alone (t t' : Tab) : Prop := t' = t

def Anything (_ _ : Tab) : Prop := True

theorem anything_guarantee (env : Runtime) : Guarantee env Anything where
  refl _ := trivial
  trans _ _ _ _ _ := trivial
  quiet _ _ _ := trivial

/-! ## The devices -/

/-- It resolves to `key`, and no other key is in memory. -/
structure KekReady (env : Runtime) (key : CryptoKey) (t : Tab) : Prop where
  entry : Resolves key t.storage
  cached : ∀ key', t.session.cachedWrappingKey = some key' → key' = key
  available : t.Available env

/-- A call that looks for the wrapping key, beside what else is known, over these two
entries. -/
structure KekSearch (env : Runtime) (F : Tab → Prop) (kek legacy : Option StoredValue) (t : Tab) :
    Prop where
  other : F t
  kek : t.storage.kek = kek
  legacy : t.storage.legacyWrappingKey = legacy
  cached : t.session.cachedWrappingKey = none
  supported : ∀ b, t.session.structuredCloneSupported = some b → b = env.structuredClone
  available : t.Available env

/-- The call found the key; where there was an entry it stayed as it was. -/
structure KekFound (env : Runtime) (F : Tab → Prop) (kek : Option StoredValue) (key : CryptoKey)
    (t : Tab) : Prop where
  other : F t
  ready : KekReady env key t
  kept : kek = none ∨ t.storage.kek = kek

/-- No flight of the identity is under way. -/
structure Idle (t : Tab) : Prop where
  inflight : t.session.inflightIdentity = none
  lock : t.origin.identityLock = none

/-- **Consistent rows**: a record of the seed, and a raw-seed row unless the record
has the envelope. -/
structure Consistent (P : IdentityPrimitives) (kek : Bytes) (seed : Key32)
    (stored : StoredIdentity) (storage : Storage) : Prop where
  record : Record P kek seed stored
  deviceKey : storage.deviceKey = some stored
  devicePrivRaw : storage.devicePrivRaw = some (P.aesKwWrap kek seed.bytes) ∨
    (storage.devicePrivRaw = none ∧ stored.wrappedPrivateKey ≠ [])

/-- **A device to restore on**: its wrapping key resolves, to one that is stored or to
a first one. -/
structure Restorable (env : Runtime) (t : Tab) : Prop where
  idle : Idle t
  available : t.Available env
  supported : ∀ b, t.session.structuredCloneSupported = some b → b = env.structuredClone
  kek : (∃ key, Resolves key t.storage) ∨ (t.storage.kek = none ∧ NoLegacy t.storage)

section

variable {P : IdentityPrimitives} {env : Runtime} {key : CryptoKey} {seed : Key32}
  {stored : StoredIdentity} {me : Agent} {t : Tab} {F : Tab → Prop}

/-! ## Resolving the wrapping key -/

/-- What depends neither on the wrapping key and its probe nor on the availability
cache. -/
structure KekBlind (F : Tab → Prop) : Prop where
  put : ∀ t value, F t → F (t.withStorage (deviceKek.put value))
  probe : ∀ t b, F t → F (t.withSession (deviceKek.cacheProbe b))
  cache : ∀ t key, F t → F (t.withSession (deviceKek.cacheKey key))
  quiet : ∀ t c, F t → F (t.withAvailability c)

theorem alone_stable {J : Tab → Prop}
    (hquiet : ∀ t c, J t → (env.unreliable = false → c.failure = none) →
      J (t.withAvailability c)) : Stable env Alone J where
  rely := by
    rintro t t' h rfl
    exact h
  quiet := hquiet

theorem Tab.Available.quiet (h : env.unreliable = false → c.failure = none) :
    (t.withAvailability c).Available env := by
  rintro hreliable c' hc'
  cases hc'
  exact h hreliable

/-- **The wrapping key resolves**, and what is blind to it stays. -/
theorem getOrCreateWrappingKey_ready (hidentity : Healthy env .identity)
    (hkek : Healthy env .kek) (hF : KekBlind F) (ht : F t) (hready : KekReady env key t) :
    Co.Triple Alone Anything
      (Post (fun key' t => (F t ∧ KekReady env key t) ∧ key' = key) fun _ _ => False)
      (getOrCreateWrappingKey env) t := by
  have hstable : Stable env Alone fun t' => F t' ∧ KekReady env key t' ∧
      t'.storage.legacyWrappingKey = t.storage.legacyWrappingKey :=
    alone_stable fun t' c h hc => ⟨hF.quiet t' c h.1,
      ⟨h.2.1.entry, h.2.1.cached, Tab.Available.quiet hc⟩, h.2.2⟩
  refine (getOrCreateWrappingKey_resolves (anything_guarantee env) hstable
    (fun t h => h.2.1.available) hidentity hkek (fun t h => ⟨h.2.2, h.2.1.entry⟩)
    (fun t key' h => h.2.1.cached key') ?_ ?_ ?_ ⟨ht, hready, rfl⟩).mono ?_
  · rintro t value ⟨hFt, ⟨-, hcached, havailable⟩, hlegacy⟩ hholds
    exact ⟨trivial, hF.put t _ hFt, ⟨Or.inl ⟨_, rfl, hholds⟩, hcached, havailable⟩, hlegacy⟩
  · rintro t ⟨hFt, ⟨hentry, hcached, havailable⟩, hlegacy⟩
    exact ⟨trivial, hF.probe t _ hFt, ⟨hentry, hcached, havailable⟩, hlegacy⟩
  · rintro t ⟨hFt, ⟨hentry, -, havailable⟩, hlegacy⟩
    refine ⟨trivial, hF.cache t key hFt, ⟨hentry, ?_, havailable⟩, hlegacy⟩
    rintro key' ⟨⟩
    rfl
  · intro t x hx
    cases x with
    | ok key' => exact ⟨⟨hx.1.1, hx.1.2.1⟩, hx.2⟩
    | error e => exact hx

variable {kek legacy : Option StoredValue}

theorem kekSearch_stable (hF : KekBlind F) : Stable env Alone (KekSearch env F kek legacy) :=
  alone_stable fun t c h hc => ⟨hF.quiet t c h.other, h.kek, h.legacy, h.cached, h.supported,
    Tab.Available.quiet hc⟩

theorem kekFound_stable (hF : KekBlind F) : Stable env Alone (KekFound env F kek key) :=
  alone_stable fun t c h hc => ⟨hF.quiet t c h.other, ⟨h.ready.entry, h.ready.cached,
    Tab.Available.quiet hc⟩, h.kept⟩

/-- A key that resolves is found without a write. -/
theorem KekSearch.found (hresolves : Resolves key t.storage) (h : KekSearch env F kek legacy t) :
    KekFound env F kek key t := by
  refine ⟨h.other, ⟨hresolves, ?_, h.available⟩, Or.inr h.kek⟩
  intro key' hkey'
  rw [h.cached] at hkey'
  cases hkey'

/-- Where there was no entry, one that holds the key is put. -/
theorem KekSearch.put {value : StoredValue} (hF : KekBlind F) (hholds : value.Holds key)
    (h : KekSearch env F none legacy t) :
    KekFound env F none key (t.withStorage (deviceKek.put value)) := by
  refine ⟨hF.put t value h.other, ⟨Or.inl ⟨value, rfl, hholds⟩, ?_, h.available⟩, Or.inl rfl⟩
  intro key' hkey'
  have hnone : (t.withStorage (deviceKek.put value)).session.cachedWrappingKey = none := h.cached
  rw [hnone] at hkey'
  cases hkey'

/-- **Adoption under faults**: the entry of the old layout is adopted, or there is none or
it was not to be had. -/
theorem adoptLegacyWrappingKey_search {canClone : Bool} (hF : KekBlind F)
    (hlegacy : (∃ key value, legacy = some value ∧ value.Holds key) ∨
      ∀ value, legacy = some value → classifyKekEntry value = none)
    (ht : KekSearch env F none legacy t) :
    Co.Triple Alone Anything
      (Post (fun a t => a = none ∧ KekSearch env F none legacy t ∨
        ∃ key, a = some key ∧ KekFound env F none key t) fun _ _ => False)
      (adoptLegacyWrappingKey env canClone) t := by
  have hG := anything_guarantee env
  have hstable : Stable env Alone (KekSearch env F none legacy) := kekSearch_stable hF
  refine (loadKey_triple hG hstable (fun t h => h.available) ht).attempt_bind hG.trans
    fun t x hx => ?_
  cases x with
  | error e => exact Co.Triple.value hG.refl (Or.inl ⟨rfl, hx.1⟩)
  | ok entry =>
      obtain ⟨ht, -, t₀, ht₀, rfl⟩ := hx
      rw [ht₀.legacy]
      cases legacy with
      | none => exact Co.Triple.value hG.refl (Or.inl ⟨rfl, ht⟩)
      | some value =>
          rcases hlegacy with ⟨key, _, ⟨⟩, entry, hclassify, hyields⟩ | hnone
          · obtain rfl := classifyKekEntry_stored hclassify
            have hholds : entry.stored.Holds key := ⟨entry, hclassify, hyields⟩
            simp only [hclassify]
            refine handle_evaluates.bind_triple hG hstable.rely ht ?_ ?_
            · rintro key' t (⟨_, h, hkey'⟩ | ⟨⟨⟩, -⟩) ht
              cases h
              obtain rfl := hkey'.unique hyields.1
              have hfound := ht.found (Or.inr ⟨ht.kek, _, ht.legacy, hholds⟩)
              refine (copyForward_triple hG (kekFound_stable hF) (fun t h => h.ready.available) ?_
                hfound).attempt_bind hG.trans fun t _ ht => ?_
              · intro t ht
                exact ⟨trivial, hF.put t _ ht.other, ⟨Or.inl ⟨_, rfl, hholds⟩, ht.ready.cached,
                  ht.ready.available⟩, Or.inl rfl⟩
              · exact Co.Triple.value hG.refl (Or.inr ⟨key', rfl, ht⟩)
            · rintro e t (⟨_, ⟨⟩, -⟩ | ⟨-, hno⟩) ht
              exact hno key hyields.1
          · simp only [hnone value rfl]
            exact Co.Triple.value hG.refl (Or.inl ⟨rfl, ht⟩)

/-- A fresh key is saved, or the save faults. -/
theorem generateWrappingKey_search (hF : KekBlind F) (ht : KekSearch env F none legacy t) :
    Co.Triple Alone Anything
      (Post (KekFound env F none) fun e t => KekSearch env F none legacy t ∧ Faults env .kek e)
      (generateWrappingKey env deviceKek env.structuredClone) t :=
  generateWrappingKey_mints (anything_guarantee env) (kekSearch_stable hF) (fun _ h => h.available)
    (fun _ => (kekFound_stable hF).rely)
    (fun _ _ _ h hholds => ⟨trivial, h.put hF hholds⟩) ht

theorem findWrappingKey_search (hF : KekBlind F)
    (hkey : (∃ key value, kek = some value ∧ value.Holds key) ∨
      kek = none ∧ ((∃ key value, legacy = some value ∧ value.Holds key) ∨
        ∀ value, legacy = some value → classifyKekEntry value = none))
    (ht : KekSearch env F kek legacy t) :
    Co.Triple Alone Anything
      (Post (KekFound env F kek) fun e t => KekSearch env F kek legacy t ∧ Faults env .kek e)
      (findWrappingKey env deviceKek (adoptLegacyWrappingKey env) env.structuredClone) t := by
  have hG := anything_guarantee env
  have hstable : Stable env Alone (KekSearch env F kek legacy) := kekSearch_stable hF
  refine (loadKey_triple hG hstable (fun t h => h.available) ht).bind hG.trans ?_ ?_
  · rintro t existing ⟨ht, -, t₀, ht₀, rfl⟩
    rw [deviceKek_entry, ht₀.kek]
    rcases hkey with ⟨key, value, rfl, entry, hclassify, hyields⟩ | ⟨rfl, hlegacy⟩
    · simp only [hclassify]
      refine (handle_evaluates.triple hG hstable.rely ht).mono ?_
      rintro t x ⟨ht, ⟨key', rfl, hkey'⟩ | ⟨rfl, hno⟩⟩
      · obtain rfl := hkey'.unique hyields.1
        exact ht.found (Or.inl ⟨value, ht.kek, entry, hclassify, hyields⟩)
      · exact absurd hyields.1 (hno key)
    · refine (adoptLegacyWrappingKey_search hF hlegacy ht).bind hG.trans ?_ ?_
      · rintro t adopted (⟨rfl, ht⟩ | ⟨key, rfl, hfound⟩)
        · exact generateWrappingKey_search hF ht
        · exact Co.Triple.value hG.refl hfound
      · rintro t e ⟨⟩
  · rintro t e ⟨ht, hfault | ⟨-, t₀, ht₀, hunreadable⟩⟩
    · exact ⟨ht, hfault⟩
    · rw [deviceKek_entry, ht₀.kek] at hunreadable
      rcases hkey with ⟨key, value, hvalue, hholds⟩ | ⟨hnone, -⟩
      · rw [hvalue] at hunreadable
        cases hunreadable
        exact absurd rfl hholds.opens.readable
      · rw [hnone] at hunreadable
        cases hunreadable

/-- **The wrapping key under faults.** With none in memory, the key that resolves is found
or a first one is made, or a request to the KEK database faults before anything is
written. -/
theorem getOrCreateWrappingKey_search (hF : KekBlind F)
    (hcached : t.session.cachedWrappingKey = none)
    (hsupported : ∀ b, t.session.structuredCloneSupported = some b → b = env.structuredClone)
    (havailable : t.Available env)
    (hkey : (∃ key, Resolves key t.storage) ∨ (t.storage.kek = none ∧ NoLegacy t.storage))
    (ht : F t) :
    Co.Triple Alone Anything
      (Post (KekFound env F t.storage.kek) fun e t' =>
        KekSearch env F t.storage.kek t.storage.legacyWrappingKey t' ∧ Faults env .kek e)
      (getOrCreateWrappingKey env) t := by
  have hG := anything_guarantee env
  have hentries : (∃ key value, t.storage.kek = some value ∧ value.Holds key) ∨
      t.storage.kek = none ∧
        ((∃ key value, t.storage.legacyWrappingKey = some value ∧ value.Holds key) ∨
          ∀ value, t.storage.legacyWrappingKey = some value → classifyKekEntry value = none) := by
    rcases hkey with ⟨key, ⟨value, hvalue⟩ | ⟨hnone, value, hvalue⟩⟩ | ⟨hnone, hlegacy⟩
    · exact Or.inl ⟨key, value, hvalue⟩
    · exact Or.inr ⟨hnone, Or.inl ⟨key, value, hvalue⟩⟩
    · exact Or.inr ⟨hnone, Or.inr hlegacy⟩
  refine remembered_triple hG ?_ fun _ => ?_
  · intro key hkey
    rw [deviceKek_cachedWrappingKey, hcached] at hkey
    cases hkey
  refine (probeStructuredClone_triple (B := fun b => b = env.structuredClone) hG
    (kekSearch_stable hF).rely ?_ (fun t b h => h.supported b) rfl
    ⟨ht, rfl, rfl, hcached, hsupported, havailable⟩).bind hG.trans ?_ ?_
  · intro t' ht'
    refine ⟨trivial, hF.probe t' _ ht'.other, ht'.kek, ht'.legacy, ht'.cached, ?_, ht'.available⟩
    rintro b ⟨⟩
    rfl
  · rintro t' canClone ⟨ht', rfl⟩
    refine (findWrappingKey_search hF hentries ht').mono fun t x hx => ?_
    cases x with
    | ok key =>
        refine ⟨trivial, hF.cache t key hx.other, ⟨hx.ready.entry, ?_, hx.ready.available⟩, hx.kept⟩
        rintro key' ⟨⟩
        rfl
    | error e => exact hx
  · rintro t' e ⟨⟩

/-- With no key in memory the wrapping key resolves, or a first one is made. -/
theorem getOrCreateWrappingKey_restorable (hkek : Healthy env .kek) (hF : KekBlind F) (ht : F t)
    (havailable : t.Available env)
    (hsupported : ∀ b, t.session.structuredCloneSupported = some b → b = env.structuredClone)
    (hkey : (∃ key, Resolves key t.storage) ∨ (t.storage.kek = none ∧ NoLegacy t.storage))
    (hcached : t.session.cachedWrappingKey = none) :
    Co.Triple Alone Anything
      (Post (fun key t => F t ∧ KekReady env key t) fun _ _ => False)
      (getOrCreateWrappingKey env) t := by
  refine (getOrCreateWrappingKey_search hF hcached hsupported havailable hkey ht).mono
    fun t x hx => ?_
  cases x with
  | ok key => exact ⟨hx.other, hx.ready⟩
  | error e => exact hkek.noFaults hx.2

/-! ## Export -/

theorem exportPkcs8Seed_right (laws : AesKwLaws P) (hunwraps : key.unwraps = true)
    (hsupported : env.ed25519 = true)
    (hwrapped : stored.wrappedPrivateKey =
      P.aesKwWrap key.raw (ED25519_PKCS8_PREFIX ++ seed.bytes)) :
    Evaluates (fun x => x = .ok seed.bytes) (exportPkcs8Seed P env stored key) := by
  have hopen : openPkcs8 P env ED25519_PKCS8_PREFIX stored.wrappedPrivateKey key = .ok seed.bytes := by
    simp only [openPkcs8, hwrapped, laws.unwrap_wrap, pkcs8Secret_ed25519, orError]
  refine (unwrapPkcs8_evaluates hunwraps).bind ?_ ?_
  · intro secret h
    rw [hopen, hsupported] at h
    cases h
    refine evaluates_suspend fun _ => ?_
    have hlength : ¬ (ED25519_PKCS8_PREFIX ++ seed.bytes).length < 48 := by
      rw [List.length_append, seed.size]
      decide
    simp only [hlength, if_false]
    exact evaluates_pure rfl
  · intro e h
    rw [hopen, hsupported] at h
    cases h

theorem exportPkcs8Seed_unsupported (hunwraps : key.unwraps = true)
    (hsupported : env.ed25519 = false) :
    Evaluates (fun x => x = .error .notSupported) (exportPkcs8Seed P env stored key) := by
  refine (unwrapPkcs8_evaluates hunwraps).bind ?_ ?_
  · intro secret h
    rw [hsupported] at h
    cases h
  · intro e h
    rw [hsupported] at h
    exact h

theorem exportRawSeed_right {J : Tab → Prop} (laws : AesKwLaws P) (hunwraps : key.unwraps = true)
    (hdb : Healthy env .identity)
    (hJ : Stable env Alone J) (havailable : ∀ t, J t → t.Available env)
    (hraw : ∀ t, J t → t.storage.devicePrivRaw = some (P.aesKwWrap key.raw seed.bytes)) (ht : J t) :
    Co.Triple Alone Anything (Post (fun x t => J t ∧ x = seed.bytes) fun _ _ => False)
      (exportRawSeed P env key) t := by
  refine load_bind hdb (anything_guarantee env) hJ havailable ht fun t t₀ ht ht₀ => ?_
  simp only [hraw t₀ ht₀]
  refine ((unwrapSecretBytes_evaluates hunwraps).triple (anything_guarantee env) hJ.rely ht).mono ?_
  rintro t x ⟨ht, rfl⟩
  rw [laws.unwrap_wrap]
  exact ⟨ht, rfl⟩

/-- What an export needs of the device. -/
def Exportable (P : IdentityPrimitives) (env : Runtime) (key : CryptoKey) (seed : Key32)
    (stored : StoredIdentity) (F : Tab → Prop) (t : Tab) : Prop :=
  (F t ∧ Consistent P key.raw seed stored t.storage) ∧ KekReady env key t

theorem consistent_blind (hF : KekBlind F) :
    KekBlind fun t => F t ∧ Consistent P key.raw seed stored t.storage where
  put t value h := ⟨hF.put t value h.1, h.2.record, h.2.deviceKey, h.2.devicePrivRaw⟩
  probe t b h := ⟨hF.probe t b h.1, h.2⟩
  cache t key' h := ⟨hF.cache t key' h.1, h.2⟩
  quiet t c h := ⟨hF.quiet t c h.1, h.2⟩

theorem exportable_stable (hF : KekBlind F) :
    Stable env Alone (Exportable P env key seed stored F) :=
  alone_stable fun t c h hc => ⟨⟨hF.quiet t c h.1.1, h.1.2⟩, h.2.entry, h.2.cached,
    Tab.Available.quiet hc⟩

/-- The two ways of an export up to the read of the secret. -/
theorem exportRawDeviceSecret_begin {Q : Tab → Except IdentityError (Bytes × List Char) → Prop}
    (hidentity : Healthy env .identity) (hkek : Healthy env .kek) (hF : KekBlind F)
    (hread : ∀ t, Exportable P env key seed stored F t → Co.Triple Alone Anything
      (Post (fun secret t => Q t (.ok (secret, stored.publicKeyB64)))
        fun e t => Q t (.error e))
      (exportSeed P env stored key) t)
    (ht : Exportable P env key seed stored F t) :
    Co.Triple Alone Anything Q (exportRawDeviceSecret P env) t := by
  refine (load_triple (anything_guarantee env) (exportable_stable hF) (fun t h => h.2.available)
    ht).bind (anything_guarantee env).trans ?_ ?_
  · rintro t row ⟨ht, t₀, ht₀, rfl⟩
    simp only [ht₀.1.2.deviceKey]
    refine (getOrCreateWrappingKey_ready hidentity hkek (consistent_blind hF) ht.1 ht.2).bind
      (anything_guarantee env).trans ?_ ?_
    · rintro t key' ⟨ht, rfl⟩
      refine (hread t ht).bind (anything_guarantee env).trans ?_ ?_
      · intro t secret h
        exact Co.Triple.value (anything_guarantee env).refl h
      · intro t e h
        exact h
    · rintro t e ⟨⟩
  · rintro t e ⟨-, hfault⟩
    exact absurd hfault hidentity.noFaults

/-- **The export resolves** where the envelope can be opened or there is none. -/
theorem exportRawDeviceSecret_right (laws : AesKwLaws P) (hidentity : Healthy env .identity)
    (hkek : Healthy env .kek) (hF : KekBlind F)
    (hopens : env.ed25519 = true ∨ stored.wrappedPrivateKey = [])
    (ht : Exportable P env key seed stored F t) :
    Co.Triple Alone Anything (fun t x => Exportable P env key seed stored F t ∧
        x = .ok (seed.bytes, stored.publicKeyB64))
      (exportRawDeviceSecret P env) t := by
  refine exportRawDeviceSecret_begin hidentity hkek hF (fun t ht => ?_) ht
  by_cases hwrapped : stored.wrappedPrivateKey = []
  · rw [exportSeed, if_pos hwrapped]
    refine (exportRawSeed_right laws ht.2.entry.usable.2 hidentity (exportable_stable hF)
      (fun t h => h.2.available) (fun t h => h.1.2.devicePrivRaw.resolve_right fun hnone => hnone.2 hwrapped) ht).mono ?_
    intro t x hx
    cases x with
    | ok secret =>
        obtain ⟨ht, rfl⟩ := hx
        exact ⟨ht, rfl⟩
    | error e => exact hx.elim
  · rw [exportSeed, if_neg hwrapped]
    have hrecord := ht.1.2.record.wrapped.resolve_left hwrapped
    refine ((exportPkcs8Seed_right laws ht.2.entry.usable.2 (hopens.resolve_right hwrapped)
      hrecord).triple (anything_guarantee env) (exportable_stable hF).rely ht).mono ?_
    rintro t x ⟨ht, rfl⟩
    exact ⟨ht, rfl⟩

/-- **The export fails** where there is an envelope and no Ed25519 to open it. -/
theorem exportRawDeviceSecret_unsupported (hidentity : Healthy env .identity)
    (hkek : Healthy env .kek) (hF : KekBlind F) (hsupported : env.ed25519 = false)
    (hwrapped : stored.wrappedPrivateKey ≠ []) (ht : Exportable P env key seed stored F t) :
    Co.Triple Alone Anything (fun _ x => x = .error .notSupported)
      (exportRawDeviceSecret P env) t := by
  refine exportRawDeviceSecret_begin hidentity hkek hF (fun t ht => ?_) ht
  rw [exportSeed, if_neg hwrapped]
  refine ((exportPkcs8Seed_unsupported ht.2.entry.usable.2 hsupported).triple (anything_guarantee env)
    (exportable_stable hF).rely ht).mono ?_
  rintro t x ⟨-, rfl⟩
  exact rfl

end

end Oxpulse.Identity
