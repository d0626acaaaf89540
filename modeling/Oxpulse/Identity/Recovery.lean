import Oxpulse.Identity.LockSteps

/-!
# A recoverable identity is recovered

The device holds a matching pair of rows, and the key that wrapped them is still
somewhere: in the KEK database, or under the name of the old layout, whatever the
KEK database holds or does. Then every session resolves to the stored identity,
and neither the rows nor the entry of the old layout is ever written.
-/

namespace Oxpulse.Identity

open Oxpulse.Coroutine Oxpulse.Crypto

/-- **Recoverable.** The pair is wrapped under `key`, which the KEK database holds or
the entry of the old layout does. -/
structure Recoverable (P : IdentityPrimitives) (env : Runtime) (key : CryptoKey) (seed : Key32)
    (stored : StoredIdentity) (storage : Storage) : Prop where
  pair : Pair P key.raw seed stored storage
  key : (Healthy env .kek ∧ ∃ value, storage.kek = some value ∧ value.Holds key) ∨
    ∃ value, storage.legacyWrappingKey = some value ∧ value.Holds key

/-- The identity rows and the entry of the old layout stay as they are. -/
def KeepsRows (t t' : Tab) : Prop :=
  t'.storage.deviceKey = t.storage.deviceKey ∧
    t'.storage.devicePrivRaw = t.storage.devicePrivRaw ∧
    t'.storage.legacyWrappingKey = t.storage.legacyWrappingKey

theorem keepsRows_guarantee (env : Runtime) : Guarantee env KeepsRows where
  refl _ := ⟨rfl, rfl, rfl⟩
  trans _ _ _ h h' := ⟨h'.1.trans h.1, h'.2.1.trans h.2.1, h'.2.2.trans h.2.2⟩
  quiet _ _ _ := ⟨rfl, rfl, rfl⟩

/-- This many sessions, one after the other, from this storage: in each, a call on
its own resolves to the stored identity, and no segment of it writes the rows or the
entry of the old layout. -/
def RecoversIn (P : IdentityPrimitives) (env : Runtime) (me : Agent) (stored : StoredIdentity)
    (seed : Key32) : ℕ → Storage → Prop
  | 0, _ => True
  | sessions + 1, storage =>
      Co.Triple (fun t t' => t' = t) KeepsRows
        (fun t x => (∃ d, x = .ok d ∧ IsIdentity stored.publicKeyB64 seed d) ∧
          RecoversIn P env me stored seed sessions t.storage)
        (getOrCreateDeviceIdentity P env me) (page storage)

section

variable {P : IdentityPrimitives} {env : Runtime} {key : CryptoKey} {seed : Key32}
  {stored : StoredIdentity} {lock : Option Agent} {me : Agent} {t : Tab}

/-- What a call knows of its tab while it looks for the identity. -/
structure Searching (P : IdentityPrimitives) (env : Runtime) (key : CryptoKey) (seed : Key32)
    (stored : StoredIdentity) (lock : Option Agent) (t : Tab) : Prop where
  recoverable : Recoverable P env key seed stored t.storage
  /-- where only the KEK database holds the key, nothing else is cached -/
  cached : (∃ value, t.storage.legacyWrappingKey = some value ∧ value.Holds key) ∨
    ∀ key', t.session.cachedWrappingKey = some key' → key' = key
  cachedIdentity : t.session.cachedIdentity = none
  available : t.Available env
  lock : t.origin.identityLock = lock

/-- The call found the identity, and remembers it. -/
structure Found (P : IdentityPrimitives) (env : Runtime) (key : CryptoKey) (seed : Key32)
    (stored : StoredIdentity) (lock : Option Agent) (t : Tab)
    (x : Except IdentityError DeviceIdentity) : Prop where
  recoverable : Recoverable P env key seed stored t.storage
  cached : (∃ value, t.storage.legacyWrappingKey = some value ∧ value.Holds key) ∨
    ∀ key', t.session.cachedWrappingKey = some key' → key' = key
  available : t.Available env
  lock : t.origin.identityLock = lock
  identity : ∃ d, x = .ok d ∧ IsIdentity stored.publicKeyB64 seed d ∧
    t.session.cachedIdentity = some d

/-- **A tab over a recoverable storage**, with no call under way: whatever it remembers is
of this identity. -/
structure Kept (P : IdentityPrimitives) (env : Runtime) (key : CryptoKey) (seed : Key32)
    (stored : StoredIdentity) (t : Tab) : Prop where
  recoverable : Recoverable P env key seed stored t.storage
  cached : (∃ value, t.storage.legacyWrappingKey = some value ∧ value.Holds key) ∨
    ∀ key', t.session.cachedWrappingKey = some key' → key' = key
  cachedIdentity : ∀ d, t.session.cachedIdentity = some d → IsIdentity stored.publicKeyB64 seed d
  available : t.Available env
  inflight : t.session.inflightIdentity = none
  lock : t.origin.identityLock = none

theorem Recoverable.kept {P : IdentityPrimitives} {env : Runtime} {key : CryptoKey} {seed : Key32}
    {stored : StoredIdentity} {storage : Storage} (h : Recoverable P env key seed stored storage) :
    Kept P env key seed stored (page storage) := by
  refine ⟨h, Or.inr ?_, ?_, ?_, rfl, rfl⟩
  · rintro key' ⟨⟩
  · rintro d ⟨⟩
  · rintro - c ⟨⟩

theorem searching_stable :
    Stable env (fun t t' => t' = t) (Searching P env key seed stored lock) where
  rely := by
    rintro t t' h rfl
    exact h
  quiet := by
    rintro t c ⟨hrecoverable, hcached, hidentity, -, hlock⟩ hc
    refine ⟨hrecoverable, hcached, hidentity, fun hreliable c' hc' => ?_, hlock⟩
    cases hc'
    exact hc hreliable

/-- The KEK of the database: the call keeps to it. -/
theorem unwrapIdentity_kek (laws : AesKwLaws P) (hdb : Healthy env .identity)
    (hkek : Healthy env .kek)
    (ht : Searching P env key seed stored lock t ∧
      (∃ value, t.storage.kek = some value ∧ value.Holds key) ∧
      ∀ key', t.session.cachedWrappingKey = some key' → key' = key) :
    Co.Triple (fun t t' => t' = t) KeepsRows
      (Post (fun d t => Searching P env key seed stored lock t ∧
        IsIdentity stored.publicKeyB64 seed d) fun _ _ => False)
      (unwrapIdentity P env stored) t := by
  have hstable : Stable env (fun t t' => t' = t) fun t => Searching P env key seed stored lock t ∧
      (∃ value, t.storage.kek = some value ∧ value.Holds key) ∧
      ∀ key', t.session.cachedWrappingKey = some key' → key' = key := by
    constructor
    · rintro t t' h rfl
      exact h
    · rintro t c ⟨h, hentry, hcached⟩ hc
      exact ⟨searching_stable.quiet t c h hc, hentry, hcached⟩
  have hresolve : Co.Triple (fun t t' => t' = t) KeepsRows
      (Post (fun key' t => (Searching P env key seed stored lock t ∧
        (∃ value, t.storage.kek = some value ∧ value.Holds key) ∧
        ∀ key', t.session.cachedWrappingKey = some key' → key' = key) ∧ key' = key)
        fun _ _ => False) (getOrCreateWrappingKey env) t := by
    apply resolveWrappingKey_finds (keepsRows_guarantee env) hstable
      (fun t h => h.1.available) hkek
      (fun t h => Or.inl (h.2.1.imp fun value h => ⟨h.1, h.2.opens⟩)) (fun t key' h => h.2.2 key')
      ?_ ?_ ht
    · rintro t ⟨⟨hrecoverable, hcached, hidentity, havailable, hlock⟩, hentry, hkeys⟩
      exact ⟨⟨rfl, rfl, rfl⟩, ⟨hrecoverable, hcached, hidentity, havailable, hlock⟩, hentry, hkeys⟩
    · rintro t ⟨⟨hrecoverable, -, hidentity, havailable, hlock⟩, hentry, -⟩
      have hkeys : ∀ key', some key = some key' → key' = key := by
        rintro key' ⟨⟩
        rfl
      exact ⟨⟨rfl, rfl, rfl⟩, ⟨hrecoverable, Or.inr hkeys, hidentity, havailable, hlock⟩,
        hentry, hkeys⟩
  refine hresolve.bind (keepsRows_guarantee env).trans ?_ ?_
  · rintro t key' ⟨ht, rfl⟩
    refine (unwrapIdentityWith_right laws (keepsRows_guarantee env) hstable
      (fun t h => h.1.available) hdb ht.2.1.choose_spec.2.usable.2 ht.1.recoverable.pair.record
      (fun t h => h.1.recoverable.pair.devicePrivRaw) ht).mono fun t x hx => ?_
    cases x with
    | ok d => exact ⟨hx.1.1, hx.2⟩
    | error e => exact hx
  · rintro t e ⟨⟩

/-- The search, with the entry of the old layout. -/
def SearchingLegacy (P : IdentityPrimitives) (env : Runtime) (key : CryptoKey) (seed : Key32)
    (stored : StoredIdentity) (lock : Option Agent) (entry : KekEntry) (t : Tab) : Prop :=
  Searching P env key seed stored lock t ∧ t.storage.legacyWrappingKey = some entry.stored

section Legacy

variable {entry : KekEntry}

theorem searchingLegacy_stable :
    Stable env (fun t t' => t' = t) (SearchingLegacy P env key seed stored lock entry) where
  rely := by
    rintro t t' h rfl
    exact h
  quiet := fun t c h hc => ⟨searching_stable.quiet t c h.1 hc, h.2⟩

theorem SearchingLegacy.put (hholds : entry.stored.Holds key)
    (h : SearchingLegacy P env key seed stored lock entry t) (value : StoredValue) :
    KeepsRows t (t.withStorage (deviceKek.put value)) ∧
      SearchingLegacy P env key seed stored lock entry
        (t.withStorage (deviceKek.put value)) := by
  obtain ⟨⟨⟨⟨hrecord, hdevice, hraw⟩, -⟩, -, hidentity, havailable, hlock⟩, hentry⟩ := h
  have hlegacy : ∃ value, t.storage.legacyWrappingKey = some value ∧ value.Holds key :=
    ⟨_, hentry, hholds⟩
  exact ⟨⟨rfl, rfl, rfl⟩, ⟨⟨⟨hrecord, hdevice, hraw⟩, Or.inr hlegacy⟩, Or.inl hlegacy, hidentity,
    havailable, hlock⟩, hentry⟩

theorem SearchingLegacy.probe (h : SearchingLegacy P env key seed stored lock entry t) (b : Bool) :
    KeepsRows t (t.withSession (deviceKek.cacheProbe b)) ∧
      SearchingLegacy P env key seed stored lock entry
        (t.withSession (deviceKek.cacheProbe b)) := by
  obtain ⟨⟨hrecoverable, hcached, hidentity, havailable, hlock⟩, hentry⟩ := h
  exact ⟨⟨rfl, rfl, rfl⟩, ⟨hrecoverable, hcached, hidentity, havailable, hlock⟩, hentry⟩

theorem SearchingLegacy.cache (hholds : entry.stored.Holds key)
    (h : SearchingLegacy P env key seed stored lock entry t) (key' : CryptoKey) :
    KeepsRows t (t.withSession (deviceKek.cacheKey key')) ∧
      SearchingLegacy P env key seed stored lock entry
        (t.withSession (deviceKek.cacheKey key')) := by
  obtain ⟨⟨hrecoverable, -, hidentity, havailable, hlock⟩, hentry⟩ := h
  exact ⟨⟨rfl, rfl, rfl⟩, ⟨hrecoverable, Or.inl ⟨_, hentry, hholds⟩, hidentity, havailable, hlock⟩,
    hentry⟩

/-- The key of the old layout: whatever key is tried first, the rows stay, and
under a wrong one the unwrap throws. -/
theorem unwrapIdentity_legacy (laws : AesKwLaws P) (hdb : Healthy env .identity)
    (hholds : entry.stored.Holds key)
    (ht : SearchingLegacy P env key seed stored lock entry t) :
    Co.Triple (fun t t' => t' = t) KeepsRows
      (Post (fun d t => Searching P env key seed stored lock t ∧
          IsIdentity stored.publicKeyB64 seed d)
        fun _ => SearchingLegacy P env key seed stored lock entry)
      (unwrapIdentity P env stored) t := by
  have hkeeps := getOrCreateWrappingKey_keeps (keepsRows_guarantee env) searchingLegacy_stable
    (fun t h => h.1.available) (fun t value h => h.put hholds value) (fun t b h => h.probe b)
    (fun t key' h => h.cache hholds key') ht
  refine hkeeps.bind (keepsRows_guarantee env).trans ?_ fun t e h => h
  intro t key' ht
  by_cases hraw : key'.raw = key.raw
  · by_cases hunwraps : key'.unwraps = true
    · have hrecord := ht.1.recoverable.pair.record
      rw [← hraw] at hrecord
      refine (unwrapIdentityWith_right laws (keepsRows_guarantee env) searchingLegacy_stable
        (fun t h => h.1.available) hdb hunwraps hrecord (fun t h => ?_) ht).mono fun t x hx => ?_
      · rw [hraw]
        exact h.1.recoverable.pair.devicePrivRaw
      · cases x with
        | ok d => exact ⟨hx.1.1, hx.2⟩
        | error e => exact hx.elim
    · refine (unwrapIdentityWith_fails (keepsRows_guarantee env) searchingLegacy_stable
        (fun t h => h.1.available) (unfit_of_unwrap
          (unwrapSecretBytes_refused (Bool.eq_false_iff.mpr hunwraps)))
        (fun t h => h.1.recoverable.pair.devicePrivRaw) ht).mono fun t x hx => ?_
      cases x with
      | ok d => exact hx.elim
      | error e => exact hx
  · refine (unwrapIdentityWith_wrong laws (keepsRows_guarantee env) searchingLegacy_stable
      (fun t h => h.1.available) hraw (fun t h => h.1.recoverable.pair.devicePrivRaw) ht).mono
      fun t x hx => ?_
    cases x with
    | ok d => exact hx.elim
    | error e => exact hx

end Legacy

/-! ## The stored branch -/

theorem useIdentity_found {d : DeviceIdentity} (ht : Searching P env key seed stored lock t)
    (hd : IsIdentity stored.publicKeyB64 seed d) :
    Co.Triple (fun t t' => t' = t) KeepsRows (Found P env key seed stored lock)
      (useIdentity P env d) t := by
  have hseed : d.privateKeySeed.isSome = true := by
    rw [hd.2]
    rfl
  simp only [useIdentity, hseed, if_true]
  exact modify_bind (keepsRows_guarantee env) ⟨rfl, rfl, rfl⟩
    (Co.Triple.value (keepsRows_guarantee env).refl
      ⟨ht.recoverable, ht.cached, ht.available, ht.lock, d, rfl, hd, rfl⟩)

/-- **The stored branch**: the identity is found, at once or through recovery. -/
theorem useStored_found (laws : AesKwLaws P) (hdb : Healthy env .identity)
    (hkek : (Healthy env .kek ∧ ∃ value, t.storage.kek = some value ∧ value.Holds key) ∨
      ∃ value, t.storage.legacyWrappingKey = some value ∧ value.Holds key)
    (ht : Searching P env key seed stored lock t) :
    Co.Triple (fun t t' => t' = t) KeepsRows (Found P env key seed stored lock)
      (useStored P env stored) t := by
  by_cases hlegacy : ∃ value, t.storage.legacyWrappingKey = some value ∧ value.Holds key
  · obtain ⟨value, hvalue, entry, hclassify, hyields⟩ := hlegacy
    obtain rfl := classifyKekEntry_stored hclassify
    have hholds : entry.stored.Holds key := ⟨entry, hclassify, hyields⟩
    refine (unwrapIdentity_legacy laws hdb hholds ⟨ht, hvalue⟩).attempt_bind
      (keepsRows_guarantee env).trans fun t x hx => ?_
    cases x with
    | ok d => exact useIdentity_found hx.1 hx.2
    | error e =>
        have hrecover := recoverWithLegacyKey_right laws (keepsRows_guarantee env)
          searchingLegacy_stable (fun t h => h.1.available) hdb hx.1.recoverable.pair.record
          (fun t h => h.1.recoverable.pair.devicePrivRaw) (fun t h => h.2) hclassify hyields
          (fun t h => h.put hholds _) (fun t b h => h.probe b) (fun t h => h.cache hholds key) hx
        refine hrecover.bind (keepsRows_guarantee env).trans ?_ ?_
        · rintro t d ⟨ht, d', rfl, hd⟩
          exact useIdentity_found ht.1 hd
        · rintro t e ⟨⟩
  · obtain ⟨hhealthy, hentry⟩ := hkek.resolve_right hlegacy
    refine (unwrapIdentity_kek laws hdb hhealthy
      ⟨ht, hentry, ht.cached.resolve_left hlegacy⟩).attempt_bind
      (keepsRows_guarantee env).trans fun t x hx => ?_
    cases x with
    | ok d => exact useIdentity_found hx.1 hx.2
    | error e => exact hx.elim

theorem getOrCreateDeviceIdentityInner_found (laws : AesKwLaws P) (hdb : Healthy env .identity)
    (ht : Searching P env key seed stored lock t) :
    Co.Triple (fun t t' => t' = t) KeepsRows (Found P env key seed stored lock)
      (getOrCreateDeviceIdentityInner P env) t := by
  refine get_bind ?_
  simp only [ht.cachedIdentity]
  refine (load_triple (keepsRows_guarantee env) searching_stable (fun t h => h.available)
    ht).attempt_bind (keepsRows_guarantee env).trans fun t x hx => ?_
  cases x with
  | ok row =>
      obtain ⟨ht, t₀, ht₀, rfl⟩ := hx
      simp only [ht₀.recoverable.pair.deviceKey]
      exact useStored_found laws hdb ht.recoverable.key ht
  | error e => exact absurd hx.2 hdb.noFaults

/-- **A call in such a tab** finds the identity, and leaves the tab so. -/
theorem getOrCreateDeviceIdentity_kept (laws : AesKwLaws P) (hdb : Healthy env .identity)
    (ht : Kept P env key seed stored t) :
    Co.Triple (fun t t' => t' = t) KeepsRows
      (fun t x => Kept P env key seed stored t ∧ ∃ d, x = .ok d ∧
        IsIdentity stored.publicKeyB64 seed d)
      (getOrCreateDeviceIdentity P env me) t := by
  cases hcached : t.session.cachedIdentity with
  | some d =>
      refine get_bind ?_
      simp only [hcached]
      exact Co.Triple.value (keepsRows_guarantee env).refl
        ⟨ht, d, rfl, ht.cachedIdentity d hcached⟩
  | none =>
      refine getOrCreateDeviceIdentity_alone (Searching P env key seed stored)
        (Found P env key seed stored) (keepsRows_guarantee env) ?_ hcached ht.inflight
        ⟨ht.recoverable, ht.cached, hcached, ht.available, ht.lock⟩ (fun t h => h.lock) ?_
        (fun lock t => getOrCreateDeviceIdentityInner_found laws hdb) ?_ ?_
      · intro t t' hstorage
        rw [KeepsRows, hstorage]
        exact ⟨rfl, rfl, rfl⟩
      · rintro t ⟨hrecoverable, hcached, hidentity, havailable, -⟩
        exact ⟨hrecoverable, hcached, hidentity, havailable, rfl⟩
      · rintro t x ⟨hrecoverable, hcached, havailable, -, hfound⟩
        exact ⟨hrecoverable, hcached, havailable, rfl, hfound⟩
      · rintro t x ⟨hrecoverable, hcached, havailable, hlock, d, rfl, hd, hsome⟩ promise
        refine ⟨⟨hrecoverable, hcached, ?_, havailable, rfl, hlock⟩, d, rfl, hd⟩
        intro d' hd'
        have hsome' : (t.settlePromise promise (.ok d)).session.cachedIdentity = some d := hsome
        rw [hsome'] at hd'
        cases hd'
        exact hd

end

/-- **A recoverable identity is always recovered**, in the next session and in every
later one: on any runtime whose identity database works, with whatever the KEK database
holds — or does, while the old layout still has the key. -/
theorem recoverable_recovers {P : IdentityPrimitives} (laws : AesKwLaws P) {env : Runtime}
    (hdb : Healthy env .identity) {key : CryptoKey} {seed : Key32} {stored : StoredIdentity}
    (me : Agent) (sessions : ℕ) {storage : Storage}
    (h : Recoverable P env key seed stored storage) :
    RecoversIn P env me stored seed sessions storage := by
  induction sessions generalizing storage with
  | zero => trivial
  | succ sessions ih =>
      refine (getOrCreateDeviceIdentity_kept laws hdb h.kept).mono ?_
      rintro t x ⟨ht, hd⟩
      exact ⟨hd, ih ht.recoverable⟩

/-- A noble-only pair under key 1, which is left under the name of the old layout
while the KEK database holds key 2. -/
def bogusKekStorage : Storage :=
  { Storage.empty with
    deviceKey := some ⟨toBase64url (samplePrimitives.ed25519PublicKey (sampleKey 7)).bytes, []⟩
    devicePrivRaw := some (samplePrimitives.aesKwWrap (sampleKey 1).bytes (sampleKey 7).bytes)
    legacyWrappingKey := some (.arrayBuffer (sampleKey 1).bytes)
    kek := some (.cryptoKey (aesKwKey false (sampleKey 2).bytes)) }

/-- A runtime with Web Locks and everything else, whose KEK database may fault. -/
def faultyKekRuntime : Runtime :=
  ⟨true, true, .dropping 0, .notSupported, true, true, false, fun db => db = .kek⟩

theorem recoverable_recovers_sample :
    RecoversIn samplePrimitives faultyKekRuntime ⟨0, 0⟩
      ⟨toBase64url (samplePrimitives.ed25519PublicKey (sampleKey 7)).bytes, []⟩ (sampleKey 7) 2
      bogusKekStorage :=
  recoverable_recovers samplePrimitives_laws ⟨rfl, rfl⟩ ⟨0, 0⟩ 2
    ⟨⟨⟨Or.inl rfl, fromBase64url_toBase64url _⟩, rfl, rfl⟩,
      Or.inr ⟨_, rfl, (holds_generated (sampleKey 1)).1⟩⟩

end Oxpulse.Identity
