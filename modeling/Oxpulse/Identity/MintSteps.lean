import Oxpulse.Identity.MintParts

/-!
# The steps of a first call

Each of the three functions looks at its cache, loads its row, mints, saves and caches.
Started while its part is not built, a call builds it, as long as it is alone with it;
started later, it finds what is built.
-/

namespace Oxpulse.Identity

open Oxpulse.Coroutine Oxpulse.Crypto

section

variable {P : IdentityPrimitives} {env : Runtime} {calls : Prop} {t : Tab}

/-! ## The profile seed -/

theorem loadOrMintProfileSeed_has (laws : AesKwLaws P) (hdb : Healthy env .identity)
    (havailable : t.Available env)
    (h : MintFirst P env calls .profileSeed (mintPart .profileSeed t) ∨
      ∃ x, MintBuilt P env .profileSeed x (mintPart .profileSeed t)) :
    MintTriple laws env calls .profileSeed (Has P env .profileSeed .seed)
      (loadOrMintProfileSeed env) t := by
  have hG := mintParts_guarantee laws env calls .profileSeed
  rcases h with hfirst | ⟨seed, hbuilt⟩
  · have hstable : Stable env ((mintParts laws env calls).Rely .profileSeed)
        (Knows env .profileSeed (MintFirst P env calls .profileSeed)) :=
      first_stable laws (mintFirst_not_ready .profileSeed)
    refine load_bind hdb hG hstable (fun t h => h.available) ⟨havailable, hfirst⟩
      fun t t₀ ht ht₀ => ?_
    simp only [show t₀.storage.profileSeed = none from ht₀.part.1]
    refine draw_evaluates.bind_triple hG hstable.rely ht ?_ ?_
    · rintro seed t - ht
      have hput : ∀ t, Knows env .profileSeed (MintFirst P env calls .profileSeed) t →
          (mintParts laws env calls).Gives .profileSeed t
              (t.withStorage fun storage => { storage with profileSeed := some seed.bytes }) ∧
            Knows env .profileSeed (ProfileBuilt seed.bytes)
              (t.withStorage fun storage => { storage with profileSeed := some seed.bytes }) := by
        intro t ht
        exact ht.first laws (mintFirst_not_ready .profileSeed) (fun h => h)
          ⟨rfl, eq_of_eq_none ht.part.2⟩ (fun v hv _ => ⟨_, hv⟩)
      refine write_bind (Knows env .profileSeed (ProfileBuilt seed.bytes)) hdb hG hstable
        (fun t h => h.available) (built_stable laws .profileSeed seed.bytes).rely hput ht
        fun t ht => ?_
      exact Co.Triple.value hG.refl ⟨seed.bytes, ht, rfl⟩
    · rintro e t ⟨_, h⟩
      cases h
  · refine load_bind hdb hG (built_stable laws .profileSeed seed) (fun t h => h.available)
      ⟨havailable, hbuilt⟩ fun t t₀ ht ht₀ => ?_
    simp only [show t₀.storage.profileSeed = some seed from ht₀.part.row]
    exact Co.Triple.value hG.refl ⟨seed, ht, rfl⟩

theorem getOrCreateProfileSeed_builds (laws : AesKwLaws P) (hdb : Healthy env .identity) :
    (mintParts laws env calls).Builds .profileSeed (mint P env .profileSeed) := by
  have hG := mintParts_guarantee laws env calls .profileSeed
  intro t havailable hstate
  refine mint_yields laws (remembered_triple hG ?_ fun _ => ?_)
  · intro seed hseed
    rcases hstate with hfirst | ⟨x, hx⟩
    · rw [show t.session.cachedProfileSeed = none from hfirst.2] at hseed
      cases hseed
    · exact ⟨x, ⟨havailable, hx⟩, congrArg Material.seed (hx.cached seed hseed)⟩
  · refine (loadOrMintProfileSeed_has laws hdb havailable hstate).mono fun t x hx => ?_
    cases x with
    | error e => exact hx
    | ok seed =>
        obtain ⟨seed', ht, hvalue⟩ := hx
        cases hvalue
        have hcache : (mintParts laws env calls).Gives .profileSeed t
              (t.withSession fun s => { s with cachedProfileSeed := some seed }) ∧
            Knows env .profileSeed (ProfileBuilt seed)
              (t.withSession fun s => { s with cachedProfileSeed := some seed }) := by
          refine ht.built laws (fun h => h) ⟨ht.part.row, ?_⟩
          rintro seed' ⟨⟩
          rfl
        exact ⟨hcache.1, seed, hcache.2, rfl⟩

/-! ## The room-host seed -/

theorem roomHostUnbuilt_not_ready {key : CryptoKey} : ∀ v, RoomHostUnbuilt key v →
    ¬ MintReady env .roomHostSeed v :=
  fun _ h hready => hready h.row

theorem roomHostUnset_not_ready : ∀ v, RoomHostUnset env v → ¬ MintReady env .roomHostSeed v :=
  fun _ h hready => hready h.row

/-- The KEK of the room-host store, when its part knows it. -/
theorem getWrappingKey_ready (laws : AesKwLaws P) (hdb : Healthy env .roomHost) {key : CryptoKey}
    {J : Tab → Prop} (hJ : Stable env ((mintParts laws env calls).Rely .roomHostSeed) J)
    (havailable : ∀ t, J t → t.Available env)
    (hkek : ∀ t, J t → (mintPart .roomHostSeed t : RoomHostPart).kek.Ready key)
    (hprobe : ∀ t, J t → (mintParts laws env calls).Gives .roomHostSeed t
        (t.withSession (roomHostKek.cacheProbe env.structuredClone)) ∧
      J (t.withSession (roomHostKek.cacheProbe env.structuredClone)))
    (hcache : ∀ t, J t → (mintParts laws env calls).Gives .roomHostSeed t
        (t.withSession (roomHostKek.cacheKey key)) ∧ J (t.withSession (roomHostKek.cacheKey key)))
    (ht : J t) :
    MintTriple laws env calls .roomHostSeed (fun key' t => J t ∧ key' = key)
      (getWrappingKey env) t := by
  refine resolveWrappingKey_finds (mintParts_guarantee laws env calls .roomHostSeed) hJ
    havailable hdb
    (fun t ht => ?_) (fun t key' ht => (hkek t ht).cached key') hprobe hcache ht
  rcases (hkek t ht).entry with ⟨value, hvalue, hholds⟩ | ⟨-, value, hlegacy, -⟩
  · exact Or.inl ⟨value, hvalue, hholds.opens⟩
  · cases hlegacy

theorem loadOrMintRoomHostSeed_unbuilt (laws : AesKwLaws P) (hdb : Healthy env .roomHost)
    (hkek : MintTriple laws env calls .roomHostSeed
      (fun key t => Knows env .roomHostSeed (RoomHostUnbuilt key) t) (getWrappingKey env) t) :
    MintTriple laws env calls .roomHostSeed (Has P env .roomHostSeed .seed)
      (loadOrMintRoomHostSeed env P) t := by
  have hG := mintParts_guarantee laws env calls .roomHostSeed
  refine hkek.bind hG.trans ?_ ?_
  · intro t key ht
    have hstable : Stable env ((mintParts laws env calls).Rely .roomHostSeed)
        (Knows env .roomHostSeed (RoomHostUnbuilt key)) :=
      first_stable laws roomHostUnbuilt_not_ready
    refine load_bind hdb hG hstable (fun t h => h.available) ht fun t t₀ ht ht₀ => ?_
    simp only [show t₀.storage.roomHostSeed = none from ht₀.part.row]
    refine draw_evaluates.bind_triple hG hstable.rely ht ?_ ?_
    · rintro seed t - ht
      refine (wrapKey32_evaluates ht.part.kek.usable.1).bind_triple hG hstable.rely ht ?_
        fun e t h => by cases h
      rintro wrapped t h ht
      cases h
      have hput : ∀ t, Knows env .roomHostSeed (RoomHostUnbuilt key) t →
          (mintParts laws env calls).Gives .roomHostSeed t (t.withStorage fun storage =>
              { storage with roomHostSeed := some (P.aesKwWrap key.raw seed.bytes) }) ∧
            Knows env .roomHostSeed (RoomHostBuilt P ⟨key, seed.bytes⟩)
              (t.withStorage fun storage =>
                { storage with roomHostSeed := some (P.aesKwWrap key.raw seed.bytes) }) := by
        intro t ht
        refine ht.first laws roomHostUnbuilt_not_ready (fun h => h)
          ⟨ht.part.kek, rfl, eq_of_eq_none ht.part.cached⟩ (fun v hv _ => ⟨_, hv⟩)
      refine write_bind (Knows env .roomHostSeed (RoomHostBuilt P ⟨key, seed.bytes⟩)) hdb hG
        hstable (fun t h => h.available)
        (built_stable laws .roomHostSeed ⟨key, seed.bytes⟩).rely hput ht fun t ht => ?_
      exact Co.Triple.value hG.refl ⟨⟨key, seed.bytes⟩, ht, rfl⟩
    · rintro e t ⟨_, h⟩
      cases h
  · rintro t e ⟨⟩

theorem loadOrMintRoomHostSeed_has (laws : AesKwLaws P) (hdb : Healthy env .roomHost)
    (havailable : t.Available env)
    (h : MintFirst P env calls .roomHostSeed (mintPart .roomHostSeed t) ∨
      ∃ x, MintBuilt P env .roomHostSeed x (mintPart .roomHostSeed t)) :
    MintTriple laws env calls .roomHostSeed (Has P env .roomHostSeed .seed)
      (loadOrMintRoomHostSeed env P) t := by
  have hG := mintParts_guarantee laws env calls .roomHostSeed
  rcases h with (hunset | ⟨key, hunbuilt⟩) | ⟨⟨key, seed⟩, hbuilt⟩
  · refine loadOrMintRoomHostSeed_unbuilt laws hdb ?_
    have hstable : Stable env ((mintParts laws env calls).Rely .roomHostSeed)
        (Knows env .roomHostSeed (RoomHostUnset env)) := first_stable laws roomHostUnset_not_ready
    have hresolved : ∀ key, Stable env ((mintParts laws env calls).Rely .roomHostSeed)
        (Knows env .roomHostSeed (RoomHostUnbuilt key)) :=
      fun key => first_stable laws roomHostUnbuilt_not_ready
    refine resolveWrappingKey_minted hG hstable (fun t h => h.available) hdb
      (fun key => (hresolved key).rely)
      (fun t h => h.part.kek.entry) (fun t h => h.part.kek.cached)
      (fun t b h => h.part.kek.supported b) (fun t h => Co.Triple.value hG.refl ⟨h, rfl⟩) ?_ ?_ ?_
      ⟨havailable, hunset⟩
    · intro t ht
      refine ht.first laws roomHostUnset_not_ready (fun h => h)
        ⟨ht.part.kek.cacheProbe, ht.part.row, ht.part.cached⟩
        (fun v hv h => absurd h (roomHostUnset_not_ready v hv))
    · intro t value key ht hholds
      refine ht.first laws roomHostUnset_not_ready (fun h => h)
        ⟨ht.part.kek.put hholds, ht.part.row, ht.part.cached⟩
        (fun v hv h => absurd h (roomHostUnbuilt_not_ready v hv))
    · intro t key ht
      refine ht.first laws roomHostUnbuilt_not_ready (fun h => h)
        ⟨ht.part.kek.cacheKey, ht.part.row, ht.part.cached⟩
        (fun v hv h => absurd h (roomHostUnbuilt_not_ready v hv))
  · refine loadOrMintRoomHostSeed_unbuilt laws hdb ?_
    have hstable : Stable env ((mintParts laws env calls).Rely .roomHostSeed)
        (Knows env .roomHostSeed (RoomHostUnbuilt key)) :=
      first_stable laws roomHostUnbuilt_not_ready
    refine (getWrappingKey_ready laws hdb hstable (fun t h => h.available) (fun t h => h.part.kek)
      ?_ ?_ ⟨havailable, hunbuilt⟩).mono ?_
    · intro t ht
      refine ht.first laws roomHostUnbuilt_not_ready (fun h => h)
        ⟨ht.part.kek.cacheProbe, ht.part.row, ht.part.cached⟩
        (fun v hv h => absurd h (roomHostUnbuilt_not_ready v hv))
    · intro t ht
      refine ht.first laws roomHostUnbuilt_not_ready (fun h => h)
        ⟨ht.part.kek.cacheKey, ht.part.row, ht.part.cached⟩
        (fun v hv h => absurd h (roomHostUnbuilt_not_ready v hv))
    · intro t x hx
      cases x with
      | error e => exact hx
      | ok key' =>
          obtain ⟨ht, rfl⟩ := hx
          exact ht
  · have hstable : Stable env ((mintParts laws env calls).Rely .roomHostSeed)
        (Knows env .roomHostSeed (RoomHostBuilt P ⟨key, seed⟩)) :=
      built_stable laws .roomHostSeed ⟨key, seed⟩
    have hkek : MintTriple laws env calls .roomHostSeed (fun key' t =>
        Knows env .roomHostSeed (RoomHostBuilt P ⟨key, seed⟩) t ∧ key' = key)
        (getWrappingKey env) t := by
      refine getWrappingKey_ready laws hdb hstable (fun t h => h.available)
        (fun t h => h.part.kek) ?_ ?_ ⟨havailable, hbuilt⟩
      · intro t ht
        exact ht.built laws (fun h => h)
          ⟨ht.part.kek.cacheProbe, ht.part.row, ht.part.cached⟩
      · intro t ht
        exact ht.built laws (fun h => h)
          ⟨ht.part.kek.cacheKey, ht.part.row, ht.part.cached⟩
    refine hkek.bind hG.trans ?_ ?_
    · rintro t key' ⟨ht, rfl⟩
      refine load_bind hdb hG hstable (fun t h => h.available) ht fun t t₀ ht ht₀ => ?_
      have hrow : t₀.storage.roomHostSeed = some (P.aesKwWrap key'.raw seed) := ht₀.part.row
      simp only [hrow]
      refine ((unwrapSecretBytes_evaluates ht.part.kek.usable.2).triple hG hstable.rely ht).mono ?_
      rintro t x ⟨ht, rfl⟩
      rw [laws.unwrap_wrap]
      exact ⟨⟨key', seed⟩, ht, rfl⟩
    · rintro t e ⟨⟩

theorem getOrCreateRoomHostSeed_builds (laws : AesKwLaws P) (hdb : Healthy env .roomHost) :
    (mintParts laws env calls).Builds .roomHostSeed (mint P env .roomHostSeed) := by
  have hG := mintParts_guarantee laws env calls .roomHostSeed
  intro t havailable hstate
  refine mint_yields laws (remembered_triple hG ?_ fun _ => ?_)
  · intro seed hseed
    rcases hstate with (hunset | ⟨key, hunbuilt⟩) | ⟨x, hx⟩
    · rw [show t.session.roomHostCachedSeed = none from hunset.cached] at hseed
      cases hseed
    · rw [show t.session.roomHostCachedSeed = none from hunbuilt.cached] at hseed
      cases hseed
    · exact ⟨x, ⟨havailable, hx⟩, congrArg Material.seed (hx.cached seed hseed)⟩
  · refine (loadOrMintRoomHostSeed_has laws hdb havailable hstate).mono fun t x hx => ?_
    cases x with
    | error e => exact hx
    | ok seed =>
        obtain ⟨x, ht, hvalue⟩ := hx
        cases hvalue
        have hcache : (mintParts laws env calls).Gives .roomHostSeed t
              (t.withSession fun s => { s with roomHostCachedSeed := some x.seed }) ∧
            Knows env .roomHostSeed (RoomHostBuilt P x)
              (t.withSession fun s => { s with roomHostCachedSeed := some x.seed }) := by
          refine ht.built laws (fun h => h) ⟨ht.part.kek, ht.part.row, ?_⟩
          rintro seed' ⟨⟩
          rfl
        exact ⟨hcache.1, x, hcache.2, rfl⟩

/-! ## The Noise keypair -/

theorem keypairUnbuilt_not_ready {key : CryptoKey} {legacy : Option StoredValue} :
    ∀ v, KeypairUnbuilt P env calls key legacy v → ¬ MintReady env .x25519Keypair v := by
  rintro v h ⟨row, hrow, husable⟩
  exact (h.row row hrow).1 husable

theorem keypairUnset_not_ready {legacy : Option StoredValue} :
    ∀ v, KeypairUnset env calls legacy v → ¬ MintReady env .x25519Keypair v := by
  rintro v h ⟨row, hrow, -⟩
  rw [h.row] at hrow
  cases hrow

theorem keypairUnbuilt_stable (laws : AesKwLaws P) (key : CryptoKey)
    (legacy : Option StoredValue) :
    Stable env ((mintParts laws env calls).Rely .x25519Keypair)
      (Knows env .x25519Keypair (KeypairUnbuilt P env calls key legacy)) :=
  first_stable laws keypairUnbuilt_not_ready

theorem loadOrMintX25519Keypair_unbuilt (laws : AesKwLaws P) (hcalls : calls)
    (hdb : Healthy env .identity)
    (legacy : Option StoredValue) (hkek : MintTriple laws env calls .x25519Keypair
      (fun key t => Knows env .x25519Keypair (KeypairUnbuilt P env calls key legacy) t)
      (getOrCreateWrappingKey env) t) :
    MintTriple laws env calls .x25519Keypair (Has P env .x25519Keypair .keypair)
      (loadOrMintX25519Keypair P env) t := by
  have hG := mintParts_guarantee laws env calls .x25519Keypair
  refine hkek.bind hG.trans ?_ ?_
  · intro t key ht
    have hmintable := ht.part.mintable hcalls
    have hstable : Stable env ((mintParts laws env calls).Rely .x25519Keypair)
        (Knows env .x25519Keypair (KeypairUnbuilt P env calls key legacy)) :=
      keypairUnbuilt_stable laws key legacy
    have hmint : ∀ t, Knows env .x25519Keypair (KeypairUnbuilt P env calls key legacy) t →
        MintTriple laws env calls .x25519Keypair (Has P env .x25519Keypair .keypair)
          (generateX25519Keypair P env key) t := by
      intro t ht
      have hbuilt : ∀ scalar row, Stable env ((mintParts laws env calls).Rely .x25519Keypair)
          (Knows env .x25519Keypair (KeypairBuilt P env ⟨key, legacy, scalar, row⟩)) :=
        fun scalar row => built_stable laws .x25519Keypair ⟨key, legacy, scalar, row⟩
      refine (generateX25519Keypair_mints laws ht.part.kek.usable hmintable hG hstable
        (fun t h => h.available) hdb (fun scalar row => (hbuilt scalar row).rely) ?_ ht).mono ?_
      · intro t scalar row ht hrow husable
        exact ht.first laws keypairUnbuilt_not_ready (fun h => h)
          ⟨ht.part.legacy, ht.part.kek, rfl, hrow, husable, eq_of_eq_none ht.part.cached⟩
          (fun v hv _ => ⟨_, hv⟩)
      · intro t x hx
        cases x with
        | error e => exact hx
        | ok kp =>
            obtain ⟨scalar, row, ht, hkp⟩ := hx
            exact ⟨_, ht, congrArg Material.keypair hkp⟩
    refine load_bind hdb hG hstable (fun t h => h.available) ht fun t t₀ ht ht₀ => ?_
    cases hrow : t₀.storage.x25519Keypair with
    | none => exact hmint t ht
    | some row =>
        obtain ⟨hunusable, scalar, hkeypair⟩ := ht₀.part.row row hrow
        refine (recoverX25519Keypair_right laws ht.part.kek.usable.2 hkeypair).bind_triple hG
          hstable.rely ht ?_ ?_
        · rintro kp t (⟨husable, -⟩ | ⟨-, h⟩) ht
          · exact absurd husable hunusable
          · cases h
            exact hmint t ht
        · rintro e t (⟨-, h⟩ | ⟨-, h⟩)
          · cases h
          · cases h
  · rintro t e ⟨⟩

theorem loadOrMintX25519Keypair_has (laws : AesKwLaws P) (hcalls : calls)
    (hdb : Healthy env .identity)
    (hkekdb : Healthy env .kek) (havailable : t.Available env)
    (h : MintFirst P env calls .x25519Keypair (mintPart .x25519Keypair t) ∨
      ∃ x, MintBuilt P env .x25519Keypair x (mintPart .x25519Keypair t)) :
    MintTriple laws env calls .x25519Keypair (Has P env .x25519Keypair .keypair)
      (loadOrMintX25519Keypair P env) t := by
  have hG := mintParts_guarantee laws env calls .x25519Keypair
  rcases h with ⟨legacy, hunset | ⟨key, hunbuilt⟩⟩ | ⟨x, hbuilt⟩
  · refine loadOrMintX25519Keypair_unbuilt laws hcalls hdb legacy ?_
    have hstable : Stable env ((mintParts laws env calls).Rely .x25519Keypair)
        (Knows env .x25519Keypair (KeypairUnset env calls legacy)) :=
      first_stable laws keypairUnset_not_ready
    refine resolveWrappingKey_minted hG hstable (fun t h => h.available) hkekdb
      (fun key => (keypairUnbuilt_stable laws key legacy).rely) (fun t h => h.part.kek.entry)
      (fun t h => h.part.kek.cached) (fun t b h => h.part.kek.supported b)
      (fun t h => adoptLegacyWrappingKey_none hG hstable (fun t h => h.available)
        (fun t h => h.part.kek.legacy) h) ?_ ?_ ?_ ⟨havailable, hunset⟩
    · intro t ht
      refine ht.first laws keypairUnset_not_ready (fun h => h)
        ⟨ht.part.mintable, ht.part.legacy, ht.part.kek.cacheProbe, ht.part.row, ht.part.cached⟩
        (fun v hv h => absurd h (keypairUnset_not_ready v hv))
    · intro t value key ht hholds
      have hnone : t.storage.x25519Keypair = none := ht.part.row
      refine ht.first laws keypairUnset_not_ready (fun h => h)
        ⟨ht.part.mintable, ht.part.legacy, ht.part.kek.put hholds, fun row hrow => ?_,
          ht.part.cached⟩ (fun v hv h => absurd h (keypairUnbuilt_not_ready v hv))
      rw [show t.storage.x25519Keypair = some row from hrow] at hnone
      cases hnone
    · intro t key ht
      refine ht.first laws keypairUnbuilt_not_ready (fun h => h)
        ⟨ht.part.mintable, ht.part.legacy, ht.part.kek.cacheKey, ht.part.row, ht.part.cached⟩
        (fun v hv h => absurd h (keypairUnbuilt_not_ready v hv))
  · refine loadOrMintX25519Keypair_unbuilt laws hcalls hdb legacy ?_
    have hstable : Stable env ((mintParts laws env calls).Rely .x25519Keypair)
        (Knows env .x25519Keypair (KeypairUnbuilt P env calls key legacy)) :=
      keypairUnbuilt_stable laws key legacy
    refine (getOrCreateWrappingKey_resolves hG hstable (fun t h => h.available) hdb hkekdb
      (fun t h => ⟨h.part.legacy, h.part.kek.entry⟩) (fun t key' h => h.part.kek.cached key') ?_ ?_
      ?_ ⟨havailable, hunbuilt⟩).mono ?_
    · intro t value ht hholds
      exact ht.first laws keypairUnbuilt_not_ready (fun h => h)
        ⟨ht.part.mintable, ht.part.legacy, ht.part.kek.put hholds, ht.part.row, ht.part.cached⟩
        (fun v hv h => absurd h (keypairUnbuilt_not_ready v hv))
    · intro t ht
      exact ht.first laws keypairUnbuilt_not_ready (fun h => h)
        ⟨ht.part.mintable, ht.part.legacy, ht.part.kek.cacheProbe, ht.part.row, ht.part.cached⟩
        (fun v hv h => absurd h (keypairUnbuilt_not_ready v hv))
    · intro t ht
      refine ht.first laws keypairUnbuilt_not_ready (fun h => h)
        ⟨ht.part.mintable, ht.part.legacy, ht.part.kek.cacheKey, ht.part.row, ht.part.cached⟩
        (fun v hv h => absurd h (keypairUnbuilt_not_ready v hv))
    · intro t x hx
      cases x with
      | error e => exact hx
      | ok key' =>
          obtain ⟨ht, rfl⟩ := hx
          exact ht
  · have hstable : Stable env ((mintParts laws env calls).Rely .x25519Keypair)
        (Knows env .x25519Keypair (KeypairBuilt P env x)) := built_stable laws .x25519Keypair x
    refine (getOrCreateWrappingKey_resolves hG hstable (fun t h => h.available) hdb hkekdb
      (fun t h => ⟨h.part.legacy, h.part.kek.entry⟩) (fun t key' h => h.part.kek.cached key') ?_ ?_
      ?_ ⟨havailable, hbuilt⟩).bind hG.trans ?_ ?_
    · intro t value ht hholds
      exact ht.built laws (fun h => h) ⟨ht.part.legacy, ht.part.kek.put hholds, ht.part.row,
        ht.part.isRow, ht.part.usable, ht.part.cached⟩
    · intro t ht
      exact ht.built laws (fun h => h) ⟨ht.part.legacy, ht.part.kek.cacheProbe, ht.part.row,
        ht.part.isRow, ht.part.usable, ht.part.cached⟩
    · intro t ht
      exact ht.built laws (fun h => h) ⟨ht.part.legacy, ht.part.kek.cacheKey, ht.part.row,
        ht.part.isRow, ht.part.usable, ht.part.cached⟩
    · rintro t key' ⟨ht, rfl⟩
      refine load_bind hdb hG hstable (fun t h => h.available) ht fun t t₀ ht ht₀ => ?_
      simp only [show t₀.storage.x25519Keypair = some x.row from ht₀.part.row]
      refine (recoverX25519Keypair_right laws ht.part.kek.usable.2 ht.part.isRow).bind_triple hG
        hstable.rely ht ?_ ?_
      · rintro kp t (⟨-, h⟩ | ⟨hunusable, -⟩) ht
        · cases h
          exact Co.Triple.value hG.refl ⟨x, ht, rfl⟩
        · exact absurd ht.part.usable hunusable
      · rintro e t (⟨-, h⟩ | ⟨-, h⟩)
        · cases h
        · cases h
    · rintro t e ⟨⟩

theorem getOrCreateX25519Keypair_builds (laws : AesKwLaws P) (hcalls : calls)
    (hdb : Healthy env .identity) (hkek : Healthy env .kek) :
    (mintParts laws env calls).Builds .x25519Keypair (mint P env .x25519Keypair) := by
  have hG := mintParts_guarantee laws env calls .x25519Keypair
  intro t havailable hstate
  refine mint_yields laws (remembered_triple hG ?_ fun _ => ?_)
  · intro kp hkp
    rcases hstate with ⟨legacy, hunset | ⟨key, hunbuilt⟩⟩ | ⟨x, hx⟩
    · rw [show t.session.cachedX25519Keypair = none from hunset.cached] at hkp
      cases hkp
    · rw [show t.session.cachedX25519Keypair = none from hunbuilt.cached] at hkp
      cases hkp
    · exact ⟨x, ⟨havailable, hx⟩, congrArg Material.keypair (hx.cached kp hkp)⟩
  · refine (loadOrMintX25519Keypair_has laws hcalls hdb hkek havailable hstate).mono
      fun t x hx => ?_
    cases x with
    | error e => exact hx
    | ok kp =>
        obtain ⟨x, ht, hvalue⟩ := hx
        cases hvalue
        have hcache : (mintParts laws env calls).Gives .x25519Keypair t (t.withSession fun s =>
              { s with cachedX25519Keypair := some (heldKeypair env x.row x.scalar) }) ∧
            Knows env .x25519Keypair (KeypairBuilt P env x) (t.withSession fun s =>
              { s with cachedX25519Keypair := some (heldKeypair env x.row x.scalar) }) := by
          refine ht.built laws (fun h => h) ⟨ht.part.legacy, ht.part.kek, ht.part.row,
            ht.part.isRow, ht.part.usable, ?_⟩
          rintro kp ⟨⟩
          rfl
        exact ⟨hcache.1, x, hcache.2, rfl⟩

end

end Oxpulse.Identity
