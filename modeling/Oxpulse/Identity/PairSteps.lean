import Oxpulse.Identity.KekSteps

/-!
# The pair of rows

An identity is stored as two rows that are only valid together. Under the key
that wrapped them an unwrap yields the stored public key and the seed; under any
other key it throws.
-/

namespace Oxpulse.Identity

open Oxpulse.Coroutine Oxpulse.Crypto

/-- A record of this seed, wrapped under a key or with the zero-length sentinel. -/
structure Record (P : IdentityPrimitives) (kek : Bytes) (seed : Key32) (stored : StoredIdentity) :
    Prop where
  wrapped : stored.wrappedPrivateKey = [] ∨
    stored.wrappedPrivateKey = P.aesKwWrap kek (ED25519_PKCS8_PREFIX ++ seed.bytes)
  matching : fromBase64url stored.publicKeyB64 = some (P.ed25519PublicKey seed).bytes

/-- **A matching pair**: the record and the raw-seed row of one seed, wrapped under
one key. -/
structure Pair (P : IdentityPrimitives) (kek : Bytes) (seed : Key32) (stored : StoredIdentity)
    (storage : Storage) : Prop where
  record : Record P kek seed stored
  deviceKey : storage.deviceKey = some stored
  devicePrivRaw : storage.devicePrivRaw = some (P.aesKwWrap kek seed.bytes)

/-- The identity with this stored public key and this seed. -/
def IsIdentity (publicKeyB64 : List Char) (seed : Key32) (d : DeviceIdentity) : Prop :=
  d.publicKeyB64 = publicKeyB64 ∧ d.privateKeySeed = some seed.bytes

theorem toKey32_bytes (seed : Key32) : toKey32 seed.bytes = some seed := by
  rw [toKey32, dif_pos seed.size]

section

variable {P : IdentityPrimitives} {env : Runtime} {R G : Tab → Tab → Prop} {J : Tab → Prop}
  {t : Tab} {key : CryptoKey} {seed : Key32} {stored : StoredIdentity}

/-! ## Unwrap -/

theorem importStoredPublicKey_evaluates
    (hmatch : fromBase64url stored.publicKeyB64 = some (P.ed25519PublicKey seed).bytes) :
    Evaluates (fun x => ∃ publicKey, x = .ok publicKey) (importStoredPublicKey env stored) := by
  have himport : Evaluates
      (fun x => x = whenSupported env.ed25519 (.ok (P.ed25519PublicKey seed).bytes))
      (do
        let bytes ← Co.orThrow .data (fromBase64url stored.publicKeyB64)
        importPublicKey env.ed25519 bytes : TabCo Bytes) := by
    refine evaluates_orThrow.bind ?_ ?_
    · intro bytes h
      rw [hmatch] at h
      cases h
      refine importPublicKey_evaluates.mono ?_
      rintro x rfl
      rw [if_pos (P.ed25519PublicKey seed).size]
    · intro e h
      rw [hmatch] at h
      cases h
  refine himport.unlessNotSupported.mono ?_
  rintro x ⟨y, rfl, rfl⟩
  cases env.ed25519 with
  | true => exact ⟨_, rfl⟩
  | false => exact ⟨_, rfl⟩

/-- Under the key that wrapped it, the private handle is there or the runtime has none. -/
theorem unwrapStoredPrivateKey_right (laws : AesKwLaws P) (hunwraps : key.unwraps = true)
    (hrecord : Record P key.raw seed stored) :
    Evaluates (fun x => ∃ privateKey, x = .ok privateKey)
      (unwrapStoredPrivateKey P env stored key) := by
  rw [unwrapStoredPrivateKey]
  split
  · exact evaluates_pure ⟨none, rfl⟩
  · next hne =>
      have hwrapped := hrecord.wrapped.resolve_left hne
      refine (unwrapPkcs8_evaluates hunwraps).unlessNotSupported.mono ?_
      rintro x ⟨y, rfl, rfl⟩
      have hopen : openPkcs8 P env ED25519_PKCS8_PREFIX stored.wrappedPrivateKey key =
          .ok seed.bytes := by
        simp only [openPkcs8, hwrapped, laws.unwrap_wrap, pkcs8Secret_ed25519, orError]
      rw [hopen]
      cases env.ed25519 with
      | true => exact ⟨_, rfl⟩
      | false => exact ⟨_, rfl⟩

theorem unwrapRawSeed_right (laws : AesKwLaws P) (hunwraps : key.unwraps = true)
    (hmatch : fromBase64url stored.publicKeyB64 = some (P.ed25519PublicKey seed).bytes) :
    Evaluates (fun x => x = .ok seed.bytes)
      (unwrapRawSeed P stored key (P.aesKwWrap key.raw seed.bytes)) := by
  refine (unwrapSecretBytes_evaluates hunwraps).bind ?_ ?_
  · intro rawSeed h
    rw [laws.unwrap_wrap] at h
    cases h
    refine evaluates_orThrow.bind ?_ ?_
    · intro seed' h
      rw [toKey32_bytes] at h
      cases h
      refine evaluates_orThrow.bind ?_ ?_
      · intro storedPub h
        rw [hmatch] at h
        cases h
        rw [if_pos rfl]
        exact evaluates_pure rfl
      · intro e h
        rw [hmatch] at h
        cases h
    · intro e h
      rw [toKey32_bytes] at h
      cases h
  · intro e h
    rw [laws.unwrap_wrap] at h
    cases h

/-- **Under the right key** the identity is unwrapped. -/
theorem unwrapIdentityWith_right (laws : AesKwLaws P) (hG : Guarantee env G) (hJ : Stable env R J)
    (havailable : ∀ t, J t → t.Available env) (hdb : Healthy env .identity)
    (hunwraps : key.unwraps = true) (hrecord : Record P key.raw seed stored)
    (hraw : ∀ t, J t → t.storage.devicePrivRaw = some (P.aesKwWrap key.raw seed.bytes)) (ht : J t) :
    Co.Triple R G (Post (fun d t => J t ∧ IsIdentity stored.publicKeyB64 seed d) fun _ _ => False)
      (unwrapIdentityWith P env stored key) t := by
  refine (importStoredPublicKey_evaluates hrecord.matching).bind_triple hG hJ.rely ht ?_ ?_
  · intro publicKey t _ ht
    refine (unwrapStoredPrivateKey_right laws hunwraps hrecord).bind_triple hG hJ.rely ht ?_ ?_
    · intro privateKey t _ ht
      refine load_bind hdb hG hJ havailable ht fun t t₀ ht ht₀ => ?_
      simp only [hraw t₀ ht₀]
      refine (unwrapRawSeed_right laws hunwraps hrecord.matching).bind_triple hG hJ.rely ht ?_ ?_
      · intro rawSeed t h ht
        cases h
        exact Co.Triple.value hG.refl ⟨ht, rfl, rfl⟩
      · rintro e t ⟨⟩
    · rintro e t ⟨_, ⟨⟩⟩
  · rintro e t ⟨_, ⟨⟩⟩

/-- The key does not yield the seed of the stored public key. -/
def Unfit (P : IdentityPrimitives) (stored : StoredIdentity) (row : Bytes) (key : CryptoKey) :
    Prop :=
  Evaluates (fun x => ∃ e, x = .error e) (unwrapRawSeed P stored key row)

/-- A key that does not open the seed row. -/
theorem unfit_of_unwrap {row : Bytes}
    (hfails : Evaluates (fun x => ∃ e, x = .error e) (unwrapSecretBytes P key row)) :
    Unfit P stored row key := by
  refine hfails.bind ?_ fun e _ => ⟨e, rfl⟩
  rintro rawSeed ⟨e, ⟨⟩⟩

/-- **With an unfit key** the unwrap throws. -/
theorem unwrapIdentityWith_fails {row : Bytes} (hG : Guarantee env G) (hJ : Stable env R J)
    (havailable : ∀ t, J t → t.Available env) (hunfit : Unfit P stored row key)
    (hraw : ∀ t, J t → t.storage.devicePrivRaw = some row) (ht : J t) :
    Co.Triple R G (Post (fun _ _ => False) fun _ => J) (unwrapIdentityWith P env stored key) t := by
  have hkeeps : ∀ {α : Type} {co : TabCo α} t, J t → Evaluates (fun _ => True) co →
      Co.Triple R G (Post (fun _ => J) fun _ => J) co t := by
    intro α co t ht h
    refine (h.triple hG hJ.rely ht).mono fun t x hx => ?_
    cases x with
    | ok a => exact hx.1
    | error e => exact hx.1
  have hpublic : Evaluates (fun _ => True) (importStoredPublicKey env stored) := by
    refine Evaluates.mono (Evaluates.unlessNotSupported (V := fun _ => True) ?_) fun _ _ => trivial
    exact evaluates_orThrow.bind (fun _ _ => importPublicKey_evaluates.mono fun _ _ => trivial)
      fun _ _ => trivial
  have hprivate : Evaluates (fun _ => True) (unwrapStoredPrivateKey P env stored key) := by
    rw [unwrapStoredPrivateKey]
    split
    · exact evaluates_pure trivial
    · exact unwrapPkcs8_outcome.unlessNotSupported.mono fun _ _ => trivial
  refine (hkeeps t ht hpublic).bind hG.trans ?_ fun _ _ h => h
  intro t publicKey ht
  refine (hkeeps t ht hprivate).bind hG.trans ?_ fun _ _ h => h
  intro t privateKey ht
  refine (load_triple hG hJ havailable ht).bind hG.trans ?_ fun t e h => h.1
  rintro t seedRow ⟨ht, t₀, ht₀, rfl⟩
  simp only [hraw t₀ ht₀]
  refine hunfit.bind_triple hG hJ.rely ht ?_ fun _ _ _ ht => ht
  rintro rawSeed t ⟨e, ⟨⟩⟩

/-- **Under another key** the unwrap throws. -/
theorem unwrapIdentityWith_wrong {kek : Bytes} (laws : AesKwLaws P) (hG : Guarantee env G)
    (hJ : Stable env R J) (havailable : ∀ t, J t → t.Available env) (hne : key.raw ≠ kek)
    (hraw : ∀ t, J t → t.storage.devicePrivRaw = some (P.aesKwWrap kek seed.bytes)) (ht : J t) :
    Co.Triple R G (Post (fun _ _ => False) fun _ => J) (unwrapIdentityWith P env stored key) t := by
  refine unwrapIdentityWith_fails hG hJ havailable
    (unfit_of_unwrap (unwrapSecretBytes_outcome.mono ?_)) hraw ht
  rintro x rfl
  rw [laws.unwrap_other _ _ _ hne]
  cases key.unwraps with
  | true => exact ⟨_, rfl⟩
  | false => exact ⟨_, rfl⟩

/-! ## Recovery -/

theorem restoreKek_triple {entry : KekEntry} (hG : Guarantee env G) (hJ : Stable env R J)
    (havailable : ∀ t, J t → t.Available env)
    (hput : ∀ t, J t → G t (t.withStorage (deviceKek.put entry.stored)) ∧
      J (t.withStorage (deviceKek.put entry.stored)))
    (hprobe : ∀ t b, J t → G t (t.withSession (deviceKek.cacheProbe b)) ∧
      J (t.withSession (deviceKek.cacheProbe b))) (ht : J t) :
    Co.Triple R G (fun t _ => J t) (restoreKek env entry) t := by
  have hsave : ∀ t, J t → Co.Triple R G (fun t (_ : Except IdentityError Unit) => J t)
      (saveKek env deviceKek entry.stored) t := by
    intro t ht
    refine (saveKek_triple hG hJ havailable hJ.rely hput ht).mono fun t x hx => ?_
    cases x with
    | ok _ => exact hx
    | error e => exact hx.1
  cases entry with
  | raw bytes => exact hsave t ht
  | key handle =>
      refine (probeStructuredClone_triple (B := fun _ => True) hG hJ.rely
        (fun t ht => hprobe t _ ht) (fun _ _ _ _ => trivial) trivial ht).bind hG.trans ?_ ?_
      · rintro t canClone ⟨ht, -⟩
        cases canClone with
        | true => exact hsave t ht
        | false => exact Co.Triple.value hG.refl ht
      · rintro t e ⟨⟩

/-- **Recovery.** When the entry of the old layout holds the right key, the identity
is unwrapped with it. -/
theorem recoverWithLegacyKey_right {entry : KekEntry} (laws : AesKwLaws P) (hG : Guarantee env G)
    (hJ : Stable env R J) (havailable : ∀ t, J t → t.Available env) (hdb : Healthy env .identity)
    (hrecord : Record P key.raw seed stored)
    (hraw : ∀ t, J t → t.storage.devicePrivRaw = some (P.aesKwWrap key.raw seed.bytes))
    (hentry : ∀ t, J t → t.storage.legacyWrappingKey = some entry.stored)
    (hclassify : classifyKekEntry entry.stored = some entry) (hyields : entry.Yields key)
    (hput : ∀ t, J t → G t (t.withStorage (deviceKek.put entry.stored)) ∧
      J (t.withStorage (deviceKek.put entry.stored)))
    (hprobe : ∀ t b, J t → G t (t.withSession (deviceKek.cacheProbe b)) ∧
      J (t.withSession (deviceKek.cacheProbe b)))
    (hcache : ∀ t, J t → G t (t.withSession (deviceKek.cacheKey key)) ∧
      J (t.withSession (deviceKek.cacheKey key))) (ht : J t) :
    Co.Triple R G (Post (fun d t => J t ∧ ∃ d', d = some d' ∧
        IsIdentity stored.publicKeyB64 seed d') fun _ _ => False)
      (recoverWithLegacyKey P env stored) t := by
  have hunwrap : Co.Triple R G (Post (fun d t => J t ∧ ∃ d', d = some d' ∧
        IsIdentity stored.publicKeyB64 seed d') fun _ _ => False)
      (unwrapWithLegacyKey P env stored) t := by
    refine (loadKey_triple hG hJ havailable ht).bind hG.trans ?_ ?_
    · rintro t legacy ⟨ht, -, t₀, ht₀, rfl⟩
      simp only [hentry t₀ ht₀, hclassify]
      refine handle_evaluates.bind_triple hG hJ.rely ht ?_ ?_
      · rintro key' t (⟨key'', h, hkey'⟩ | ⟨h, -⟩) ht
        · cases h
          obtain rfl := hkey'.unique hyields.1
          refine (unwrapIdentityWith_right laws hG hJ havailable hdb hyields.2.2 hrecord hraw
            ht).bind hG.trans ?_ ?_
          · rintro t d ⟨ht, hd⟩
            refine modify_bind hG (hcache t ht).1 ?_
            refine (restoreKek_triple hG hJ havailable hput hprobe
              (hcache t ht).2).attempt_bind hG.trans fun t _ ht => ?_
            exact Co.Triple.value hG.refl ⟨ht, d, rfl, hd⟩
          · rintro t e ⟨⟩
        · cases h
      · rintro e t (⟨key', h, -⟩ | ⟨-, hnone⟩) ht
        · cases h
        · exact hnone key hyields.1
    · rintro t e ⟨-, hfault | ⟨-, t₀, ht₀, hunreadable⟩⟩
      · exact hdb.noFaults hfault
      · rw [hentry t₀ ht₀, Option.some.injEq] at hunreadable
        rw [hunreadable] at hclassify
        cases hclassify
  refine hunwrap.attempt_bind hG.trans fun t x hx => ?_
  cases x with
  | ok d => exact Co.Triple.value hG.refl hx
  | error e => exact hx.elim

/-- **A record that no key at hand fits** is not used: the unwrap throws, and so does the
recovery. -/
theorem useStored_fails {row : Bytes} (atHand : CryptoKey → Prop) (hG : Guarantee env G)
    (hJ : Stable env R J) (havailable : ∀ t, J t → t.Available env)
    (hraw : ∀ t, J t → t.storage.devicePrivRaw = some row)
    (hunfit : ∀ key, atHand key → Unfit P stored row key)
    (hlegacy : ∀ t value key, J t → t.storage.legacyWrappingKey = some value → value.Opens key →
      atHand key)
    (hkey : Co.Triple R G (Post (fun key t => J t ∧ atHand key) fun _ => J)
      (getOrCreateWrappingKey env) t) :
    Co.Triple R G (fun _ x => ∃ e, x = .error e) (useStored P env stored) t := by
  have hunwrap : Co.Triple R G (Post (fun _ _ => False) fun _ => J) (unwrapIdentity P env stored) t :=
    hkey.bind hG.trans (fun t key hkey => unwrapIdentityWith_fails hG hJ havailable
      (hunfit key hkey.2) hraw hkey.1) fun _ _ h => h
  have hrecover : ∀ t, J t → Co.Triple R G (fun _ x => x = .ok none)
      (recoverWithLegacyKey P env stored) t := by
    intro t ht
    have hold : Co.Triple R G (fun _ x => ∀ d, x ≠ .ok (some d)) (unwrapWithLegacyKey P env stored)
        t := by
      refine (loadKey_triple hG hJ havailable ht).bind hG.trans ?_ fun t e _ d h => by cases h
      rintro t legacy ⟨ht, -, t₀, ht₀, rfl⟩
      cases hvalue : t₀.storage.legacyWrappingKey with
      | none => exact Co.Triple.value hG.refl fun d h => by cases h
      | some value =>
          cases hclassify : classifyKekEntry value with
          | none =>
              simp only [hclassify]
              exact Co.Triple.value hG.refl fun d h => by cases h
          | some entry =>
              simp only [hclassify]
              refine handle_evaluates.bind_triple hG hJ.rely ht ?_ fun e t _ _ d h => by cases h
              rintro key t (⟨key', h, hopens⟩ | ⟨⟨⟩, -⟩) ht
              cases h
              refine (unwrapIdentityWith_fails hG hJ havailable (hunfit key (hlegacy t₀ value key ht₀
                hvalue ⟨entry, hclassify, hopens⟩)) hraw ht).bind hG.trans ?_
                fun t e _ d h => by cases h
              rintro t d ⟨⟩
    refine hold.attempt_bind hG.trans fun t x hx => ?_
    cases x with
    | ok r =>
        cases r with
        | none => exact Co.Triple.value hG.refl rfl
        | some d => exact absurd rfl (hx d)
    | error e => exact Co.Triple.value hG.refl rfl
  refine hunwrap.attempt_bind hG.trans fun t x hx => ?_
  cases x with
  | ok d => exact hx.elim
  | error e =>
      refine (hrecover t hx).bind hG.trans ?_ ?_
      · rintro t r ⟨⟩
        exact Co.Triple.raise hG.refl ⟨e, rfl⟩
      · rintro t e ⟨⟩

end

end Oxpulse.Identity
