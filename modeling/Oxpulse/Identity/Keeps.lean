import Oxpulse.Identity.LockSteps

/-!
# Whatever a call ends in

What a call knows of its tab may outlast the call however it ends: on any runtime,
whichever requests fault and whatever is stored. Then only its own assignments and
transactions can take it away, and a call `Keeps` it as soon as each of them does.
-/

namespace Oxpulse.Identity

open Oxpulse.Coroutine Oxpulse.Crypto

/-- An assignment or a transaction keeps what is known. -/
def Safe (G : Tab → Tab → Prop) (J : Tab → Prop) (f : Tab → Tab) : Prop :=
  ∀ t, J t → G t (f t) ∧ J (f t)

/-- Whatever the call ends in, what is known stays. -/
abbrev Keeps {α : Type} (R G : Tab → Tab → Prop) (J : Tab → Prop) (co : TabCo α) (t : Tab) :
    Prop :=
  Co.Triple R G (fun t (_ : Except IdentityError α) => J t) co t

/-- What is written while a wrapping key is resolved. -/
structure KekSafe (G : Tab → Tab → Prop) (J : Tab → Prop) : Prop where
  put : ∀ value, Safe G J (Tab.withStorage (deviceKek.put value))
  probe : ∀ b, Safe G J (Tab.withSession (deviceKek.cacheProbe b))
  cache : ∀ key, Safe G J (Tab.withSession (deviceKek.cacheKey key))

/-- The pair of rows, as one transaction writes it. -/
def putIdentity (stored : StoredIdentity) (wrappedRawSeed : Bytes) (storage : Storage) : Storage :=
  { storage with devicePrivRaw := some wrappedRawSeed, deviceKey := some stored }

/-- The caches of the retired identity are dropped. -/
def retireCaches (s : Session) : Session :=
  { s with
    cachedX25519Keypair := none
    cachedSealedX25519 := none
    identityEpochCounter := s.identityEpochCounter + 1
    cachedProfileSeed := none }

/-- What is written when the residue of an identity is wiped. -/
structure WipeSafe (G : Tab → Tab → Prop) (J : Tab → Prop) : Prop where
  x25519Keypair : Safe G J (Tab.withStorage fun storage => { storage with x25519Keypair := none })
  sealedX25519 : Safe G J (Tab.withStorage fun storage => { storage with sealedX25519 := none })
  profileSeed : Safe G J (Tab.withStorage fun storage => { storage with profileSeed := none })
  roomHostCaches : Safe G J (Tab.withSession fun s =>
    { s with roomHostCachedSeed := none, roomHostCachedWrappingKey := none })
  roomHost : Safe G J (Tab.withStorage fun storage =>
    { storage with roomHostSeed := none, roomHostWrappingKey := none })

section

variable {P : IdentityPrimitives} {env : Runtime} {R G : Tab → Tab → Prop} {J : Tab → Prop}
  {t : Tab} {α β : Type} {stored : StoredIdentity}

/-! ## Rules -/

theorem keeps_bind {co : TabCo α} {f : α → TabCo β} (hG : Guarantee env G) (h : Keeps R G J co t)
    (hf : ∀ a t, J t → Keeps R G J (f a) t) : Keeps R G J (co >>= f) t :=
  h.bind hG.trans (fun t a ht => hf a t ht) fun _ _ ht => ht

theorem keeps_attempt_bind {co : TabCo α} {f : Except IdentityError α → TabCo β}
    (hG : Guarantee env G) (h : Keeps R G J co t) (hf : ∀ x t, J t → Keeps R G J (f x) t) :
    Keeps R G J (Co.attempt co >>= f) t :=
  h.attempt_bind hG.trans fun t x ht => hf x t ht

theorem keeps_value {a : α} (hG : Guarantee env G) (ht : J t) :
    Keeps R G J (pure a : TabCo α) t :=
  Co.Triple.value hG.refl ht

theorem keeps_throw {e : IdentityError} (hG : Guarantee env G) (ht : J t) :
    Keeps R G J (throw e : TabCo α) t :=
  Co.Triple.raise hG.refl ht

theorem keeps_modify {f : Tab → Tab} {co : TabCo α} (hG : Guarantee env G) (hf : Safe G J f)
    (ht : J t) (h : ∀ t, J t → Keeps R G J co t) : Keeps R G J (modify f >>= fun _ => co) t :=
  modify_bind hG (hf t ht).1 (h _ (hf t ht).2)

theorem Evaluates.keeps {V : Except IdentityError α → Prop} {co : TabCo α} (h : Evaluates V co)
    (hG : Guarantee env G) (hJ : Stable env R J) (ht : J t) : Keeps R G J co t :=
  (h.triple hG hJ.rely ht).mono fun _ _ hx => hx.1

/-- Keys are worked with in no state of their own. -/
theorem evaluates_any_bind {co : TabCo α} {f : α → TabCo β} (h : Evaluates (fun _ => True) co)
    (hf : ∀ a, Evaluates (fun _ => True) (f a)) : Evaluates (fun _ => True) (co >>= f) :=
  h.bind (fun a _ => hf a) fun _ _ => trivial

theorem unlessNotSupported_any {co : TabCo α} (h : Evaluates (fun _ => True) co) :
    Evaluates (fun _ => True) (unlessNotSupported co) :=
  h.unlessNotSupported.mono fun _ _ => trivial

theorem orThrow_any {e : IdentityError} {o : Option α} :
    Evaluates (fun _ => True) (Co.orThrow e o : TabCo α) :=
  evaluates_orThrow.mono fun _ _ => trivial

/-! ## Requests -/

theorem load_keeps {db : Database} {entry : Storage → Option α} (hG : Guarantee env G)
    (hJ : Stable env R J) (havailable : ∀ t, J t → t.Available env) (ht : J t) :
    Keeps R G J (load env db entry) t := by
  refine (load_triple hG hJ havailable ht).mono fun t x hx => ?_
  cases x with
  | ok a => exact hx.1
  | error e => exact hx.1

theorem loadKey_keeps {db : Database} {entry : Storage → Option StoredValue}
    (hG : Guarantee env G) (hJ : Stable env R J) (havailable : ∀ t, J t → t.Available env)
    (ht : J t) : Keeps R G J (loadKey env db entry) t := by
  refine (loadKey_triple hG hJ havailable ht).mono fun t x hx => ?_
  cases x with
  | ok a => exact hx.1
  | error e => exact hx.1

theorem write_keeps {db : Database} {update : Storage → Storage} (hG : Guarantee env G)
    (hJ : Stable env R J) (havailable : ∀ t, J t → t.Available env)
    (hupdate : Safe G J (Tab.withStorage update)) (ht : J t) :
    Keeps R G J (write env db update) t := by
  refine (write_triple J hG hJ havailable hJ.rely hupdate ht).mono fun t x hx => ?_
  cases x with
  | ok a => exact hx
  | error e => exact hx.1

theorem wrappingKey_keeps (hG : Guarantee env G) (hJ : Stable env R J)
    (havailable : ∀ t, J t → t.Available env) (hkek : KekSafe G J) (ht : J t) :
    Keeps R G J (getOrCreateWrappingKey env) t :=
  getOrCreateWrappingKey_keeps hG hJ havailable (fun t value => hkek.put value t)
    (fun t b => hkek.probe b t) (fun t key => hkek.cache key t) ht

/-! ## Keys -/

theorem wrapSecretBytes_any {kek : CryptoKey} {rawBytes : Bytes} :
    Evaluates (fun _ => True) (wrapSecretBytes P kek rawBytes) := by
  by_cases hlength : 16 ≤ rawBytes.length ∧ rawBytes.length % 8 = 0
  · exact (wrapSecretBytes_outcome hlength).mono fun _ _ => trivial
  · have hcond : rawBytes.length < 16 ∨ rawBytes.length % 8 ≠ 0 := by omega
    simp only [wrapSecretBytes, hcond, if_true]
    exact evaluates_throw trivial

theorem wrapPrivateKey_any {privateKey : Option Bytes} {kek : CryptoKey} :
    Evaluates (fun _ => True) (wrapPrivateKey P privateKey kek) := by
  cases privateKey with
  | some privateKey => exact wrapPkcs8_outcome.mono fun _ _ => trivial
  | none => exact evaluates_pure trivial

theorem importPublicKey_any {e : IdentityError} {supported : Bool} {o : Option Bytes} :
    Evaluates (fun _ => True) (do
      let bytes ← Co.orThrow e o
      importPublicKey supported bytes : TabCo Bytes) :=
  evaluates_any_bind orThrow_any fun _ => importPublicKey_evaluates.mono fun _ _ => trivial

theorem runtimeHandles_any {identity : DeviceIdentity} {wrapped : Bytes} {kek : CryptoKey} :
    Evaluates (fun _ => True) (runtimeHandles P env identity wrapped kek) := by
  have hprivate : Evaluates (fun _ => True)
      (some <$> unwrapPkcs8 P env env.ed25519 ED25519_PKCS8_PREFIX wrapped kek) := by
    rw [map_eq_pure_bind]
    exact evaluates_any_bind (unwrapPkcs8_outcome.mono fun _ _ => trivial)
      fun _ => evaluates_pure trivial
  unfold runtimeHandles
  cases identity.publicKey with
  | some bytes =>
      cases identity.privateKey with
      | none => exact evaluates_any_bind (evaluates_pure trivial) fun _ => evaluates_pure trivial
      | some secret => exact evaluates_any_bind hprivate fun _ => evaluates_pure trivial
  | none =>
      have hpublic : ∀ priv : Option Bytes, Evaluates (fun _ => True) (do
          let publicKey ← Co.attempt (do
            let bytes ← Co.orThrow .data (fromBase64url identity.publicKeyB64)
            importPublicKey env.ed25519 bytes)
          return { identity with publicKey := publicKey.toOption, privateKey := priv } :
          TabCo DeviceIdentity) := fun priv =>
        evaluates_any_bind (importPublicKey_any.attempt.mono fun _ _ => trivial)
          fun _ => evaluates_pure trivial
      cases identity.privateKey with
      | none => exact evaluates_any_bind (evaluates_pure trivial) hpublic
      | some secret => exact evaluates_any_bind hprivate hpublic

theorem importStoredPublicKey_any :
    Evaluates (fun _ => True) (importStoredPublicKey env stored) :=
  unlessNotSupported_any importPublicKey_any

theorem unwrapStoredPrivateKey_any {kek : CryptoKey} :
    Evaluates (fun _ => True) (unwrapStoredPrivateKey P env stored kek) := by
  unfold unwrapStoredPrivateKey
  split
  · exact evaluates_pure trivial
  · exact unlessNotSupported_any (unwrapPkcs8_outcome.mono fun _ _ => trivial)

theorem unwrapRawSeed_any {kek : CryptoKey} {wrapped : Bytes} :
    Evaluates (fun _ => True) (unwrapRawSeed P stored kek wrapped) := by
  unfold unwrapRawSeed
  refine evaluates_any_bind (unwrapSecretBytes_outcome.mono fun _ _ => trivial) fun rawSeed => ?_
  refine evaluates_any_bind orThrow_any fun seed => evaluates_any_bind orThrow_any fun pub => ?_
  split
  · exact evaluates_pure trivial
  · exact evaluates_throw trivial

/-! ## The device identity -/

theorem persistIdentity_keeps {identity : DeviceIdentity} (hG : Guarantee env G)
    (hJ : Stable env R J) (havailable : ∀ t, J t → t.Available env) (hkek : KekSafe G J)
    (hsave : ∀ stored wrapped, Safe G J (Tab.withStorage (putIdentity stored wrapped))) (ht : J t) :
    Keeps R G J (persistIdentity P env identity) t := by
  refine keeps_bind hG (wrappingKey_keeps hG hJ havailable hkek ht) fun key t ht => ?_
  refine keeps_bind hG (orThrow_any.keeps hG hJ ht) fun seed t ht => ?_
  refine keeps_bind hG (wrapSecretBytes_any.keeps hG hJ ht) fun wrappedRawSeed t ht => ?_
  refine keeps_bind hG (wrapPrivateKey_any.keeps hG hJ ht) fun wrapped t ht => ?_
  refine keeps_bind hG (write_keeps hG hJ havailable (hsave _ wrappedRawSeed) ht) fun _ t ht => ?_
  exact runtimeHandles_any.keeps hG hJ ht

theorem mintIdentityWithStorageFallback_keeps (hG : Guarantee env G) (hJ : Stable env R J)
    (havailable : ∀ t, J t → t.Available env) (hkek : KekSafe G J)
    (hsave : ∀ stored wrapped, Safe G J (Tab.withStorage (putIdentity stored wrapped))) (ht : J t) :
    Keeps R G J (mintIdentityWithStorageFallback P env) t := by
  have hgenerate : ∀ t, J t → Keeps R G J (generateDeviceIdentity P env) t :=
    fun t ht => generateDeviceIdentity_evaluates.keeps hG hJ ht
  have hephemeral : ∀ t, J t → Keeps R G J (do return ⟨← generateDeviceIdentity P env, false⟩ :
      TabCo Minted) t :=
    fun t ht => keeps_bind hG (hgenerate t ht) fun _ t ht => keeps_value hG ht
  refine keeps_attempt_bind hG (keeps_bind hG (hgenerate t ht) fun identity t ht =>
    persistIdentity_keeps hG hJ havailable hkek hsave ht) fun x t ht => ?_
  cases x with
  | ok identity => exact keeps_value hG ht
  | error e =>
      cases e
      case idbUnavailable reason => exact hephemeral t ht
      case quotaExceeded => exact hephemeral t ht
      all_goals exact keeps_throw hG ht

theorem unwrapIdentityWith_keeps {kek : CryptoKey} (hG : Guarantee env G) (hJ : Stable env R J)
    (havailable : ∀ t, J t → t.Available env) (ht : J t) :
    Keeps R G J (unwrapIdentityWith P env stored kek) t := by
  refine keeps_bind hG (importStoredPublicKey_any.keeps hG hJ ht) fun publicKey t ht => ?_
  refine keeps_bind hG (unwrapStoredPrivateKey_any.keeps hG hJ ht) fun privateKey t ht => ?_
  refine keeps_bind hG (load_keeps hG hJ havailable ht) fun row t ht => ?_
  cases row with
  | none => exact keeps_value hG ht
  | some wrapped =>
      exact keeps_bind hG (unwrapRawSeed_any.keeps hG hJ ht) fun rawSeed t ht => keeps_value hG ht

theorem unwrapIdentity_keeps (hG : Guarantee env G) (hJ : Stable env R J)
    (havailable : ∀ t, J t → t.Available env) (hkek : KekSafe G J) (ht : J t) :
    Keeps R G J (unwrapIdentity P env stored) t :=
  keeps_bind hG (wrappingKey_keeps hG hJ havailable hkek ht) fun _ _ ht =>
    unwrapIdentityWith_keeps hG hJ havailable ht

theorem recoverWithLegacyKey_keeps (hG : Guarantee env G) (hJ : Stable env R J)
    (havailable : ∀ t, J t → t.Available env) (hkek : KekSafe G J) (ht : J t) :
    Keeps R G J (recoverWithLegacyKey P env stored) t := by
  have hunwrap : Keeps R G J (unwrapWithLegacyKey P env stored) t := by
    refine keeps_bind hG (loadKey_keeps hG hJ havailable ht) fun legacy t ht => ?_
    cases legacy with
    | none => exact keeps_value hG ht
    | some legacy =>
        cases hclassify : classifyKekEntry legacy with
        | none =>
            simp only [hclassify]
            exact keeps_value hG ht
        | some entry =>
            simp only [hclassify]
            refine keeps_bind hG (handle_evaluates.keeps hG hJ ht) fun key t ht => ?_
            refine keeps_bind hG (unwrapIdentityWith_keeps hG hJ havailable ht)
              fun identity t ht => ?_
            refine keeps_modify hG (hkek.cache key) ht fun t ht => ?_
            refine keeps_attempt_bind hG (restoreKek_triple hG hJ havailable
              (hkek.put entry.stored) (fun t b => hkek.probe b t) ht) fun _ t ht => ?_
            exact keeps_value hG ht
  refine keeps_attempt_bind hG hunwrap fun x t ht => ?_
  cases x with
  | ok identity => exact keeps_value hG ht
  | error e => exact keeps_value hG ht

theorem clearRoomHostSeed_keeps (hG : Guarantee env G) (hJ : Stable env R J)
    (havailable : ∀ t, J t → t.Available env) (hwipe : WipeSafe G J) (ht : J t) :
    Keeps R G J (clearRoomHostSeed env) t :=
  keeps_modify hG hwipe.roomHostCaches ht fun _ ht =>
    write_keeps hG hJ havailable hwipe.roomHost ht

theorem wipeResidue_keeps (hG : Guarantee env G) (hJ : Stable env R J)
    (havailable : ∀ t, J t → t.Available env) (hwipe : WipeSafe G J) (ht : J t) :
    Keeps R G J (wipeResidue env) t := by
  refine keeps_bind hG (write_keeps hG hJ havailable hwipe.x25519Keypair ht) fun _ t ht => ?_
  refine keeps_bind hG (write_keeps hG hJ havailable hwipe.sealedX25519 ht) fun _ t ht => ?_
  refine keeps_bind hG (write_keeps hG hJ havailable hwipe.profileSeed ht) fun _ t ht => ?_
  exact clearRoomHostSeed_keeps hG hJ havailable hwipe ht

/-! ## `getOrCreateDeviceIdentity` -/

/-- What the inner sequence writes while it has no identity to return. -/
structure SearchSafe (G : Tab → Tab → Prop) (J : Tab → Prop) : Prop where
  kek : KekSafe G J
  save : ∀ stored wrapped, Safe G J (Tab.withStorage (putIdentity stored wrapped))
  retire : Safe G J (Tab.withSession retireCaches)
  wipe : WipeSafe G J

/-- An identity in memory. -/
def cacheIdentity (d : DeviceIdentity) (s : Session) : Session :=
  { s with cachedIdentity := some d }

section Inner

variable {Q : Tab → Except IdentityError DeviceIdentity → Prop}

/-- **What the inner sequence ends in**: it throws, returns an identity that it keeps
nowhere, or one that it put in memory in the same segment. -/
structure Ends (G : Tab → Tab → Prop) (J : Tab → Prop)
    (Q : Tab → Except IdentityError DeviceIdentity → Prop) : Prop where
  throws : ∀ t e, J t → Q t (.error e)
  ephemeral : ∀ t d, J t → Q t (.ok d)
  cached : ∀ t d, J t → G t (t.withSession (cacheIdentity d)) ∧
    Q (t.withSession (cacheIdentity d)) (.ok d)

theorem cacheIdentity_ends {d : DeviceIdentity} (hG : Guarantee env G) (hQ : Ends G J Q) (ht : J t) :
    Co.Triple R G Q (do modify (Tab.withSession (cacheIdentity d)); return d : TabCo DeviceIdentity)
      t :=
  modify_bind hG (hQ.cached t d ht).1 (Co.Triple.value hG.refl (hQ.cached t d ht).2)

theorem createIdentity_ends (hG : Guarantee env G) (hJ : Stable env R J)
    (havailable : ∀ t, J t → t.Available env) (hsafe : SearchSafe G J) (hQ : Ends G J Q)
    (ht : J t) : Co.Triple R G Q (createIdentity P env) t := by
  refine (mintIdentityWithStorageFallback_keeps hG hJ havailable hsafe.kek hsafe.save ht).bind
    hG.trans ?_ fun t e ht => hQ.throws t e ht
  intro t minted ht
  cases minted.persisted with
  | true =>
      simp only [if_true]
      exact cacheIdentity_ends hG hQ ht
  | false =>
      simp only [Bool.false_eq_true, if_false]
      exact Co.Triple.value hG.refl (hQ.ephemeral t _ ht)

theorem replaceLegacyIdentity_ends (hG : Guarantee env G) (hJ : Stable env R J)
    (havailable : ∀ t, J t → t.Available env) (hsafe : SearchSafe G J) (hQ : Ends G J Q)
    (ht : J t) : Co.Triple R G Q (replaceLegacyIdentity P env) t := by
  refine (mintIdentityWithStorageFallback_keeps hG hJ havailable hsafe.kek hsafe.save ht).bind
    hG.trans ?_ fun t e ht => hQ.throws t e ht
  intro t minted ht
  cases minted.persisted with
  | true =>
      simp only [if_true]
      refine modify_bind hG (hsafe.retire t ht).1 ?_
      refine (wipeResidue_keeps hG hJ havailable hsafe.wipe (hsafe.retire t ht).2).attempt_bind
        hG.trans fun t _ ht => ?_
      exact cacheIdentity_ends hG hQ ht
  | false =>
      simp only [Bool.false_eq_true, if_false]
      exact Co.Triple.value hG.refl (hQ.ephemeral t _ ht)

theorem useIdentity_ends {d : DeviceIdentity} (hG : Guarantee env G) (hJ : Stable env R J)
    (havailable : ∀ t, J t → t.Available env) (hsafe : SearchSafe G J) (hQ : Ends G J Q)
    (ht : J t) : Co.Triple R G Q (useIdentity P env d) t := by
  unfold useIdentity
  split
  · exact cacheIdentity_ends hG hQ ht
  · exact replaceLegacyIdentity_ends hG hJ havailable hsafe hQ ht

/-- **The inner sequence**, over any storage and with any faults. -/
theorem getOrCreateDeviceIdentityInner_ends (hG : Guarantee env G) (hJ : Stable env R J)
    (havailable : ∀ t, J t → t.Available env) (hsafe : SearchSafe G J) (hQ : Ends G J Q)
    (hcached : t.session.cachedIdentity = none) (ht : J t) :
    Co.Triple R G Q (getOrCreateDeviceIdentityInner P env) t := by
  refine get_bind ?_
  simp only [hcached]
  refine (load_keeps hG hJ havailable ht).attempt_bind hG.trans fun t x ht => ?_
  cases x with
  | error e =>
      cases e
      case idbUnavailable reason =>
        refine (generateDeviceIdentity_evaluates.keeps hG hJ ht).mono fun t x ht => ?_
        cases x with
        | ok d => exact hQ.ephemeral t d ht
        | error e => exact hQ.throws t e ht
      all_goals exact Co.Triple.raise hG.refl (hQ.throws t _ ht)
  | ok row =>
      cases row with
      | none => exact createIdentity_ends hG hJ havailable hsafe hQ ht
      | some stored =>
          refine (unwrapIdentity_keeps hG hJ havailable hsafe.kek ht).attempt_bind hG.trans
            fun t x ht => ?_
          cases x with
          | ok d => exact useIdentity_ends hG hJ havailable hsafe hQ ht
          | error e =>
              refine (recoverWithLegacyKey_keeps hG hJ havailable hsafe.kek ht).bind hG.trans ?_
                fun t e ht => hQ.throws t e ht
              intro t recovered ht
              cases recovered with
              | some d => exact useIdentity_ends hG hJ havailable hsafe hQ ht
              | none => exact Co.Triple.raise hG.refl (hQ.throws t e ht)

end Inner

end

end Oxpulse.Identity
