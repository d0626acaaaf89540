import Oxpulse.Identity.Backup
import Oxpulse.Identity.Keeps
import Oxpulse.Identity.KeypairSteps

/-!
# Calls for the Noise keypair, over any storage

Whatever wraps the rows and whatever faults, a call of `getOrCreateX25519Keypair` that
resolves leaves in memory the keypair of the stored row. As long as no two calls are
under way without a usable row, the keypair in memory is the only one there is.
-/

namespace Oxpulse.Identity

open Oxpulse.Coroutine Oxpulse.Crypto

/-- **A row of the device's own**: its public key is the one of the scalar it wraps. -/
structure OwnRow (P : IdentityPrimitives) (kek : Bytes) (scalar : Key32)
    (row : StoredX25519Keypair) : Prop where
  isRow : KeypairRow P kek scalar row
  publicKey : row.publicKey = P.x25519PublicKey scalar.bytes

/-- Every keypair row that is stored is the device's own, under whatever key. -/
def RowsOwn (P : IdentityPrimitives) (storage : Storage) : Prop :=
  ∀ row, storage.x25519Keypair = some row → ∃ kek scalar, OwnRow P kek scalar row

/-- A row that the runtime can use is stored. -/
def HasRow (env : Runtime) (storage : Storage) : Prop :=
  ∃ row, storage.x25519Keypair = some row ∧ Usable env row

instance (env : Runtime) (row : StoredX25519Keypair) : Decidable (Usable env row) :=
  inferInstanceAs (Decidable (_ ∨ _))

instance (env : Runtime) (storage : Storage) : Decidable (HasRow env storage) :=
  match h : storage.x25519Keypair with
  | some row =>
      decidable_of_iff (Usable env row)
        ⟨fun husable => ⟨row, h, husable⟩, fun ⟨row', hrow, husable⟩ =>
          Option.some.inj (h.symm.trans hrow) ▸ husable⟩
  | none => .isFalse fun ⟨row, hrow, _⟩ => by rw [h] at hrow; cases hrow

/-- The keypair is the one of the stored row. -/
def Stores (P : IdentityPrimitives) (env : Runtime) (kp : X25519KeypairCache)
    (storage : Storage) : Prop :=
  ∃ row kek scalar, storage.x25519Keypair = some row ∧ Usable env row ∧
    OwnRow P kek scalar row ∧ kp = heldKeypair env row scalar

/-- **Memory agrees with the row.** -/
structure KeypairAgrees (P : IdentityPrimitives) (env : Runtime) (t : Tab) : Prop where
  rows : RowsOwn P t.storage
  cached : ∀ kp, t.session.cachedX25519Keypair = some kp → Stores P env kp t.storage

/-- What a call relies on: before a usable row is stored, nobody else touches the row or
the keypair in memory. -/
structure KeypairRely (P : IdentityPrimitives) (env : Runtime) (t t' : Tab) : Prop where
  available : t.Available env → t'.Available env
  agrees : KeypairAgrees P env t → KeypairAgrees P env t'
  stores : ∀ kp, Stores P env kp t.storage → Stores P env kp t'.storage
  alone : ¬ HasRow env t.storage → t'.storage.x25519Keypair = t.storage.x25519Keypair ∧
    t'.session.cachedX25519Keypair = t.session.cachedX25519Keypair

/-- The module variables of the device identity. -/
structure IdentityKept (t t' : Tab) : Prop where
  cached : t'.session.cachedIdentity = t.session.cachedIdentity
  inflight : t'.session.inflightIdentity = t.session.inflightIdentity
  promises : t'.session.identityPromises = t.session.identityPromises

/-- What a call gives. -/
structure KeypairGives (P : IdentityPrimitives) (env : Runtime) (t t' : Tab) : Prop where
  available : t.Available env → t'.Available env
  agrees : KeypairAgrees P env t → KeypairAgrees P env t'
  stores : ∀ kp, Stores P env kp t.storage → Stores P env kp t'.storage
  cached : KeypairAgrees P env t → ∀ kp, t.session.cachedX25519Keypair = some kp →
    t'.session.cachedX25519Keypair = some kp
  identity : IdentityKept t t'

section

variable {P : IdentityPrimitives} {env : Runtime} {t t' t'' : Tab} {kp kp' : X25519KeypairCache}
  {kek kek' : Bytes} {scalar scalar' : Key32} {row : StoredX25519Keypair} {key : CryptoKey}
  {storage : Storage}

/-! ## One row, one keypair -/

theorem AesKwLaws.wrap_key (laws : AesKwLaws P) {secret secret' : Bytes}
    (h : P.aesKwWrap kek secret = P.aesKwWrap kek' secret') : kek = kek' := by
  by_contra hne
  have hopen := laws.unwrap_other kek' kek secret' hne
  rw [← h, laws.unwrap_wrap] at hopen
  cases hopen

/-- A row was wrapped under one key, and has one scalar. -/
theorem KeypairRow.scalar_unique (laws : AesKwLaws P) (h : KeypairRow P kek scalar row)
    (h' : KeypairRow P kek' scalar' row) : scalar = scalar' := by
  have hkek : kek = kek' := by
    rcases h.raw with hraw | ⟨hnone, hwrapped⟩
    · rcases h'.raw with hraw' | ⟨hnone, -⟩
      · rw [hraw, Option.some.injEq] at hraw'
        exact laws.wrap_key hraw'
      · rw [hraw] at hnone
        cases hnone
    · have heq := h.wrapped.resolve_left hwrapped
      rw [h'.wrapped.resolve_left hwrapped] at heq
      exact (laws.wrap_key heq).symm
  subst hkek
  exact h.unique laws h'

theorem Stores.unique (laws : AesKwLaws P) (h : Stores P env kp storage)
    (h' : Stores P env kp' storage) : kp = kp' := by
  obtain ⟨row, kek, scalar, hrow, -, hown, rfl⟩ := h
  obtain ⟨row', kek', scalar', hrow', -, hown', rfl⟩ := h'
  obtain rfl : row = row' := Option.some.inj (hrow.symm.trans hrow')
  rw [hown.isRow.scalar_unique laws hown'.isRow]

theorem Stores.hasRow (h : Stores P env kp storage) : HasRow env storage := by
  obtain ⟨row, -, -, hrow, husable, -⟩ := h
  exact ⟨row, hrow, husable⟩

theorem Stores.congr (h : Stores P env kp t.storage)
    (hrow : t'.storage.x25519Keypair = t.storage.x25519Keypair) : Stores P env kp t'.storage := by
  obtain ⟨row, kek, scalar, hstored, hrest⟩ := h
  exact ⟨row, kek, scalar, hrow.trans hstored, hrest⟩

theorem KeypairAgrees.congr (h : KeypairAgrees P env t)
    (hrow : t'.storage.x25519Keypair = t.storage.x25519Keypair)
    (hcached : t'.session.cachedX25519Keypair = t.session.cachedX25519Keypair) :
    KeypairAgrees P env t' := by
  refine ⟨fun row h' => h.rows row (hrow.symm.trans h'), fun kp hkp => ?_⟩
  exact (h.cached kp (hcached.symm.trans hkp)).congr hrow

/-- Without a usable row there is no keypair in memory. -/
theorem KeypairAgrees.cached_none (h : KeypairAgrees P env t) (hnone : ¬ HasRow env t.storage) :
    t.session.cachedX25519Keypair = none := by
  cases hcached : t.session.cachedX25519Keypair with
  | none => rfl
  | some kp => exact absurd (h.cached kp hcached).hasRow hnone

/-! ## Relies and guarantees -/

theorem IdentityKept.refl : IdentityKept t t := ⟨rfl, rfl, rfl⟩

theorem IdentityKept.trans (h : IdentityKept t t') (h' : IdentityKept t' t'') :
    IdentityKept t t'' :=
  ⟨h'.cached.trans h.cached, h'.inflight.trans h.inflight, h'.promises.trans h.promises⟩

theorem KeypairRely.refl : KeypairRely P env t t :=
  ⟨fun h => h, fun h => h, fun _ h => h, fun _ => ⟨rfl, rfl⟩⟩

/-- A step that leaves the row and the keypair in memory alone. -/
theorem KeypairRely.of_same (havailable : t.Available env → t'.Available env)
    (hrow : t'.storage.x25519Keypair = t.storage.x25519Keypair)
    (hcached : t'.session.cachedX25519Keypair = t.session.cachedX25519Keypair) :
    KeypairRely P env t t' :=
  ⟨havailable, fun h => h.congr hrow hcached, fun _ h => h.congr hrow, fun _ => ⟨hrow, hcached⟩⟩

theorem KeypairRely.trans (h : KeypairRely P env t t') (h' : KeypairRely P env t' t'') :
    KeypairRely P env t t'' := by
  refine ⟨fun ht => h'.available (h.available ht), fun ht => h'.agrees (h.agrees ht),
    fun kp hkp => h'.stores kp (h.stores kp hkp), fun hnone => ?_⟩
  obtain ⟨hrow, hcached⟩ := h.alone hnone
  have hnone' : ¬ HasRow env t'.storage := by
    rwa [HasRow, hrow]
  obtain ⟨hrow', hcached'⟩ := h'.alone hnone'
  exact ⟨hrow'.trans hrow, hcached'.trans hcached⟩

theorem KeypairGives.of_same (havailable : t.Available env → t'.Available env)
    (hrow : t'.storage.x25519Keypair = t.storage.x25519Keypair)
    (hcached : t'.session.cachedX25519Keypair = t.session.cachedX25519Keypair)
    (hidentity : IdentityKept t t') : KeypairGives P env t t' :=
  ⟨havailable, fun h => h.congr hrow hcached, fun _ h => h.congr hrow,
    fun _ _ h => hcached.trans h, hidentity⟩

theorem keypairGives_guarantee (P : IdentityPrimitives) (env : Runtime) :
    Guarantee env (KeypairGives P env) where
  refl _ := .of_same (fun h => h) rfl rfl .refl
  trans _ _ _ h h' := ⟨fun ht => h'.available (h.available ht), fun ht => h'.agrees (h.agrees ht),
    fun kp hkp => h'.stores kp (h.stores kp hkp),
    fun ht kp hkp => h'.cached (h.agrees ht) kp (h.cached ht kp hkp),
    h.identity.trans h'.identity⟩
  quiet _ _ hc := .of_same (fun _ => Tab.Available.quiet hc) rfl rfl ⟨rfl, rfl, rfl⟩

/-- What a call knows at each of its suspensions. -/
structure KeypairKnows (P : IdentityPrimitives) (env : Runtime) (F : Storage → Prop) (t : Tab) :
    Prop where
  available : t.Available env
  agrees : KeypairAgrees P env t
  row : F t.storage

theorem keypairKnows_stable {F : Storage → Prop}
    (hF : ∀ t t', KeypairRely P env t t' → F t.storage → F t'.storage) :
    Stable env (KeypairRely P env) (KeypairKnows P env F) where
  rely t t' h hR := ⟨hR.available h.available, hR.agrees h.agrees, hF t t' hR h.row⟩
  quiet _ _ h hc := ⟨Tab.Available.quiet hc, h.agrees.congr rfl rfl, h.row⟩

/-- Nothing is known of the row. -/
abbrev Unread (_ : Storage) : Prop := True

theorem unread_stable : Stable env (KeypairRely P env) (KeypairKnows P env Unread) :=
  keypairKnows_stable fun _ _ _ _ => trivial

theorem stores_stable (kp : X25519KeypairCache) :
    Stable env (KeypairRely P env) (KeypairKnows P env (Stores P env kp)) :=
  keypairKnows_stable fun _ _ hR h => hR.stores kp h

theorem noRow_stable :
    Stable env (KeypairRely P env) (KeypairKnows P env fun storage => ¬ HasRow env storage) :=
  keypairKnows_stable fun t t' hR h => by rwa [HasRow, (hR.alone h).1]

/-- The wrapping key is resolved elsewhere. -/
theorem unread_kekSafe : KekSafe (KeypairGives P env) (KeypairKnows P env Unread) := by
  have hsafe : ∀ f : Tab → Tab,
      (∀ t, (f t).session.idbAvailabilityCache = t.session.idbAvailabilityCache) →
      (∀ t, (f t).storage.x25519Keypair = t.storage.x25519Keypair) →
      (∀ t, (f t).session.cachedX25519Keypair = t.session.cachedX25519Keypair) →
      (∀ t, IdentityKept t (f t)) → Safe (KeypairGives P env) (KeypairKnows P env Unread) f := by
    intro f havailability hrow hcached hidentity t ht
    have havailable : t.Available env → (f t).Available env :=
      fun h hreliable c hc => h hreliable c ((havailability t).symm.trans hc)
    exact ⟨.of_same havailable (hrow t) (hcached t) (hidentity t), havailable ht.available,
      ht.agrees.congr (hrow t) (hcached t), trivial⟩
  constructor
  · exact fun _ => hsafe _ (fun _ => rfl) (fun _ => rfl) (fun _ => rfl) fun _ => ⟨rfl, rfl, rfl⟩
  · exact fun _ => hsafe _ (fun _ => rfl) (fun _ => rfl) (fun _ => rfl) fun _ => ⟨rfl, rfl, rfl⟩
  · exact fun _ => hsafe _ (fun _ => rfl) (fun _ => rfl) (fun _ => rfl) fun _ => ⟨rfl, rfl, rfl⟩

/-! ## A row that is loaded -/

variable (env kek key) in
/-- A PKCS#8 envelope opens under the key that wrapped it, or not at all. -/
theorem unwrapX25519_any (laws : AesKwLaws P) (scalar : Key32) :
    Evaluates (fun x => (env.x25519 = true ∧ x = .ok scalar.bytes) ∨
        (env.x25519 = false ∧ x = .error .notSupported) ∨ ∃ e, x = .error e ∧ e ≠ .notSupported)
      (unwrapX25519 P env (P.aesKwWrap kek (X25519_PKCS8_PREFIX ++ scalar.bytes)) key) := by
  refine unwrapPkcs8_outcome.mono ?_
  rintro x rfl
  cases key.genuine with
  | false => exact Or.inr (Or.inr ⟨.data, rfl, by decide⟩)
  | true =>
      cases hsupported : env.x25519 with
      | false => exact Or.inr (Or.inl ⟨rfl, rfl⟩)
      | true =>
          cases key.unwraps with
          | false => exact Or.inr (Or.inr ⟨.data, rfl, by decide⟩)
          | true =>
              by_cases hkek : key.raw = kek
              · subst hkek
                exact Or.inl ⟨rfl, openPkcs8_x25519 laws key scalar⟩
              · refine Or.inr (Or.inr ⟨.operation, ?_, by decide⟩)
                simp only [whenTaken, whenSupported, openPkcs8, laws.unwrap_other _ _ _ hkek,
                  if_true]

variable (kek key) in
theorem someNobleKeypair_any (laws : AesKwLaws P) (scalar : Key32) (row : StoredX25519Keypair) :
    Evaluates (fun x => ∀ o, x = .ok o → o = some ⟨row.publicKey, none, some scalar.bytes⟩)
      (some <$> nobleKeypair P row (P.aesKwWrap kek scalar.bytes) key) := by
  have hunwrap : Evaluates (fun x => ∀ rawBuf, x = .ok rawBuf → rawBuf = scalar.bytes)
      (unwrapSecretBytes P key (P.aesKwWrap kek scalar.bytes)) := by
    refine unwrapSecretBytes_outcome.mono ?_
    rintro x rfl rawBuf h
    cases hunwraps : key.unwraps with
    | false => rw [hunwraps] at h; cases h
    | true =>
        rw [hunwraps] at h
        by_cases hkek : key.raw = kek
        · subst hkek
          rw [laws.unwrap_wrap] at h
          cases h
          rfl
        · rw [laws.unwrap_other _ _ _ hkek] at h
          cases h
  have hnoble : Evaluates (fun x => ∀ kp, x = .ok kp → kp = ⟨row.publicKey, none, some scalar.bytes⟩)
      (nobleKeypair P row (P.aesKwWrap kek scalar.bytes) key) := by
    refine hunwrap.bind (fun rawBuf h => evaluates_pure ?_) fun e _ kp h => by cases h
    rintro kp ⟨⟩
    rw [h rawBuf rfl]
  rw [map_eq_pure_bind]
  refine hnoble.bind (fun kp h => evaluates_pure ?_) fun e _ o h => by cases h
  rintro o ⟨⟩
  rw [h kp rfl]

variable (key) in
/-- **A row under any key**: what is recovered from it is its keypair, and nothing is only
where the runtime cannot use it. -/
theorem recoverX25519Keypair_any (laws : AesKwLaws P) (hrow : KeypairRow P kek scalar row) :
    Evaluates (fun x => ∀ o, x = .ok o → (Usable env row ∧ o = some (heldKeypair env row scalar)) ∨
        (¬ Usable env row ∧ o = none))
      (recoverX25519Keypair P env row key) := by
  obtain ⟨publicKey, wrapped, raw⟩ := row
  obtain ⟨hwrapped, hraw⟩ := hrow
  simp only at hwrapped hraw
  by_cases hempty : wrapped = []
  · subst hempty
    obtain rfl := hraw.resolve_right fun h => h.2 rfl
    refine (someNobleKeypair_any kek key laws scalar _).mono fun x hx o ho => ?_
    refine Or.inl ⟨Or.inr (by simp), ?_⟩
    rw [hx o ho]
    simp [heldKeypair]
  · obtain rfl := hwrapped.resolve_left hempty
    obtain ⟨b, bs, hcons⟩ := List.exists_cons_of_ne_nil hempty
    have hunwrap := unwrapX25519_any env kek key laws scalar
    rw [hcons] at hunwrap ⊢
    refine hunwrap.unlessNotSupported.bind ?_ fun e _ o ho => by cases ho
    rintro priv ⟨y, ⟨hsupported, rfl⟩ | ⟨hsupported, rfl⟩ | ⟨e, rfl, hne⟩, h⟩
    · cases h
      refine evaluates_pure ?_
      rintro o ⟨⟩
      refine Or.inl ⟨Or.inl hsupported, ?_⟩
      simp [heldKeypair, hsupported]
    · cases h
      rcases hraw with rfl | ⟨rfl, -⟩
      · obtain ⟨b', bs', hcons'⟩ := List.exists_cons_of_ne_nil (laws.wrap_ne_nil kek scalar.bytes)
        have hnoble := someNobleKeypair_any kek key laws scalar
          ⟨publicKey, b :: bs, some (b' :: bs')⟩
        rw [hcons'] at hnoble ⊢
        refine hnoble.mono fun x hx o ho => ?_
        refine Or.inl ⟨Or.inr (by simp), ?_⟩
        rw [hx o ho]
        simp [heldKeypair, hsupported]
      · refine evaluates_pure ?_
        rintro o ⟨⟩
        refine Or.inr ⟨?_, rfl⟩
        simp [Usable, hsupported]
    · cases e <;> first | exact absurd rfl hne | cases h

/-! ## A fresh keypair -/

/-- The first usable row is written. -/
theorem putKeypair_first (hown : OwnRow P kek scalar row) (husable : Usable env row)
    (ht : KeypairKnows P env (fun storage => ¬ HasRow env storage) t) :
    KeypairGives P env t (t.withStorage fun storage => { storage with x25519Keypair := some row }) ∧
      KeypairKnows P env (Stores P env (heldKeypair env row scalar))
        (t.withStorage fun storage => { storage with x25519Keypair := some row }) := by
  have hnone := ht.agrees.cached_none ht.row
  have hagrees : KeypairAgrees P env
      (t.withStorage fun storage => { storage with x25519Keypair := some row }) := by
    refine ⟨?_, fun kp hkp => ?_⟩
    · rintro row' ⟨⟩
      exact ⟨kek, scalar, hown⟩
    · rw [Tab.withStorage_session, hnone] at hkp
      cases hkp
  refine ⟨⟨fun h => h, fun _ => hagrees, fun kp hkp => absurd hkp.hasRow ht.row, fun _ _ h => h,
    ⟨rfl, rfl, rfl⟩⟩, ht.available, hagrees, row, kek, scalar, rfl, husable, hown, rfl⟩

/-- The step, when it is taken by a request. -/
theorem saveX25519Keypair_bind {β : Type} {Q : Tab → Except IdentityError β → Prop}
    {f : Unit → TabCo β} (hown : OwnRow P kek scalar row) (husable : Usable env row)
    (ht : KeypairKnows P env (fun storage => ¬ HasRow env storage) t)
    (hfault : ∀ t e, KeypairKnows P env Unread t → e ≠ .notSupported → Q t (.error e))
    (hf : ∀ t, KeypairKnows P env (Stores P env (heldKeypair env row scalar)) t →
      Co.Triple (KeypairRely P env) (KeypairGives P env) Q (f ()) t) :
    Co.Triple (KeypairRely P env) (KeypairGives P env) Q (saveX25519Keypair env row >>= f) t := by
  have hG := keypairGives_guarantee P env
  refine (write_triple _ hG noRow_stable (fun t h => h.available) (stores_stable _).rely
    (fun t ht => putKeypair_first hown husable ht) ht).bind hG.trans ?_ ?_
  · rintro t ⟨⟩ ht
    exact hf t ht
  · rintro t e ⟨ht, hfaults⟩
    refine hfault t e ⟨ht.available, ht.agrees, trivial⟩ ?_
    rcases hfaults with ⟨-, reason, rfl⟩ | ⟨-, fault, rfl⟩
    · exact IdentityError.noConfusion
    · cases fault <;> decide

/-- What a call leaves that mints: the keypair it resolves with is stored. -/
abbrev KeypairStored (P : IdentityPrimitives) (env : Runtime) :
    Tab → Except IdentityError X25519KeypairCache → Prop :=
  Post (fun kp => KeypairKnows P env (Stores P env kp)) fun _ => KeypairKnows P env Unread

theorem generateNobleKeypair_stores
    (ht : KeypairKnows P env (fun storage => ¬ HasRow env storage) t) :
    Co.Triple (KeypairRely P env) (KeypairGives P env) (KeypairStored P env)
      (generateNobleKeypair P env key) t := by
  have hG := keypairGives_guarantee P env
  refine draw_evaluates.bind_triple hG noRow_stable.rely ht ?_ ?_
  · rintro scalar t - ht
    refine wrapKey32_outcome.bind_triple hG noRow_stable.rely ht ?_ ?_
    · intro wrapped t h ht
      cases hwraps : key.wraps with
      | false => rw [hwraps] at h; cases h
      | true =>
          rw [hwraps] at h
          cases h
          have hown : OwnRow P key.raw scalar ⟨P.x25519PublicKey scalar.bytes, [],
              some (P.aesKwWrap key.raw scalar.bytes)⟩ := ⟨⟨Or.inl rfl, Or.inl rfl⟩, rfl⟩
          refine saveX25519Keypair_bind hown (Or.inr (by simp)) ht (fun t e ht _ => ht) fun t ht => ?_
          refine Co.Triple.value hG.refl ?_
          simpa [heldKeypair] using ht
    · exact fun e t _ ht => ⟨ht.available, ht.agrees, trivial⟩
  · exact fun e t _ ht => ⟨ht.available, ht.agrees, trivial⟩

theorem generateWebCryptoKeypair_stores (laws : AesKwLaws P)
    (ht : KeypairKnows P env (fun storage => ¬ HasRow env storage) t) :
    Co.Triple (KeypairRely P env) (KeypairGives P env)
      (Post (fun kp => KeypairKnows P env (Stores P env kp)) fun e t =>
        e = .notSupported ∧ KeypairKnows P env (fun storage => ¬ HasRow env storage) t ∨
          e ≠ .notSupported ∧ KeypairKnows P env Unread t)
      (generateWebCryptoKeypair P env key) t := by
  have hG := keypairGives_guarantee P env
  have hfault : ∀ t (e : IdentityError), KeypairKnows P env Unread t → e ≠ .notSupported →
      e = .notSupported ∧ KeypairKnows P env (fun storage => ¬ HasRow env storage) t ∨
        e ≠ .notSupported ∧ KeypairKnows P env Unread t := fun t e ht hne => Or.inr ⟨hne, ht⟩
  refine suspend_bind hG noRow_stable.rely ht fun r t ht => ?_
  cases hsupported : env.x25519 with
  | false =>
      simp only [Bool.false_eq_true, if_false]
      exact Co.Triple.raise hG.refl (Or.inl ⟨rfl, ht⟩)
  | true =>
      simp only [if_true]
      refine suspend_bind hG noRow_stable.rely ht fun _ t ht => ?_
      cases hwraps : key.wraps with
      | false =>
          refine wrapPkcs8_outcome.bind_triple hG noRow_stable.rely ht ?_ ?_
          · intro wrappedPriv t h
            rw [hwraps] at h
            cases h
          · intro e t h ht
            rw [hwraps] at h
            cases h
            exact hfault t _ ⟨ht.available, ht.agrees, trivial⟩ (by decide)
      | true =>
          refine (wrapPkcs8_evaluates hwraps).bind_triple hG noRow_stable.rely ht ?_
            fun e t h => by cases h
          rintro wrappedPriv t h ht
          cases h
          refine exportRawScalar_evaluates.bind_triple hG noRow_stable.rely ht ?_ ?_
          · rintro rawPrivBytes t h ht
            cases hexport : env.x25519RawExport with
            | notSupported => rw [hexport] at h; cases h
            | invalidAccess => rw [hexport] at h; cases h
            | bytes =>
                rw [hexport] at h
                cases h
                refine (wrapKey32_evaluates hwraps).bind_triple hG noRow_stable.rely ht ?_
                  fun e t h => by cases h
                rintro wrappedPrivRaw t h ht
                cases h
                have hown : OwnRow P key.raw r.random ⟨P.x25519PublicKey r.random.bytes,
                    P.aesKwWrap key.raw (X25519_PKCS8_PREFIX ++ r.random.bytes),
                    some (P.aesKwWrap key.raw r.random.bytes)⟩ := ⟨⟨Or.inr rfl, Or.inl rfl⟩, rfl⟩
                refine saveX25519Keypair_bind hown (Or.inl hsupported) ht hfault fun t ht => ?_
                refine (unwrapX25519_any env _ _ laws r.random).bind_triple hG (stores_stable _).rely ht
                  ?_ ?_
                · rintro nonExtractPriv t (⟨-, h⟩ | ⟨-, h⟩ | ⟨e, h, -⟩) ht
                  · cases h
                    refine Co.Triple.value hG.refl ?_
                    simpa [heldKeypair, hsupported, laws.wrap_ne_nil] using ht
                  · cases h
                  · cases h
                · rintro e t (⟨-, h⟩ | ⟨hmissing, -⟩ | ⟨e', h, hne⟩) ht
                  · cases h
                  · rw [hsupported] at hmissing
                    cases hmissing
                  · cases h
                    exact hfault t e ⟨ht.available, ht.agrees, trivial⟩ hne
          · rintro e t h ht
            cases hexport : env.x25519RawExport with
            | bytes => rw [hexport] at h; cases h
            | invalidAccess =>
                rw [hexport] at h
                cases h
                exact hfault t _ ⟨ht.available, ht.agrees, trivial⟩ (by decide)
            | notSupported =>
                rw [hexport] at h
                cases h
                exact Or.inl ⟨rfl, ht⟩

theorem generateX25519Keypair_stores (laws : AesKwLaws P)
    (ht : KeypairKnows P env (fun storage => ¬ HasRow env storage) t) :
    Co.Triple (KeypairRely P env) (KeypairGives P env) (KeypairStored P env)
      (generateX25519Keypair P env key) t := by
  have hG := keypairGives_guarantee P env
  refine (unlessNotSupported_triple hG (generateWebCryptoKeypair_stores laws ht)).bind hG.trans ?_ ?_
  · rintro t kp (⟨kp, rfl, hkp⟩ | ⟨rfl, ht⟩)
    · exact Co.Triple.value hG.refl hkp
    · exact generateNobleKeypair_stores ht
  · exact fun t e ht => ht

/-! ## A call -/

/-- **What a load sees** stays: the keypair of a usable row, or that there is none. -/
theorem loadKeypair_sees (ht : KeypairKnows P env Unread t) :
    Co.Triple (KeypairRely P env) (KeypairGives P env)
      (Post (fun existing t =>
          (∃ row kek scalar, existing = some row ∧ Usable env row ∧ OwnRow P kek scalar row ∧
            KeypairKnows P env (Stores P env (heldKeypair env row scalar)) t) ∨
          ((∀ row, existing = some row → ¬ Usable env row ∧ ∃ kek scalar, OwnRow P kek scalar row) ∧
            KeypairKnows P env (fun storage => ¬ HasRow env storage) t))
        fun _ => KeypairKnows P env Unread)
      (load env .identity Storage.x25519Keypair) t := by
  have hG := keypairGives_guarantee P env
  unfold load
  refine request_triple hG unread_stable (fun t h => h.available) ?_ ?_ ?_ (fun t e h _ => h) ht
  · rintro existing t t' (⟨row, kek, scalar, hrow, husable, hown, ht⟩ | ⟨hrow, ht⟩) hR
    · exact Or.inl ⟨row, kek, scalar, hrow, husable, hown, (stores_stable _).rely t t' ht hR⟩
    · exact Or.inr ⟨hrow, noRow_stable.rely t t' ht hR⟩
  · intro t existing storage ht hact
    cases hact
    refine ⟨hG.refl t, ?_⟩
    show _ ∨ _
    by_cases hhas : HasRow env t.storage
    · obtain ⟨row, hrow, husable⟩ := hhas
      obtain ⟨kek, scalar, hown⟩ := ht.agrees.rows row hrow
      exact Or.inl ⟨row, kek, scalar, hrow, husable, hown, ht.available, ht.agrees, row, kek, scalar,
        hrow, husable, hown, rfl⟩
    · refine Or.inr ⟨fun row hrow => ⟨fun husable => hhas ⟨row, hrow, husable⟩,
        ht.agrees.rows row hrow⟩, ht.available, ht.agrees, hhas⟩
  · intro t e _ hact
    cases hact

theorem loadOrMintX25519Keypair_stores (laws : AesKwLaws P) (ht : KeypairKnows P env Unread t) :
    Co.Triple (KeypairRely P env) (KeypairGives P env) (KeypairStored P env)
      (loadOrMintX25519Keypair P env) t := by
  have hG := keypairGives_guarantee P env
  refine (wrappingKey_keeps hG unread_stable (fun t h => h.available) unread_kekSafe ht).bind
    hG.trans ?_ fun t e ht => ht
  intro t key ht
  refine (loadKeypair_sees ht).bind hG.trans ?_ fun t e ht => ht
  rintro t existing (⟨row, kek, scalar, rfl, husable, hown, ht⟩ | ⟨hexisting, ht⟩)
  · refine (recoverX25519Keypair_any key laws hown.isRow).bind_triple hG
      (stores_stable _).rely ht ?_ fun e t _ ht => ⟨ht.available, ht.agrees, trivial⟩
    intro recovered t h ht
    rcases h recovered rfl with ⟨-, rfl⟩ | ⟨hunusable, -⟩
    · exact Co.Triple.value hG.refl ht
    · exact absurd husable hunusable
  · cases existing with
    | none => exact generateX25519Keypair_stores laws ht
    | some row =>
        obtain ⟨hunusable, kek, scalar, hown⟩ := hexisting row rfl
        refine (recoverX25519Keypair_any key laws hown.isRow).bind_triple hG
          noRow_stable.rely ht ?_ fun e t _ ht => ⟨ht.available, ht.agrees, trivial⟩
        intro recovered t h ht
        rcases h recovered rfl with ⟨husable, -⟩ | ⟨-, rfl⟩
        · exact absurd husable hunusable
        · exact generateX25519Keypair_stores laws ht

/-- **A call for the keypair**: what it resolves with is the keypair in memory. -/
theorem getOrCreateX25519Keypair_caches (laws : AesKwLaws P) (ht : KeypairKnows P env Unread t) :
    Co.Triple (KeypairRely P env) (KeypairGives P env)
      (fun t x => ∀ kp, x = .ok kp → t.session.cachedX25519Keypair = some kp)
      (getOrCreateX25519Keypair P env) t := by
  have hG := keypairGives_guarantee P env
  refine remembered_triple hG (fun kp hkp kp' h => ?_) fun _ => ?_
  · cases h
    exact hkp
  · refine (loadOrMintX25519Keypair_stores laws ht).mono fun t x hx => ?_
    cases x with
    | error e =>
        rintro kp ⟨⟩
    | ok kp =>
        have hagrees : KeypairAgrees P env
            (t.withSession fun s => { s with cachedX25519Keypair := some kp }) := by
          refine ⟨hx.agrees.rows, ?_⟩
          rintro kp' ⟨⟩
          exact hx.row
        refine ⟨⟨fun h => h, fun _ => hagrees, fun _ h => h, fun hold kp' hkp' => ?_,
          ⟨rfl, rfl, rfl⟩⟩, ?_⟩
        · rw [(hold.cached kp' hkp').unique laws hx.row]
          rfl
        · rintro kp' ⟨⟩
          rfl

end

end Oxpulse.Identity
