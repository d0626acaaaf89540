import Oxpulse.Identity.KekSteps

/-!
# What the keypair code does

A row of the Noise keypair has the PKCS#8 envelope, the wrapped scalar or both. The
runtime uses the envelope where it has X25519 and the scalar otherwise; a row without
the scalar is of no use to a runtime that lost X25519, and a fresh keypair replaces it.
-/

namespace Oxpulse.Identity

open Oxpulse.Coroutine Oxpulse.Crypto

/-- **A keypair row** of this scalar, wrapped under this KEK. -/
structure KeypairRow (P : IdentityPrimitives) (kek : Bytes) (scalar : Key32)
    (row : StoredX25519Keypair) : Prop where
  wrapped : row.wrappedPrivateKey = [] ∨
    row.wrappedPrivateKey = P.aesKwWrap kek (X25519_PKCS8_PREFIX ++ scalar.bytes)
  raw : row.wrappedPrivateKeyRaw = some (P.aesKwWrap kek scalar.bytes) ∨
    (row.wrappedPrivateKeyRaw = none ∧ row.wrappedPrivateKey ≠ [])

/-- The runtime can use the row. -/
def Usable (env : Runtime) (row : StoredX25519Keypair) : Prop :=
  env.x25519 = true ∨ row.wrappedPrivateKeyRaw ≠ none

/-- The keypair of a row, as this runtime holds it. -/
def heldKeypair (env : Runtime) (row : StoredX25519Keypair) (scalar : Key32) :
    X25519KeypairCache :=
  if env.x25519 = true ∧ row.wrappedPrivateKey ≠ [] then ⟨row.publicKey, some scalar.bytes, none⟩
  else ⟨row.publicKey, none, some scalar.bytes⟩

/-- A fresh keypair can be made: without X25519 the noble one, with it one whose scalar
the platform hands out or says that it cannot. -/
def Mintable (env : Runtime) : Prop :=
  env.x25519 = true → env.x25519RawExport ≠ .invalidAccess

@[ext] theorem Key32.ext {a b : Key32} (h : a.bytes = b.bytes) : a = b := by
  cases a
  cases b
  cases h
  rfl

/-- Under AES-KW a ciphertext has one plaintext. -/
theorem AesKwLaws.wrap_injective {P : IdentityPrimitives} (laws : AesKwLaws P)
    {kek secret secret' : Bytes} (h : P.aesKwWrap kek secret = P.aesKwWrap kek secret') :
    secret = secret' := by
  have hunwrap := laws.unwrap_wrap kek secret
  rw [h, laws.unwrap_wrap] at hunwrap
  exact (Option.some.inj hunwrap).symm

/-- A row has one scalar. -/
theorem KeypairRow.unique {P : IdentityPrimitives} (laws : AesKwLaws P) {kek : Bytes}
    {scalar scalar' : Key32} {row : StoredX25519Keypair} (h : KeypairRow P kek scalar row)
    (h' : KeypairRow P kek scalar' row) : scalar = scalar' := by
  ext1
  rcases h.raw with hraw | ⟨hnone, hwrapped⟩
  · rcases h'.raw with hraw' | ⟨hnone, -⟩
    · rw [hraw, Option.some.injEq] at hraw'
      exact laws.wrap_injective hraw'
    · rw [hraw] at hnone
      cases hnone
  · have heq := h.wrapped.resolve_left hwrapped
    rw [h'.wrapped.resolve_left hwrapped] at heq
    exact (List.append_cancel_left (laws.wrap_injective heq)).symm

section

variable {P : IdentityPrimitives} {env : Runtime} {R G : Tab → Tab → Prop} {J : Tab → Prop}
  {t : Tab} {key : CryptoKey} {scalar : Key32} {row : StoredX25519Keypair}

theorem openPkcs8_x25519 (laws : AesKwLaws P) (key : CryptoKey) (scalar : Key32) :
    openPkcs8 P env X25519_PKCS8_PREFIX (P.aesKwWrap key.raw (X25519_PKCS8_PREFIX ++ scalar.bytes)) key =
      .ok scalar.bytes := by
  simp only [openPkcs8, laws.unwrap_wrap, pkcs8Secret_x25519, orError]

theorem unwrapX25519_right (laws : AesKwLaws P) (env : Runtime) (hunwraps : key.unwraps = true)
    (scalar : Key32) :
    Evaluates (fun x => x = whenSupported env.x25519 (.ok scalar.bytes))
      (unwrapX25519 P env (P.aesKwWrap key.raw (X25519_PKCS8_PREFIX ++ scalar.bytes)) key) := by
  rw [← openPkcs8_x25519 laws key scalar]
  exact unwrapPkcs8_evaluates hunwraps

theorem nobleKeypair_right (laws : AesKwLaws P) (hunwraps : key.unwraps = true) (scalar : Key32)
    (row : StoredX25519Keypair) :
    Evaluates (fun x => x = .ok ⟨row.publicKey, none, some scalar.bytes⟩)
      (nobleKeypair P row (P.aesKwWrap key.raw scalar.bytes) key) := by
  refine (unwrapSecretBytes_evaluates hunwraps).bind ?_ ?_
  · intro rawBuf h
    rw [laws.unwrap_wrap] at h
    cases h
    exact evaluates_pure rfl
  · intro e h
    rw [laws.unwrap_wrap] at h
    cases h

theorem someNobleKeypair_right (laws : AesKwLaws P) (hunwraps : key.unwraps = true)
    (scalar : Key32) (row : StoredX25519Keypair) :
    Evaluates (fun x => x = .ok (some ⟨row.publicKey, none, some scalar.bytes⟩))
      (some <$> nobleKeypair P row (P.aesKwWrap key.raw scalar.bytes) key) := by
  rw [map_eq_pure_bind]
  refine (nobleKeypair_right laws hunwraps scalar row).bind ?_ ?_
  · intro kp h
    cases h
    exact evaluates_pure rfl
  · intro e h
    cases h

/-- **A row is recovered** on a runtime that can use it, and only there. -/
theorem recoverX25519Keypair_right (laws : AesKwLaws P) (hunwraps : key.unwraps = true)
    (hrow : KeypairRow P key.raw scalar row) :
    Evaluates (fun x => (Usable env row ∧ x = .ok (some (heldKeypair env row scalar))) ∨
        (¬ Usable env row ∧ x = .ok none))
      (recoverX25519Keypair P env row key) := by
  obtain ⟨publicKey, wrapped, raw⟩ := row
  obtain ⟨hwrapped, hraw⟩ := hrow
  simp only at hwrapped hraw
  by_cases hempty : wrapped = []
  · subst hempty
    obtain rfl := hraw.resolve_right fun h => h.2 rfl
    refine (someNobleKeypair_right laws hunwraps scalar _).mono ?_
    rintro x rfl
    refine Or.inl ⟨Or.inr (by simp), ?_⟩
    simp [heldKeypair]
  · obtain rfl := hwrapped.resolve_left hempty
    obtain ⟨b, bs, hcons⟩ := List.exists_cons_of_ne_nil hempty
    have hunwrap := unwrapX25519_right laws env hunwraps scalar
    rw [hcons] at hunwrap ⊢
    refine hunwrap.unlessNotSupported.bind ?_ ?_
    · rintro priv ⟨y, rfl, h⟩
      cases hsupported : env.x25519 with
      | true =>
          rw [hsupported] at h
          cases h
          refine evaluates_pure (Or.inl ⟨Or.inl hsupported, ?_⟩)
          simp [heldKeypair, hsupported]
      | false =>
          rw [hsupported] at h
          cases h
          rcases hraw with rfl | ⟨rfl, -⟩
          · obtain ⟨b', bs', hcons'⟩ := List.exists_cons_of_ne_nil
              (laws.wrap_ne_nil key.raw scalar.bytes)
            have hnoble := someNobleKeypair_right laws hunwraps scalar
              ⟨publicKey, b :: bs, some (b' :: bs')⟩
            rw [hcons'] at hnoble ⊢
            refine hnoble.mono ?_
            rintro x rfl
            refine Or.inl ⟨Or.inr (by simp), ?_⟩
            simp [heldKeypair, hsupported]
          · refine evaluates_pure (Or.inr ⟨?_, rfl⟩)
            simp [Usable, hsupported]
    · rintro e ⟨y, rfl, h⟩
      cases hsupported : env.x25519 with
      | true => rw [hsupported] at h; cases h
      | false => rw [hsupported] at h; cases h

/-! ## A fresh keypair -/

theorem unlessNotSupported_triple {α : Type} {ok : α → Tab → Prop}
    {missing : Tab → Prop} {error : IdentityError → Tab → Prop} {co : TabCo α} (hG : Guarantee env G)
    (h : Co.Triple R G (Post ok fun e t => e = .notSupported ∧ missing t ∨
      e ≠ .notSupported ∧ error e t) co t) :
    Co.Triple R G (Post (fun a t => (∃ b, a = some b ∧ ok b t) ∨ a = none ∧ missing t) error)
      (unlessNotSupported co) t := by
  refine h.attempt_bind hG.trans fun t x hx => ?_
  cases x with
  | ok a => exact Co.Triple.value hG.refl (Or.inl ⟨a, rfl, hx⟩)
  | error e =>
      rcases hx with ⟨rfl, hmissing⟩ | ⟨hne, herror⟩
      · exact Co.Triple.value hG.refl (Or.inr ⟨rfl, hmissing⟩)
      · cases e
        case notSupported => exact absurd rfl hne
        all_goals exact Co.Triple.raise hG.refl herror

/-- The row is there, and the call holds its keypair. -/
def Holding (env : Runtime) (J' : Key32 → StoredX25519Keypair → Tab → Prop)
    (kp : X25519KeypairCache) (t : Tab) : Prop :=
  ∃ scalar row, J' scalar row t ∧ kp = heldKeypair env row scalar

section Minting

variable {J' : Key32 → StoredX25519Keypair → Tab → Prop}

theorem generateNobleKeypair_mints (husable : key.Usable) (hG : Guarantee env G) (hJ : Stable env R J)
    (havailable : ∀ t, J t → t.Available env) (hdb : Healthy env .identity)
    (hJ' : ∀ scalar row t t', J' scalar row t → R t t' → J' scalar row t')
    (hput : ∀ t scalar row, J t → KeypairRow P key.raw scalar row → Usable env row →
      G t (t.withStorage fun storage => { storage with x25519Keypair := some row }) ∧
        J' scalar row (t.withStorage fun storage => { storage with x25519Keypair := some row }))
    (ht : J t) :
    Co.Triple R G (Post (Holding env J') fun _ _ => False) (generateNobleKeypair P env key) t := by
  refine draw_evaluates.bind_triple hG hJ.rely ht ?_ ?_
  · rintro scalar t _ ht
    refine (wrapKey32_evaluates husable.1).bind_triple hG hJ.rely ht ?_ ?_
    · rintro wrapped t h ht
      cases h
      have hrow : KeypairRow P key.raw scalar ⟨P.x25519PublicKey scalar.bytes, [],
          some (P.aesKwWrap key.raw scalar.bytes)⟩ := ⟨Or.inl rfl, Or.inl rfl⟩
      refine write_bind (J' scalar _) hdb hG hJ havailable (hJ' scalar _)
        (fun t ht => hput t scalar _ ht hrow (Or.inr (by simp))) ht fun t ht => ?_
      refine Co.Triple.value hG.refl ⟨scalar, _, ht, ?_⟩
      simp [heldKeypair]
    · rintro e t h
      cases h
  · rintro e t ⟨_, h⟩
    cases h

theorem exportRawScalar_evaluates {secret : Bytes} :
    Evaluates (fun x => x = match env.x25519RawExport with
        | .bytes => .ok secret
        | .notSupported => .error .notSupported
        | .invalidAccess => .error .data)
      (exportRawScalar env secret) := by
  refine evaluates_suspend fun _ => ?_
  cases env.x25519RawExport with
  | bytes => exact evaluates_pure rfl
  | notSupported => exact evaluates_throw rfl
  | invalidAccess => exact evaluates_throw rfl

theorem generateWebCryptoKeypair_mints (laws : AesKwLaws P) (husable : key.Usable)
    (hmintable : Mintable env) (hG : Guarantee env G) (hJ : Stable env R J) (havailable : ∀ t, J t → t.Available env)
    (hdb : Healthy env .identity)
    (hJ' : ∀ scalar row t t', J' scalar row t → R t t' → J' scalar row t')
    (hput : ∀ t scalar row, J t → KeypairRow P key.raw scalar row → Usable env row →
      G t (t.withStorage fun storage => { storage with x25519Keypair := some row }) ∧
        J' scalar row (t.withStorage fun storage => { storage with x25519Keypair := some row }))
    (ht : J t) :
    Co.Triple R G (Post (Holding env J') fun e t => e = .notSupported ∧ J t ∨
        e ≠ .notSupported ∧ False) (generateWebCryptoKeypair P env key) t := by
  refine suspend_bind hG hJ.rely ht fun r t ht => ?_
  cases hsupported : env.x25519 with
  | false =>
      simp only [Bool.false_eq_true, if_false]
      exact Co.Triple.raise hG.refl (Or.inl ⟨rfl, ht⟩)
  | true =>
      simp only [if_true]
      refine suspend_bind hG hJ.rely ht fun _ t ht => ?_
      refine (wrapPkcs8_evaluates husable.1).bind_triple hG hJ.rely ht ?_ fun e t h => by cases h
      rintro wrappedPriv t h ht
      cases h
      refine exportRawScalar_evaluates.bind_triple hG hJ.rely ht ?_ ?_
      · rintro rawPrivBytes t h ht
        cases hexport : env.x25519RawExport with
        | notSupported => rw [hexport] at h; cases h
        | invalidAccess => rw [hexport] at h; cases h
        | bytes =>
            rw [hexport] at h
            cases h
            refine (wrapKey32_evaluates husable.1).bind_triple hG hJ.rely ht ?_ fun e t h => by cases h
            rintro wrappedPrivRaw t h ht
            cases h
            have hrow : KeypairRow P key.raw r.random ⟨P.x25519PublicKey r.random.bytes,
                P.aesKwWrap key.raw (X25519_PKCS8_PREFIX ++ r.random.bytes),
                some (P.aesKwWrap key.raw r.random.bytes)⟩ := ⟨Or.inr rfl, Or.inl rfl⟩
            refine write_bind (J' r.random _) hdb hG hJ havailable (hJ' r.random _)
              (fun t ht => hput t _ _ ht hrow (Or.inl hsupported)) ht fun t ht => ?_
            refine (unwrapX25519_right laws env husable.2 r.random).bind_triple hG (hJ' r.random _)
              ht ?_ ?_
            · rintro nonExtractPriv t h ht
              rw [hsupported] at h
              cases h
              refine Co.Triple.value hG.refl ⟨r.random, _, ht, ?_⟩
              simp [heldKeypair, hsupported, laws.wrap_ne_nil]
            · rintro e t h
              rw [hsupported] at h
              cases h
      · rintro e t h ht
        cases hexport : env.x25519RawExport with
        | bytes => rw [hexport] at h; cases h
        | invalidAccess => exact absurd hexport (hmintable hsupported)
        | notSupported =>
            rw [hexport] at h
            cases h
            exact Or.inl ⟨rfl, ht⟩

/-- **A fresh keypair** is written before it is used. -/
theorem generateX25519Keypair_mints (laws : AesKwLaws P) (husable : key.Usable)
    (hmintable : Mintable env) (hG : Guarantee env G) (hJ : Stable env R J) (havailable : ∀ t, J t → t.Available env)
    (hdb : Healthy env .identity)
    (hJ' : ∀ scalar row t t', J' scalar row t → R t t' → J' scalar row t')
    (hput : ∀ t scalar row, J t → KeypairRow P key.raw scalar row → Usable env row →
      G t (t.withStorage fun storage => { storage with x25519Keypair := some row }) ∧
        J' scalar row (t.withStorage fun storage => { storage with x25519Keypair := some row }))
    (ht : J t) :
    Co.Triple R G (Post (Holding env J') fun _ _ => False) (generateX25519Keypair P env key) t := by
  have hweb : Co.Triple R G (Post (fun a t => (∃ b, a = some b ∧ Holding env J' b t) ∨
      a = none ∧ J t) fun _ _ => False)
      (unlessNotSupported (generateWebCryptoKeypair P env key)) t :=
    unlessNotSupported_triple hG
      (generateWebCryptoKeypair_mints laws husable hmintable hG hJ havailable hdb hJ' hput ht)
  refine hweb.bind hG.trans ?_ ?_
  · rintro t kp (⟨kp, rfl, hkp⟩ | ⟨rfl, ht⟩)
    · exact Co.Triple.value hG.refl hkp
    · exact generateNobleKeypair_mints husable hG hJ havailable hdb hJ' hput ht
  · rintro t e ⟨⟩

end Minting

end

end Oxpulse.Identity
