import Oxpulse.Identity.Recovery
import Oxpulse.Identity.Restore

/-!
# A restore takes effect or changes nothing

A rejected restore has written neither row, so the identity that was there is found as
before. A restore that resolves has checked no more than that the secret can be stored:
whether it is a seed, and whether the public key is its own, is looked at by the next
load alone, which then throws for good.
-/

namespace Oxpulse.Identity

open Oxpulse.Coroutine Oxpulse.Crypto

/-- This many loads, each in the session of the one before or after a reload, resolve to
the identity. -/
def LoadsAgain (P : IdentityPrimitives) (env : Runtime) (publicKeyB64 : List Char) (seed : Key32) :
    ℕ → Tab → Prop
  | 0, _ => True
  | loads + 1, t =>
      ∀ me, Co.Triple Alone Anything
        (fun t x => (∃ d, x = .ok d ∧ IsIdentity publicKeyB64 seed d) ∧
          LoadsAgain P env publicKeyB64 seed loads t ∧
          LoadsAgain P env publicKeyB64 seed loads (page t.storage))
        (getOrCreateDeviceIdentity P env me) t

/-- **The identity loads from now on**, in this session and after a reload. -/
def LoadsFromNowOn (P : IdentityPrimitives) (env : Runtime) (publicKeyB64 : List Char)
    (seed : Key32) (t : Tab) : Prop :=
  ∀ loads, LoadsAgain P env publicKeyB64 seed loads t ∧
    LoadsAgain P env publicKeyB64 seed loads (page t.storage)

/-- **A restore takes effect or changes nothing**, whatever storage requests fault under
it: when it resolves, the identity of the secret loads from now on, and when it rejects,
a pair that was stored still does. -/
def RestoreAtomic (P : IdentityPrimitives) (env : Runtime) (secret : Bytes)
    (publicB64u : List Char) (t : Tab) : Prop :=
  ∀ faulty, Co.Triple Alone Anything
    (Post (fun _ t' => ∃ seed, seed.bytes = secret ∧ LoadsFromNowOn P env publicB64u seed t')
      fun _ t' => ∀ key seed stored, Recoverable P env key seed stored t.storage →
        LoadsFromNowOn P env stored.publicKeyB64 seed t')
    (replaceDeviceIdentity P { env with faulty := faulty } secret publicB64u) t

/-- The secret is a seed, and the public key is its own. -/
def SeedPair (P : IdentityPrimitives) (secret : Bytes) (publicB64u : List Char) : Prop :=
  ∃ seed : Key32, seed.bytes = secret ∧
    fromBase64url publicB64u = some (P.ed25519PublicKey seed).bytes

section

variable {P : IdentityPrimitives} {env : Runtime} {key : CryptoKey} {seed : Key32}
  {stored : StoredIdentity} {secret : Bytes} {publicB64u : List Char} {lock : Option Agent}
  {faulty : Database → Bool} {me : Agent} {t t' : Tab}

/-! ## Loads -/

theorem HoldsIdentity.loads {publicKeyB64 : List Char} :
    ∀ {loads : ℕ} {t : Tab}, HoldsIdentity P env publicKeyB64 seed loads t →
      LoadsAgain P env publicKeyB64 seed loads t
  | 0, _, _ => trivial
  | _ + 1, _, h => fun me => (h.1 me).mono fun _ _ hx => ⟨hx.1, hx.2.1.loads, hx.2.2.loads⟩

theorem Restored.loadsFromNowOn (laws : AesKwLaws P) (hworking : Working env)
    (h : Restored P env key seed stored t) : LoadsFromNowOn P env stored.publicKeyB64 seed t :=
  fun loads => ⟨(h.holds laws hworking.1 hworking.2 loads).loads,
    (h.page.holds laws hworking.1 hworking.2 loads).loads⟩

theorem Kept.loadsAgain (laws : AesKwLaws P) (hdb : Healthy env .identity) (loads : ℕ)
    (h : Kept P env key seed stored t) : LoadsAgain P env stored.publicKeyB64 seed loads t := by
  induction loads generalizing t with
  | zero => trivial
  | succ loads ih =>
      intro me
      refine Outcome.Sat.mono (fun _ _ _ => trivial) (fun t x hx => ?_)
        (getOrCreateDeviceIdentity_kept laws hdb h)
      exact ⟨hx.2, ih hx.1, ih hx.1.recoverable.kept⟩

theorem Kept.loadsFromNowOn (laws : AesKwLaws P) (hdb : Healthy env .identity)
    (h : Kept P env key seed stored t) : LoadsFromNowOn P env stored.publicKeyB64 seed t :=
  fun loads => ⟨h.loadsAgain laws hdb loads, h.recoverable.kept.loadsAgain laws hdb loads⟩

/-! ## Under faults -/

theorem Restorable.faults (h : Restorable env t) : Restorable { env with faulty := faulty } t :=
  ⟨h.idle, h.available, h.supported, h.kek⟩

theorem Replaced.healed (h : Replaced P { env with faulty := faulty } key secret stored t) :
    Replaced P env key secret stored t :=
  ⟨h.idle, h.deviceKey, h.devicePrivRaw, h.enveloped,
    ⟨h.ready.entry, h.ready.cached, h.ready.available⟩, h.cachedIdentity⟩

/-! ## A rejected restore -/

/-- The untouched rows are recoverable as they were, unless the key is gone. -/
theorem Untouched.recoverable (hkek : t.storage.kek = none ∨ t'.storage.kek = t.storage.kek)
    (h : Untouched t t') (hrecoverable : Recoverable P env key seed stored t.storage) :
    Recoverable P env key seed stored t'.storage := by
  obtain ⟨⟨hrecord, hdevice, hraw⟩, hkey⟩ := hrecoverable
  refine ⟨⟨hrecord, h.deviceKey.trans hdevice, h.devicePrivRaw.trans hraw⟩, ?_⟩
  rcases hkey with ⟨hhealthy, value, hvalue, hholds⟩ | ⟨value, hvalue, hholds⟩
  · rcases hkek with hnone | hsame
    · rw [hvalue] at hnone
      cases hnone
    · exact Or.inl ⟨hhealthy, value, hsame.trans hvalue, hholds⟩
  · exact Or.inr ⟨value, h.legacy.trans hvalue, hholds⟩

/-- **A rejected restore leaves the identity that was there.** -/
theorem Rejected.kept (h : Rejected { env with faulty := faulty } t t')
    (hrecoverable : Recoverable P env key seed stored t.storage) :
    Kept P env key seed stored t' := by
  have hnothing : t'.session.cachedIdentity = none →
      ∀ d, t'.session.cachedIdentity = some d → IsIdentity stored.publicKeyB64 seed d := by
    intro hnone d hd
    rw [hnone] at hd
    cases hd
  rcases h with hsearch | ⟨key', hfound⟩
  · refine ⟨hsearch.other.recoverable (Or.inr hsearch.kek) hrecoverable, Or.inr ?_,
      hnothing hsearch.other.cachedIdentity, hsearch.available, hsearch.other.idle.inflight,
      hsearch.other.idle.lock⟩
    intro key'' hkey
    rw [hsearch.cached] at hkey
    cases hkey
  · have hkept := hfound.other.recoverable hfound.kept hrecoverable
    refine ⟨hkept, ?_, hnothing hfound.other.cachedIdentity, hfound.ready.available,
      hfound.other.idle.inflight, hfound.other.idle.lock⟩
    rcases hkept.key with ⟨-, value, hvalue, hholds⟩ | hlegacy
    · refine Or.inr fun key'' hkey => ?_
      rw [hfound.ready.cached key'' hkey]
      exact hfound.ready.entry.unique (Or.inl ⟨value, hvalue, hholds⟩)
    · exact Or.inl hlegacy

/-! ## A secret that is not the one of the public key -/

/-- No key yields a seed of the stored public key. -/
theorem unfit_of_mismatch (laws : AesKwLaws P) (hno : ¬ SeedPair P secret stored.publicKeyB64)
    (key key' : CryptoKey) : Unfit P stored (P.aesKwWrap key.raw secret) key' := by
  by_cases hraw : key'.raw = key.raw
  · refine unwrapSecretBytes_outcome.bind ?_ fun e _ => ⟨e, rfl⟩
    intro rawSeed h
    have hsame : rawSeed = secret := by
      rw [hraw, laws.unwrap_wrap] at h
      cases hunwraps : key'.unwraps with
      | true => rw [hunwraps] at h; cases h; rfl
      | false => rw [hunwraps] at h; cases h
    subst hsame
    refine evaluates_orThrow.bind ?_ fun e _ => ⟨e, rfl⟩
    intro seed hseed
    have hbytes : seed.bytes = rawSeed := by
      rw [toKey32] at hseed
      split at hseed
      · cases hseed; rfl
      · cases hseed
    refine evaluates_orThrow.bind ?_ fun e _ => ⟨e, rfl⟩
    intro storedPub hpub
    by_cases hmatch : (P.ed25519PublicKey seed).bytes = storedPub
    · refine absurd ⟨seed, hbytes, ?_⟩ hno
      cases hdecode : fromBase64url stored.publicKeyB64 with
      | none => rw [hdecode] at hpub; cases hpub
      | some bytes => rw [hdecode] at hpub; cases hpub; rw [hmatch]
    · rw [if_neg hmatch]
      exact evaluates_throw ⟨_, rfl⟩
  · refine unfit_of_unwrap (unwrapSecretBytes_outcome.mono ?_)
    rintro x rfl
    rw [laws.unwrap_other _ _ _ hraw]
    cases key'.unwraps with
    | true => exact ⟨_, rfl⟩
    | false => exact ⟨_, rfl⟩

/-- A load over the rows of a secret and a record. -/
def Opening (P : IdentityPrimitives) (env : Runtime) (key : CryptoKey) (secret : Bytes)
    (stored : StoredIdentity) (lock : Option Agent) (t : Tab) : Prop :=
  (t.storage.deviceKey = some stored ∧
    t.storage.devicePrivRaw = some (P.aesKwWrap key.raw secret) ∧
    t.session.cachedIdentity = none ∧ t.origin.identityLock = lock) ∧ KekReady env key t

theorem opening_stable : Stable env Alone (Opening P env key secret stored lock) :=
  alone_stable fun _ _ h hc => ⟨h.1, h.2.entry, h.2.cached, Tab.Available.quiet hc⟩

/-- **The next load of a mismatch throws.** -/
theorem getOrCreateDeviceIdentity_mismatch (me : Agent) (laws : AesKwLaws P) (hworking : Working env)
    (hno : ¬ SeedPair P secret stored.publicKeyB64) (h : Replaced P env key secret stored t) :
    Co.Triple Alone Anything (fun _ x => ∃ e, x = .error e) (getOrCreateDeviceIdentity P env me)
      (page t.storage) := by
  have hG := anything_guarantee env
  have hblind : ∀ lock, KekBlind fun t => t.storage.deviceKey = some stored ∧
      t.storage.devicePrivRaw = some (P.aesKwWrap key.raw secret) ∧
      t.session.cachedIdentity = none ∧ t.origin.identityLock = lock := fun _ =>
    ⟨fun _ _ h => h, fun _ _ h => h, fun _ _ h => h, fun _ _ h => h⟩
  have hopen : Opening P env key secret stored none ((page t.storage).openPromise 0) := by
    refine ⟨⟨h.deviceKey, h.devicePrivRaw, rfl, rfl⟩, h.ready.entry, ?_, ?_⟩
    · rintro key' ⟨⟩
    · rintro - c ⟨⟩
  refine getOrCreateDeviceIdentity_alone (Opening P env key secret stored)
    (fun _ _ x => ∃ e, x = .error e) hG (fun _ _ _ => trivial) rfl rfl hopen
    (fun _ h => h.1.2.2.2) (fun t h => ⟨⟨h.1.1, h.1.2.1, h.1.2.2.1, rfl⟩, h.2.entry, h.2.cached,
      h.2.available⟩) (fun lock t ht => ?_) (fun _ _ h => h) fun _ _ h _ => h
  have hstable : Stable env Alone (Opening P env key secret stored lock) := opening_stable
  refine get_bind ?_
  simp only [ht.1.2.2.1]
  refine (load_triple hG hstable (fun t h => h.2.available) ht).attempt_bind hG.trans
    fun t x hx => ?_
  cases x with
  | error e => exact absurd hx.2 hworking.1.noFaults
  | ok row =>
      obtain ⟨ht, t₀, ht₀, rfl⟩ := hx
      simp only [ht₀.1.1]
      refine useStored_fails (fun _ => True) hG hstable (fun t h => h.2.available)
        (fun t h => h.1.2.1) (fun key' _ => unfit_of_mismatch laws hno key key')
        (fun _ _ _ _ _ _ => trivial)
        ((getOrCreateWrappingKey_ready hworking.1 hworking.2 (hblind lock) ht.1 ht.2).mono
          fun t x hx => ?_)
      cases x with
      | ok key' => exact ⟨hx.1, trivial⟩
      | error e => exact hx.elim

/-! ## When a restore is atomic -/

/-- **A refused secret, or a matching pair**: the restore is atomic. -/
theorem restoreAtomic_of (laws : AesKwLaws P) (hworking : Working env) (ht : Restorable env t)
    (h : ¬ Storable env secret ∨ SeedPair P secret publicB64u) :
    RestoreAtomic P env secret publicB64u t := by
  intro faulty
  refine (replaceDeviceIdentity_ends ht.faults).mono fun t' x hx => ?_
  cases x with
  | ok _ =>
      obtain ⟨hstorable, key, wrapped, hreplaced⟩ := hx
      rcases h with hno | ⟨seed, rfl, hmatch⟩
      · exact absurd hstorable hno
      · exact ⟨seed, rfl, (hreplaced.healed.restored hmatch).loadsFromNowOn laws hworking⟩
  | error e =>
      exact fun key seed stored hrecoverable =>
        (hx.1.kept hrecoverable).loadsFromNowOn laws hworking.1

/-- **A stored mismatch**: the restore resolves, and the next load throws. -/
theorem not_restoreAtomic (laws : AesKwLaws P) (hworking : Working env) (ht : Restorable env t)
    (hstorable : Storable env secret) (hno : ¬ SeedPair P secret publicB64u) :
    ¬ RestoreAtomic P env secret publicB64u t := by
  intro h
  have hrefl : ∀ t, Alone t t := fun _ => rfl
  have hrestore : Co.Triple Alone Anything _ (replaceDeviceIdentity P env secret publicB64u) t :=
    h env.faulty
  have hatomic := Outcome.Sat.run hrefl ⟨0, sampleKey 0, none, none⟩ hrestore
  have hends := Outcome.Sat.run hrefl ⟨0, sampleKey 0, none, none⟩
    (replaceDeviceIdentity_ends ht : Co.Triple Alone Anything _
      (replaceDeviceIdentity P env secret publicB64u) t)
  generalize (replaceDeviceIdentity P env secret publicB64u t).run ⟨0, sampleKey 0, none, none⟩ =
    final at hatomic hends
  obtain ⟨t', x⟩ := final
  cases x with
  | ok _ =>
      obtain ⟨-, key, wrapped, hreplaced⟩ := hends
      obtain ⟨seed, -, hloads⟩ := hatomic
      have hfails := getOrCreateDeviceIdentity_mismatch ⟨0, 0⟩ laws hworking hno hreplaced
      obtain ⟨⟨d, hd, -⟩, -⟩ :=
        Outcome.Sat.run hrefl ⟨0, sampleKey 0, none, none⟩ ((hloads 1).2 ⟨0, 0⟩)
      obtain ⟨e, he⟩ := Outcome.Sat.run hrefl ⟨0, sampleKey 0, none, none⟩ hfails
      rw [hd] at he
      cases he
  | error e =>
      rcases hends.2 with hfault | hfault | hrefused
      · exact hworking.2.noFaults hfault
      · exact hworking.1.noFaults hfault
      · exact hrefused hstorable

end

/-- **A restore takes effect or changes nothing exactly when** the secret is refused — by
AES-KW, or by the import of a runtime with Ed25519 — or it is a seed and the public key is
its own. -/
theorem restoreAtomic_iff {P : IdentityPrimitives} {env : Runtime} {t : Tab} (laws : AesKwLaws P)
    (hworking : Working env) (ht : Restorable env t) (secret : Bytes) (publicB64u : List Char) :
    RestoreAtomic P env secret publicB64u t ↔
      ¬ Storable env secret ∨ SeedPair P secret publicB64u := by
  constructor
  · intro h
    by_contra hcond
    rw [not_or, not_not] at hcond
    exact not_restoreAtomic laws hworking ht hcond.1 hcond.2 h
  · intro h
    exact restoreAtomic_of laws hworking ht h

/-- A device that holds an identity. -/
theorem sampleStorage_restorable (env : Runtime) : Restorable env (page sampleStorage) := by
  refine ⟨⟨rfl, rfl⟩, ?_, ?_, Or.inl ⟨_, (sampleStorage_ready env).entry⟩⟩
  · rintro - c ⟨⟩
  · rintro b ⟨⟩

theorem restoreAtomic_iff_sample :
    RestoreAtomic samplePrimitives (sampleRuntime true) (sampleKey 7).bytes
        sampleStored.publicKeyB64 (page sampleStorage) ↔
      ¬ Storable (sampleRuntime true) (sampleKey 7).bytes ∨
        SeedPair samplePrimitives (sampleKey 7).bytes sampleStored.publicKeyB64 :=
  restoreAtomic_iff samplePrimitives_laws ⟨⟨rfl, rfl⟩, rfl, rfl⟩ (sampleStorage_restorable _) _ _

/-- The seed 8 with the public key of the seed 7: the device that held the identity of the
seed 7 holds none from then on. -/
theorem restore_splitPair :
    ¬ ∀ secret publicB64u, RestoreAtomic samplePrimitives (sampleRuntime true) secret publicB64u
      (page sampleStorage) := by
  intro h
  refine not_restoreAtomic samplePrimitives_laws ⟨⟨rfl, rfl⟩, rfl, rfl⟩
    (sampleStorage_restorable _) (storable_key _ (sampleKey 8)) ?_
    (h (sampleKey 8).bytes sampleStored.publicKeyB64)
  rintro ⟨seed, hbytes, hmatch⟩
  rw [sampleStored, fromBase64url_toBase64url, Option.some.injEq] at hmatch
  have hpublic : (samplePrimitives.ed25519PublicKey seed).bytes = seed.bytes.map (· + 1) := rfl
  rw [hpublic, hbytes] at hmatch
  exact absurd hmatch (by decide)

/-- An import that drops what stands behind the envelope: 40 bytes are stored, and no load
takes them for a seed. -/
example (publicB64u : List Char) :
    Storable { sampleRuntime true with pkcs8 := .dropping 24 } (List.replicate 40 7) ∧
      ¬ SeedPair samplePrimitives (List.replicate 40 7) publicB64u := by
  refine ⟨⟨by decide, by decide, fun _ => by decide⟩, ?_⟩
  rintro ⟨seed, hbytes, -⟩
  have hlength := seed.size
  rw [hbytes] at hlength
  exact absurd hlength (by decide)

end Oxpulse.Identity
