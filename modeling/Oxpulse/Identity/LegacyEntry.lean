import Oxpulse.Identity.FirstFlight
import Oxpulse.Identity.Restore

/-!
# A first identity over an entry of the old layout

A device with an empty KEK database and no identity adopts the wrapping key that the
old layout left, and makes one when what is there is of neither shape or unreadable.
A classified entry is taken at its word: raw bytes of a wrong length make the import
throw, outside every guard, and an object that only has the fields of a key, or a key
that may not wrap and unwrap, is adopted and fails at its first use.
-/

namespace Oxpulse.Identity

open Oxpulse.Coroutine Oxpulse.Crypto

/-- **A device before its first identity**, with this entry of the old layout. -/
structure Unstarted (env : Runtime) (value : StoredValue) (lock : Option Agent) (t : Tab) :
    Prop where
  deviceKey : t.storage.deviceKey = none
  kek : t.storage.kek = none
  legacy : t.storage.legacyWrappingKey = some value
  cachedIdentity : t.session.cachedIdentity = none
  cachedWrappingKey : t.session.cachedWrappingKey = none
  supported : ∀ b, t.session.structuredCloneSupported = some b → b = env.structuredClone
  available : t.Available env
  lock : t.origin.identityLock = lock

/-- The entry is a wrapping key, or nothing that is taken for one. -/
def Adoptable : StoredValue → Prop
  | .arrayBuffer bytes => bytes.length ∈ [16, 24, 32]
  | .cryptoKey key =>
      key.type = .secret ∧ key.algorithm = "AES-KW" ∧ key.extractable = false → key.Usable
  | .other => True
  | .unreadable => True

/-- **It persists.** The call resolves to an identity that the storage holds, and any
later sequence of calls, with the page reloaded first and in between, yields it again. -/
def Persists (P : IdentityPrimitives) (env : Runtime) (me : Agent) (t : Tab) : Prop :=
  Co.Triple Alone Anything
    (fun t x => ∃ d seed, x = .ok d ∧ IsIdentity d.publicKeyB64 seed d ∧ Held P t.storage d ∧
      ∀ calls, HoldsIdentity P env d.publicKeyB64 seed calls (page t.storage))
    (getOrCreateDeviceIdentity P env me) t

section

variable {P : IdentityPrimitives} {env : Runtime} {key : CryptoKey} {seed : Key32}
  {stored : StoredIdentity} {value : StoredValue} {row : Bytes} {lock : Option Agent} {me : Agent}
  {d : DeviceIdentity} {F : Storage → Prop} {t : Tab}

/-! ## The create path -/

theorem unstarted_stable : Stable env Alone (Unstarted env value lock) :=
  alone_stable fun _ _ h hc => ⟨h.deviceKey, h.kek, h.legacy, h.cachedIdentity,
    h.cachedWrappingKey, h.supported, Tab.Available.quiet hc, h.lock⟩

/-- **The inner sequence mints**, and ends in what persisting the identity ends in. The
only error that persisting may end in is no reason to fall back. -/
theorem getOrCreateDeviceIdentityInner_mints (ok : DeviceIdentity → Tab → Prop) (refused : Prop)
    (hidentity : Healthy env .identity)
    (hpersist : ∀ seed d t, Whole P env seed d → Unstarted env value lock t →
      Co.Triple Alone Anything (Post ok fun e _ => e = .data ∧ refused) (persistIdentity P env d) t)
    (ht : Unstarted env value lock t) :
    Co.Triple Alone Anything (Post (fun d t => ∃ t₀, ok d t₀ ∧ t = t₀.withSession (cacheIdentity d))
        fun e _ => e = .data ∧ refused)
      (getOrCreateDeviceIdentityInner P env) t := by
  have hG := anything_guarantee env
  have hmint : ∀ t, Unstarted env value lock t → Co.Triple Alone Anything
      (Post (fun minted t => minted.persisted = true ∧ ok minted.identity t)
        fun e _ => e = .data ∧ refused) (mintIdentityWithStorageFallback P env) t := by
    intro t ht
    have hboth : Co.Triple Alone Anything (Post ok fun e _ => e = .data ∧ refused)
        (do persistIdentity P env (← generateDeviceIdentity P env)) t := by
      refine generateDeviceIdentity_evaluates.bind_triple hG unstarted_stable.rely ht ?_ ?_
      · rintro d t ⟨seed, d', h, hd⟩ ht
        cases h
        exact hpersist seed d t hd ht
      · rintro e t ⟨_, _, ⟨⟩, -⟩
    refine hboth.attempt_bind hG.trans fun t x hx => ?_
    cases x with
    | ok d => exact Co.Triple.value hG.refl ⟨rfl, hx⟩
    | error e =>
        obtain ⟨rfl, hrefused⟩ := hx
        exact Co.Triple.raise hG.refl ⟨rfl, hrefused⟩
  refine get_bind ?_
  simp only [ht.cachedIdentity]
  refine (load_triple hG unstarted_stable (fun t h => h.available) ht).attempt_bind hG.trans
    fun t x hx => ?_
  cases x with
  | error e => exact absurd hx.2 hidentity.noFaults
  | ok stored =>
      obtain ⟨ht, t₀, ht₀, rfl⟩ := hx
      simp only [ht₀.deviceKey]
      refine (hmint t ht).bind hG.trans ?_ fun t e h => h
      rintro t minted ⟨hpersisted, hok⟩
      simp only [hpersisted, if_true]
      exact modify_bind hG trivial (Co.Triple.value hG.refl ⟨t, hok, rfl⟩)

/-- A call on its own on such a device. -/
theorem getOrCreateDeviceIdentity_unstarted
    (Qin : Option Agent → Tab → Except IdentityError DeviceIdentity → Prop)
    {Q : Tab → Except IdentityError DeviceIdentity → Prop}
    (hinflight : t.session.inflightIdentity = none) (ht : Unstarted env value none t)
    (hinner : ∀ lock t, Unstarted env value lock t →
      Co.Triple Alone Anything (Qin lock) (getOrCreateDeviceIdentityInner P env) t)
    (hunlock : ∀ t x, Qin (some me) t x → Qin none (t.withLock none) x)
    (hsettle : ∀ t x, Qin none t x → ∀ promise, Q (t.settlePromise promise x) x) :
    Co.Triple Alone Anything Q (getOrCreateDeviceIdentity P env me) t :=
  getOrCreateDeviceIdentity_alone (Unstarted env value) Qin (anything_guarantee env)
    (fun _ _ _ => trivial) ht.cachedIdentity hinflight
    ⟨ht.deviceKey, ht.kek, ht.legacy, ht.cachedIdentity, ht.cachedWrappingKey, ht.supported,
      ht.available, ht.lock⟩
    (fun _ h => h.lock)
    (fun _ h => ⟨h.deviceKey, h.kek, h.legacy, h.cachedIdentity, h.cachedWrappingKey, h.supported,
      h.available, rfl⟩) hinner hunlock hsettle

/-! ## An adoptable entry -/

/-- An adoptable entry is of neither shape, or it holds a wrapping key. -/
theorem Adoptable.cases (h : Adoptable value) :
    classifyKekEntry value = none ∨ ∃ key, value.Holds key := by
  cases value with
  | arrayBuffer bytes =>
      exact Or.inr ⟨aesKwKey false bytes, .raw bytes, rfl, ⟨h, rfl⟩, aesKwKey_usable false bytes⟩
  | cryptoKey key =>
      by_cases hfields : key.type = .secret ∧ key.algorithm = "AES-KW" ∧ key.extractable = false
      · exact Or.inr ⟨key, .key key, if_pos hfields, rfl, h hfields⟩
      · exact Or.inl (if_neg hfields)
  | other => exact Or.inl rfl
  | unreadable => exact Or.inl rfl

/-- Where it is adoptable, there is a wrapping key to adopt or a first one to make. -/
theorem Unstarted.restorable (h : Adoptable value) (ht : Unstarted env value lock t) :
    (∃ key, Resolves key t.storage) ∨ (t.storage.kek = none ∧ NoLegacy t.storage) := by
  rcases h.cases with hnone | ⟨key, hholds⟩
  · refine Or.inr ⟨ht.kek, fun value' hvalue' => ?_⟩
    rw [ht.legacy] at hvalue'
    cases hvalue'
    exact hnone
  · exact Or.inl ⟨key, Or.inr ⟨ht.kek, value, ht.legacy, hholds⟩⟩

/-- What persisting an identity leaves: its pair, and nothing else in memory yet. -/
def Paired (P : IdentityPrimitives) (env : Runtime) (lock : Option Agent) (d : DeviceIdentity)
    (t : Tab) : Prop :=
  ∃ key seed stored, Looking P env key seed stored lock t ∧ IsIdentity stored.publicKeyB64 seed d ∧
    (env.ed25519 = true ∨ stored.wrappedPrivateKey = [])

theorem persistIdentity_paired (laws : AesKwLaws P) (hworking : Working env)
    (hadoptable : Adoptable value) (hd : Whole P env seed d) (ht : Unstarted env value lock t) :
    Co.Triple Alone Anything (Post (Paired P env lock) fun _ _ => False)
      (persistIdentity P env d) t := by
  have hblind : KekBlind fun t => t.session.cachedIdentity = none ∧
      t.origin.identityLock = lock :=
    ⟨fun _ _ h => h, fun _ _ h => h, fun _ _ h => h, fun _ _ h => h⟩
  have hkey := getOrCreateWrappingKey_restorable hworking.2 hblind
    ⟨ht.cachedIdentity, ht.lock⟩ ht.available ht.supported (ht.restorable hadoptable)
    ht.cachedWrappingKey
  refine (persistIdentity_pairs _ (fun key stored => Looking P env key seed stored lock) laws
    hworking.1 hd (anything_guarantee env)
    (fun key => alone_stable fun t c h hc => ⟨h.1, h.2.entry, h.2.cached, Tab.Available.quiet hc⟩)
    (fun key t h => h.2.available) (fun key stored => looking_stable.rely)
    (fun key t h => h.2.entry.usable) ?_ hkey).mono fun t x hx => ?_
  · rintro key stored t ⟨⟨hcached, hlock⟩, hready⟩ hrecord
    exact ⟨trivial, ⟨⟨hrecord, rfl, rfl⟩, hcached, hlock⟩, hready.entry, hready.cached,
      hready.available⟩
  · cases x with
    | ok d' =>
        obtain ⟨key, stored, hlooking, hd', hopens⟩ := hx
        exact ⟨key, seed, stored, hlooking, hd', hopens⟩
    | error e => exact hx

/-- **Over an adoptable entry the first identity persists.** -/
theorem persists_of_adoptable (laws : AesKwLaws P) (hworking : Working env)
    (hadoptable : Adoptable value) (hinflight : t.session.inflightIdentity = none)
    (ht : Unstarted env value none t) : Persists P env me t := by
  refine getOrCreateDeviceIdentity_unstarted
    (fun lock => Post (fun d t => ∃ t₀, Paired P env lock d t₀ ∧
      t = t₀.withSession (cacheIdentity d)) fun _ _ => False) hinflight ht (fun lock t ht => ?_) ?_ ?_
  · refine (getOrCreateDeviceIdentityInner_mints (Paired P env lock) False hworking.1
      (fun seed d t hd ht => ?_) ht).mono fun t x hx => ?_
    · refine (persistIdentity_paired laws hworking hadoptable hd ht).mono fun t x hx => ?_
      cases x with
      | ok d => exact hx
      | error e => exact hx.elim
    · cases x with
      | ok d => exact hx
      | error e => exact hx.2
  · intro t x hx
    cases x with
    | ok d =>
        obtain ⟨t₀, ⟨key, seed, stored, ⟨⟨hpair, hnone, -⟩, hready⟩, hd⟩, rfl⟩ := hx
        exact ⟨t₀.withLock none, ⟨key, seed, stored, ⟨⟨hpair, hnone, rfl⟩, hready.entry,
          hready.cached, hready.available⟩, hd⟩, rfl⟩
    | error e => exact hx.elim
  · intro t x hx promise
    cases x with
    | ok d =>
        obtain ⟨t₀, ⟨key, seed, stored, ⟨⟨hpair, -, -⟩, hready⟩, ⟨hpublic, hseed⟩, hopens⟩, rfl⟩ := hx
        have hpage : Restored P env key seed stored (page t₀.storage) := by
          refine ⟨⟨rfl, rfl⟩, hpair, ⟨hready.entry, ?_, ?_⟩, hopens, ?_⟩
          · rintro key' ⟨⟩
          · rintro - c ⟨⟩
          · rintro d' ⟨⟩
        refine ⟨d, seed, rfl, ⟨rfl, hseed⟩,
          ⟨key, seed, stored, ⟨hpair, hready.entry⟩, hpublic, hseed⟩, fun calls => ?_⟩
        rw [hpublic]
        exact hpage.holds laws hworking.1 hworking.2 calls
    | error e => exact hx.elim

/-! ## Bytes of a wrong length -/

/-- **Bytes that are no key** make the import throw, and the throw is not caught. -/
theorem getOrCreateWrappingKey_rejects {entry : KekEntry} (hworking : Working env)
    (hclassify : classifyKekEntry value = some entry) (hno : ∀ key, ¬ entry.Opens key)
    (ht : Unstarted env value lock t) :
    Co.Triple Alone Anything (Post (fun _ _ => False) fun e _ => e = .data)
      (getOrCreateWrappingKey env) t := by
  have hG := anything_guarantee env
  have hadopt : ∀ canClone t, Unstarted env value lock t →
      Co.Triple Alone Anything (Post (fun _ _ => False) fun e _ => e = .data)
        (adoptLegacyWrappingKey env canClone) t := by
    intro canClone t ht
    refine (loadKey_triple hG unstarted_stable (fun t h => h.available) ht).attempt_bind hG.trans
      fun t x hx => ?_
    cases x with
    | error e =>
        obtain ⟨-, hfault | ⟨-, t₀, ht₀, hunreadable⟩⟩ := hx
        · exact absurd hfault hworking.1.noFaults
        · rw [ht₀.legacy] at hunreadable
          cases hunreadable
          cases hclassify
    | ok legacy =>
        obtain ⟨ht, -, t₀, ht₀, rfl⟩ := hx
        simp only [ht₀.legacy, hclassify]
        refine handle_evaluates.bind_triple hG unstarted_stable.rely ht ?_ ?_
        · rintro key t (⟨key', -, hopens⟩ | ⟨⟨⟩, -⟩) ht
          exact absurd hopens (hno key')
        · rintro e t (⟨key', -, hopens⟩ | ⟨h, -⟩) ht
          · exact absurd hopens (hno key')
          · cases h
            rfl
  refine remembered_triple hG ?_ fun _ => ?_
  · intro key hkey
    rw [deviceKek_cachedWrappingKey, ht.cachedWrappingKey] at hkey
    cases hkey
  refine (probeStructuredClone_triple (B := fun _ => True) hG unstarted_stable.rely ?_
    (fun _ _ _ _ => trivial) trivial ht).bind hG.trans ?_ ?_
  · intro t ht
    refine ⟨trivial, ht.deviceKey, ht.kek, ht.legacy, ht.cachedIdentity, ht.cachedWrappingKey, ?_,
      ht.available, ht.lock⟩
    rintro b ⟨⟩
    rfl
  · rintro t canClone ⟨ht, -⟩
    have hfind : Co.Triple Alone Anything (Post (fun _ _ => False) fun e _ => e = .data)
        (findWrappingKey env deviceKek (adoptLegacyWrappingKey env) canClone) t := by
      refine (loadKey_triple hG unstarted_stable (fun t h => h.available) ht).bind hG.trans ?_ ?_
      · rintro t existing ⟨ht, -, t₀, ht₀, rfl⟩
        simp only [deviceKek_entry, ht₀.kek]
        refine (hadopt canClone t ht).bind hG.trans ?_ fun t e h => h
        rintro t adopted ⟨⟩
      · rintro t e ⟨-, hfault | ⟨-, t₀, ht₀, hunreadable⟩⟩
        · exact absurd hfault hworking.2.noFaults
        · rw [deviceKek_entry, ht₀.kek] at hunreadable
          cases hunreadable
    refine hfind.mono fun t x hx => ?_
    cases x with
    | ok key => exact hx.elim
    | error e => exact hx
  · rintro t e ⟨⟩

/-! ## A handle that is no wrapping key -/

/-- The handle of the entry is in use, beside what else is known of the storage. -/
structure Handled (env : Runtime) (key : CryptoKey) (value : StoredValue) (F : Storage → Prop)
    (lock : Option Agent) (t : Tab) : Prop where
  reaches : Reaches key t.storage
  legacy : t.storage.legacyWrappingKey = some value
  cached : ∀ key', t.session.cachedWrappingKey = some key' → key' = key
  cachedIdentity : t.session.cachedIdentity = none
  available : t.Available env
  lock : t.origin.identityLock = lock
  known : F t.storage

theorem handled_stable : Stable env Alone (Handled env key value F lock) :=
  alone_stable fun _ _ h hc => ⟨h.reaches, h.legacy, h.cached, h.cachedIdentity,
    Tab.Available.quiet hc, h.lock, h.known⟩

/-- The call keeps to the handle. -/
theorem getOrCreateWrappingKey_handled (hworking : Working env)
    (hF : ∀ storage value, F storage → F (deviceKek.put value storage))
    (ht : Handled env key value F lock t) :
    Co.Triple Alone Anything
      (Post (fun key' t => Handled env key value F lock t ∧ key' = key) fun _ _ => False)
      (getOrCreateWrappingKey env) t := by
  refine getOrCreateWrappingKey_reaches (anything_guarantee env) handled_stable
    (fun t h => h.available) hworking.1 hworking.2 (fun t h => ⟨h.legacy, h.reaches⟩)
    (fun t key' h => h.cached key') ?_ ?_ ?_ ht
  · intro t value' ht hopens
    exact ⟨trivial, Or.inl ⟨value', rfl, hopens⟩, ht.legacy, ht.cached, ht.cachedIdentity,
      ht.available, ht.lock, hF _ _ ht.known⟩
  · intro t ht
    exact ⟨trivial, ht.reaches, ht.legacy, ht.cached, ht.cachedIdentity, ht.available, ht.lock,
      ht.known⟩
  · intro t ht
    refine ⟨trivial, ht.reaches, ht.legacy, ?_, ht.cachedIdentity, ht.available, ht.lock, ht.known⟩
    rintro key' ⟨⟩
    rfl

theorem Unstarted.handled (hopens : value.Opens key) (ht : Unstarted env value lock t) :
    Handled env key value (fun _ => True) lock t := by
  refine ⟨Or.inr ⟨ht.kek, value, ht.legacy, hopens⟩, ht.legacy, ?_, ht.cachedIdentity,
    ht.available, ht.lock, trivial⟩
  intro key' hkey'
  rw [ht.cachedWrappingKey] at hkey'
  cases hkey'

/-- The two rows of an identity. -/
structure Rows (stored : StoredIdentity) (row : Bytes) (storage : Storage) : Prop where
  deviceKey : storage.deviceKey = some stored
  devicePrivRaw : storage.devicePrivRaw = some row

/-- The rows of a first identity were written with a handle that does not unwrap. -/
structure Useless (value : StoredValue) (key : CryptoKey) (stored : StoredIdentity) (row : Bytes)
    (storage : Storage) : Prop where
  opens : value.Opens key
  refused : key.unwraps = false
  reaches : Reaches key storage
  legacy : storage.legacyWrappingKey = some value
  rows : Rows stored row storage

theorem evaluates_data_bind {α β : Type} {co : TabCo α} {f : α → TabCo β} {J : Tab → Prop}
    {ok : β → Tab → Prop} {V : α → Prop} (hJ : Stable env Alone J)
    (h : Evaluates (fun x => x = .error .data ∨ ∃ a, x = .ok a ∧ V a) co) (ht : J t)
    (hf : ∀ a t, V a → J t → Co.Triple Alone Anything (Post ok fun e _ => e = .data) (f a) t) :
    Co.Triple Alone Anything (Post ok fun e _ => e = .data) (co >>= f) t := by
  refine h.bind_triple (anything_guarantee env) hJ.rely ht ?_ ?_
  · rintro a t (h | ⟨_, h, ha⟩) ht
    · cases h
    · cases h
      exact hf a t ha ht
  · rintro e t (h | ⟨_, h, -⟩) ht
    · cases h
      rfl
    · cases h

theorem whenTaken_cases {α : Type} {taken : Bool} {a : α} {x : Except IdentityError α}
    (h : x = whenTaken taken (.ok a)) : x = .error .data ∨ ∃ b, x = .ok b ∧ taken = true := by
  cases taken with
  | true => exact Or.inr ⟨a, h, rfl⟩
  | false => exact Or.inl h

/-- With a handle that does not unwrap, the handles of the identity are the same or the
unwrap throws. -/
theorem runtimeHandles_refused (laws : AesKwLaws P) (hrefused : key.unwraps = false)
    (hd : Whole P env seed d) {wrapped : Bytes} :
    Evaluates (fun x => x = .error .data ∨ ∃ d', x = .ok d' ∧ True)
      (runtimeHandles P env d wrapped key) := by
  cases hed : env.ed25519 with
  | false =>
      refine Evaluates.mono (runtimeHandles_same laws hd fun secret hsecret => ?_) ?_
      · rw [hd.privateKey, hed] at hsecret
        cases hsecret
      · rintro x ⟨d', h, -⟩
        exact Or.inr ⟨d', h, trivial⟩
  | true =>
      unfold runtimeHandles
      rw [hd.privateKey, hed]
      refine Evaluates.bind (V := fun x => x = .error .data) ?_ ?_ ?_
      · rw [map_eq_pure_bind]
        refine unwrapPkcs8_outcome.bind ?_ ?_
        · intro secret h
          rw [hrefused] at h
          cases hgenuine : key.genuine with
          | false => rw [hgenuine] at h; cases h
          | true => rw [hgenuine] at h; cases h
        · intro e h
          rw [hrefused] at h
          cases hgenuine : key.genuine with
          | false => rw [hgenuine] at h; cases h; rfl
          | true => rw [hgenuine] at h; cases h; rfl
      · rintro priv ⟨⟩
      · rintro e ⟨⟩
        exact Or.inl rfl

/-- **Persisting with a handle** that is no wrapping key: an operation with it throws, or
the rows are written. -/
theorem persistIdentity_handled (laws : AesKwLaws P) (hworking : Working env)
    (hopens : value.Opens key) (hunusable : ¬ key.Usable) (hd : Whole P env seed d) (ht : Unstarted env value lock t) :
    Co.Triple Alone Anything
      (Post (fun _ t => ∃ stored row, Useless value key stored row t.storage) fun e _ => e = .data)
      (persistIdentity P env d) t := by
  have hG := anything_guarantee env
  have hprivate : Evaluates (fun x => x = .error .data ∨ ∃ wrapped, x = .ok wrapped ∧ True)
      (wrapPrivateKey P d.privateKey key) := by
    cases d.privateKey with
    | none => exact evaluates_pure (Or.inr ⟨[], rfl, trivial⟩)
    | some secret =>
        refine wrapPkcs8_outcome.mono fun x hx => ?_
        exact (whenTaken_cases hx).imp_right fun ⟨wrapped, h, _⟩ => ⟨wrapped, h, trivial⟩
  refine (getOrCreateWrappingKey_handled hworking (fun _ _ h => h) (ht.handled hopens)).bind
    hG.trans ?_ ?_
  · rintro t key' ⟨ht, rfl⟩
    simp only [hd.privateKeySeed]
    refine evaluates_orThrow.bind_triple hG handled_stable.rely ht ?_ ?_
    · rintro seed' t h ht
      cases h
      refine evaluates_data_bind handled_stable
        (wrapKey32_outcome.mono fun x hx => whenTaken_cases hx) ht fun row t hwraps ht => ?_
      refine evaluates_data_bind handled_stable hprivate ht fun wrapped t _ ht => ?_
      refine (write_triple (Handled env key' value (Rows ⟨d.publicKeyB64, wrapped⟩ row) lock) hG
        handled_stable (fun t h => h.available) handled_stable.rely ?_ ht).bind hG.trans ?_ ?_
      · intro t ht
        exact ⟨trivial, ht.reaches, ht.legacy, ht.cached, ht.cachedIdentity, ht.available, ht.lock,
          rfl, rfl⟩
      · intro t _ ht
        have hrefused : key'.unwraps = false :=
          Bool.eq_false_iff.mpr fun hunwraps => hunusable ⟨hwraps, hunwraps⟩
        refine ((runtimeHandles_refused laws hrefused hd).triple hG handled_stable.rely ht).mono ?_
        rintro t x ⟨ht, rfl | ⟨d', rfl, -⟩⟩
        · rfl
        · exact ⟨_, _, hopens, hrefused, ht.reaches, ht.legacy, ht.known⟩
      · rintro t e ⟨-, hfault⟩
        exact absurd hfault hworking.1.noFaults
    · rintro e t ⟨⟩
  · rintro t e ⟨⟩

/-! ## The next session -/

/-- **Rows under a handle that does not unwrap** are never unwrapped, nor recovered. -/
theorem useStored_refused (hworking : Working env) (hopens : value.Opens key)
    (hrefused : key.unwraps = false) (ht : Handled env key value (Rows stored row) lock t) :
    Co.Triple Alone Anything (fun _ x => ∃ e, x = .error e) (useStored P env stored) t := by
  have hstable : Stable env Alone (Handled env key value (Rows stored row) lock) := handled_stable
  refine useStored_fails (fun key' => key' = key) (anything_guarantee env) hstable
    (fun t h => h.available) (fun t h => h.known.devicePrivRaw) (fun key' h => ?_) (fun t value' key' ht hvalue h => ?_)
    ((getOrCreateWrappingKey_handled hworking (fun _ _ h => ⟨h.deviceKey, h.devicePrivRaw⟩)
      ht).mono fun t x hx => ?_)
  · rw [h]
    exact unfit_of_unwrap (unwrapSecretBytes_refused hrefused)
  · rw [ht.legacy] at hvalue
    cases hvalue
    exact h.unique hopens
  · cases x with
    | ok key' => exact hx
    | error e => exact hx.elim

/-- **The next session fails.** -/
theorem getOrCreateDeviceIdentity_refused {storage : Storage} (me : Agent)
    (hworking : Working env) (h : Useless value key stored row storage) :
    Co.Triple Alone Anything (fun _ x => ∃ e, x = .error e) (getOrCreateDeviceIdentity P env me)
      (page storage) := by
  have hG := anything_guarantee env
  have hopen : Handled env key value (Rows stored row) none ((page storage).openPromise 0) := by
    refine ⟨h.reaches, h.legacy, ?_, rfl, ?_, rfl, h.rows⟩
    · rintro key' ⟨⟩
    · rintro - c ⟨⟩
  refine getOrCreateDeviceIdentity_alone (Handled env key value (Rows stored row))
    (fun _ _ x => ∃ e, x = .error e) hG (fun _ _ _ => trivial) rfl rfl hopen (fun _ h => h.lock)
    (fun _ h => ⟨h.reaches, h.legacy, h.cached, h.cachedIdentity, h.available, rfl, h.known⟩)
    (fun lock t ht => ?_) (fun _ _ h => h) fun _ _ h _ => h
  refine get_bind ?_
  simp only [ht.cachedIdentity]
  refine (load_triple hG handled_stable (fun t h => h.available) ht).attempt_bind hG.trans
    fun t x hx => ?_
  cases x with
  | error e => exact absurd hx.2 hworking.1.noFaults
  | ok stored' =>
      obtain ⟨ht, t₀, ht₀, rfl⟩ := hx
      simp only [ht₀.known.deviceKey]
      exact useStored_refused hworking h.opens h.refused ht

/-! ## An entry that is not adoptable -/

/-- A classified entry that is no wrapping key: bytes of a wrong length, or a handle. -/
theorem not_adoptable_cases (h : ¬ Adoptable value) :
    (∃ entry, classifyKekEntry value = some entry ∧ ∀ key, ¬ entry.Opens key) ∨
      ∃ key, value.Opens key ∧ ¬ key.Usable := by
  cases value with
  | arrayBuffer bytes => exact Or.inl ⟨.raw bytes, rfl, fun key hopens => h hopens.1⟩
  | cryptoKey key =>
      obtain ⟨hfields, hunusable⟩ := Classical.not_imp.mp h
      exact Or.inr ⟨key, ⟨.key key, if_pos hfields, rfl⟩, hunusable⟩
  | other => exact absurd trivial h
  | unreadable => exact absurd trivial h

/-- **Over an entry that is not adoptable** the call throws, or it leaves rows that are of
no use. -/
theorem getOrCreateDeviceIdentity_stranded (me : Agent) (laws : AesKwLaws P) (hworking : Working env)
    (hadoptable : ¬ Adoptable value) (hinflight : t.session.inflightIdentity = none)
    (ht : Unstarted env value none t) :
    Co.Triple Alone Anything (fun t x => (∃ e, x = .error e) ∨
        ∃ key stored row, Useless value key stored row t.storage)
      (getOrCreateDeviceIdentity P env me) t := by
  have hpersist : ∀ lock seed d t, Whole P env seed d → Unstarted env value lock t →
      Co.Triple Alone Anything
        (Post (fun _ t => ∃ key stored row, Useless value key stored row t.storage)
          fun e _ => e = .data ∧ True) (persistIdentity P env d) t := by
    intro lock seed d t hd ht
    rcases not_adoptable_cases hadoptable with ⟨entry, hclassify, hno⟩ | ⟨key, hopens, hunusable⟩
    · refine (getOrCreateWrappingKey_rejects hworking hclassify hno ht).bind
        (anything_guarantee env).trans ?_ fun t e h => ⟨h, trivial⟩
      rintro t key ⟨⟩
    · refine (persistIdentity_handled laws hworking hopens hunusable hd ht).mono fun t x hx => ?_
      cases x with
      | ok d' => exact ⟨key, hx⟩
      | error e => exact ⟨hx, trivial⟩
  refine getOrCreateDeviceIdentity_unstarted
    (fun _ t x => (∃ e, x = .error e) ∨ ∃ key stored row, Useless value key stored row t.storage)
    hinflight ht (fun lock t ht => ?_) (fun _ _ h => h) fun _ _ h _ => h
  refine (getOrCreateDeviceIdentityInner_mints _ True hworking.1 (hpersist lock) ht).mono
    fun t x hx => ?_
  cases x with
  | ok d =>
      obtain ⟨t₀, huseless, rfl⟩ := hx
      exact Or.inr huseless
  | error e => exact Or.inl ⟨e, rfl⟩

/-- **Over an entry that is not adoptable nothing persists.** -/
theorem not_persists (laws : AesKwLaws P) (hworking : Working env) (hadoptable : ¬ Adoptable value)
    (hinflight : t.session.inflightIdentity = none) (ht : Unstarted env value none t) :
    ¬ Persists P env me t := by
  intro h
  have hrefl : ∀ t, Alone t t := fun _ => rfl
  have hstranded := getOrCreateDeviceIdentity_stranded me laws hworking hadoptable hinflight ht
  obtain ⟨d, seed, hd, -, -, hlater⟩ := Outcome.Sat.run hrefl ⟨0, sampleKey 0, none, none⟩ h
  rcases Outcome.Sat.run hrefl ⟨0, sampleKey 0, none, none⟩ hstranded with
    ⟨e, he⟩ | ⟨key, stored, row, huseless⟩
  · rw [hd] at he
    cases he
  · have hloads := (hlater 1).1 me
    have hfails := getOrCreateDeviceIdentity_refused (P := P) me hworking huseless
    obtain ⟨⟨d', hd', -⟩, -⟩ := Outcome.Sat.run hrefl ⟨0, sampleKey 0, none, none⟩ hloads
    obtain ⟨e, he⟩ := Outcome.Sat.run hrefl ⟨0, sampleKey 0, none, none⟩ hfails
    rw [hd'] at he
    cases he

end

/-- **The first identity of a device persists exactly when its legacy entry is adoptable**:
when it is no entry of a wrapping key, or bytes of the length of one, or a key that wraps
and unwraps. -/
theorem legacyEntry_persists_iff {P : IdentityPrimitives} {env : Runtime} {value : StoredValue}
    {t : Tab} (laws : AesKwLaws P) (hworking : Working env)
    (hinflight : t.session.inflightIdentity = none) (ht : Unstarted env value none t) (me : Agent) :
    Persists P env me t ↔ Adoptable value := by
  constructor
  · intro h
    by_contra hadoptable
    exact not_persists laws hworking hadoptable hinflight ht h
  · intro h
    exact persists_of_adoptable laws hworking h hinflight ht

/-- A new device on which something is left under the name of the old layout. -/
def legacyPage (value : StoredValue) : Tab :=
  page { Storage.empty with legacyWrappingKey := some value }

theorem legacyPage_unstarted (env : Runtime) (value : StoredValue) :
    Unstarted env value none (legacyPage value) := by
  refine ⟨rfl, rfl, rfl, rfl, rfl, ?_, ?_, rfl⟩
  · rintro b ⟨⟩
  · rintro - c ⟨⟩

theorem legacyEntry_persists_iff_sample :
    Persists samplePrimitives (sampleRuntime true) ⟨0, 0⟩ (legacyPage .unreadable) ↔
      Adoptable .unreadable :=
  legacyEntry_persists_iff samplePrimitives_laws ⟨⟨rfl, rfl⟩, rfl, rfl⟩ rfl
    (legacyPage_unstarted _ _) ⟨0, 0⟩

/-- One byte under the legacy name: the new device gets no identity. -/
theorem legacyEntry_oneByte :
    ¬ ∀ value : StoredValue,
      Persists samplePrimitives (sampleRuntime true) ⟨0, 0⟩ (legacyPage value) := by
  intro h
  have hadoptable : ¬ Adoptable (.arrayBuffer [1]) := by
    show ¬ [1].length ∈ [16, 24, 32]
    decide
  exact not_persists samplePrimitives_laws ⟨⟨rfl, rfl⟩, rfl, rfl⟩ hadoptable rfl
    (legacyPage_unstarted _ _) (h (.arrayBuffer [1]))

example : ((getOrCreateDeviceIdentity samplePrimitives (sampleRuntime true) ⟨0, 0⟩).run
    ⟨0, sampleKey 0, none, none⟩ (legacyPage (.arrayBuffer [1]))).2 = .error .data := by
  decide +kernel

end Oxpulse.Identity
