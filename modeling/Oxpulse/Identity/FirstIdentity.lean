import Oxpulse.Identity.Keeps
import Oxpulse.Identity.KeypairSteps

/-!
# The first identity of a device

What a storage may hold while its first identity comes to be, over which the calls of
any tab can die at any request: nothing, a wrapping key, a record of the old layout
without a raw seed, or a matching pair. From each of them the inner sequence, under the
lock, returns the identity that the storage holds then, and a pair is never replaced.
-/

namespace Oxpulse.Identity

open Oxpulse.Coroutine Oxpulse.Crypto

/-- **The identity of a device**: a matching pair, under the key that a fresh session
resolves to. -/
structure IdentityAt (P : IdentityPrimitives) (key : CryptoKey) (seed : Key32)
    (stored : StoredIdentity) (storage : Storage) : Prop where
  pair : Pair P key.raw seed stored storage
  resolves : Resolves key storage

/-- The storage holds this identity. -/
def Held (P : IdentityPrimitives) (storage : Storage) (d : DeviceIdentity) : Prop :=
  ∃ key seed stored, IdentityAt P key seed stored storage ∧ IsIdentity stored.publicKeyB64 seed d

/-- No pair yet: no record at all, or one without a raw seed. -/
def Unpaired (P : IdentityPrimitives) (key : CryptoKey) (storage : Storage) : Prop :=
  storage.deviceKey = none ∨
    storage.devicePrivRaw = none ∧
      ∃ seed stored, storage.deviceKey = some stored ∧ Record P key.raw seed stored

/-- **What a storage may hold**: nothing, a wrapping key with no pair or a record of the
old layout, or a matching pair. -/
inductive StorageSound (P : IdentityPrimitives) (storage : Storage) : Prop where
  | blank : storage.deviceKey = none → storage.kek = none → NoLegacy storage →
      StorageSound P storage
  | keyed (key : CryptoKey) : Resolves key storage → Unpaired P key storage →
      StorageSound P storage
  | identity (key : CryptoKey) (seed : Key32) (stored : StoredIdentity) :
      IdentityAt P key seed stored storage → StorageSound P storage

/-- **What time does to a storage.** The key and the identity that it holds stay. -/
structure Advance (P : IdentityPrimitives) (storage storage' : Storage) : Prop where
  identity : ∀ key seed stored, IdentityAt P key seed stored storage →
    IdentityAt P key seed stored storage'
  key : ∀ key, Resolves key storage → Resolves key storage'
  sound : StorageSound P storage → StorageSound P storage'

/-- What a call lands with: an identity that the storage holds. -/
def Landing (P : IdentityPrimitives) (storage : Storage)
    (x : Except IdentityError DeviceIdentity) : Prop :=
  ∃ d, x = .ok d ∧ Held P storage d

/-- The module memory agrees with the storage. -/
structure SessionSound (P : IdentityPrimitives) (env : Runtime) (storage : Storage)
    (s : Session) : Prop where
  identity : ∀ d, s.cachedIdentity = some d → Held P storage d
  wrappingKey : ∀ key, s.cachedWrappingKey = some key → Resolves key storage
  supported : ∀ b, s.structuredCloneSupported = some b → b = env.structuredClone
  available : env.unreliable = false → ∀ c, s.idbAvailabilityCache = some c → c.failure = none
  promises : ∀ (n : ℕ) x, s.identityPromises[n]? = some (some x) → Landing P storage x

section

variable {P : IdentityPrimitives} {env : Runtime} {me : Agent} {key key' : CryptoKey}
  {seed seed' : Key32} {stored stored' : StoredIdentity} {storage storage' storage'' : Storage}
  {s : Session} {d d' : DeviceIdentity} {t t' : Tab}

/-! ## One identity -/

/-- Nothing to resolve where a first key is made. -/
theorem not_resolves (hkek : storage.kek = none) (hlegacy : NoLegacy storage) :
    ¬ Resolves key storage := by
  rintro (⟨value, hvalue, -⟩ | ⟨-, value, hvalue, entry, hclassify, -⟩)
  · rw [hkek] at hvalue
    cases hvalue
  · rw [hlegacy value hvalue] at hclassify
    cases hclassify

/-- **A storage holds one identity.** -/
theorem Held.agree (laws : AesKwLaws P) (h : Held P storage d) (h' : Held P storage d') :
    d.publicKeyB64 = d'.publicKeyB64 ∧ d.privateKeySeed = d'.privateKeySeed := by
  obtain ⟨key, seed, stored, hat, hpublic, hseed⟩ := h
  obtain ⟨key', seed', stored', hat', hpublic', hseed'⟩ := h'
  have hstored := hat.pair.deviceKey.symm.trans hat'.pair.deviceKey
  have hraw := hat.pair.devicePrivRaw.symm.trans hat'.pair.devicePrivRaw
  rw [Option.some.injEq] at hstored hraw
  rw [hat.resolves.unique hat'.resolves] at hraw
  refine ⟨?_, ?_⟩
  · rw [hpublic, hpublic', hstored]
  · rw [hseed, hseed', laws.wrap_injective hraw]

theorem Unpaired.not_pair {kek : Bytes} (h : Unpaired P key storage) :
    ¬ Pair P kek seed stored storage := by
  intro hpair
  rcases h with hnone | ⟨hnone, -⟩
  · rw [hpair.deviceKey] at hnone
    cases hnone
  · rw [hpair.devicePrivRaw] at hnone
    cases hnone

/-! ## How a storage advances -/

theorem Advance.refl : Advance P storage storage :=
  ⟨fun _ _ _ h => h, fun _ h => h, fun h => h⟩

theorem Advance.trans (h : Advance P storage storage') (h' : Advance P storage' storage'') :
    Advance P storage storage'' :=
  ⟨fun key seed stored hat => h'.identity key seed stored (h.identity key seed stored hat),
    fun key hkey => h'.key key (h.key key hkey), fun hsound => h'.sound (h.sound hsound)⟩

theorem Advance.held (h : Advance P storage storage') (hd : Held P storage d) :
    Held P storage' d := by
  obtain ⟨key, seed, stored, hat, hidentity⟩ := hd
  exact ⟨key, seed, stored, h.identity key seed stored hat, hidentity⟩

theorem Advance.landing (h : Advance P storage storage') {x : Except IdentityError DeviceIdentity}
    (hx : Landing P storage x) : Landing P storage' x := by
  obtain ⟨d, hx, hd⟩ := hx
  exact ⟨d, hx, h.held hd⟩

theorem Advance.session (h : Advance P storage storage') (hs : SessionSound P env storage s) :
    SessionSound P env storage' s :=
  ⟨fun d hd => h.held (hs.identity d hd), fun key hkey => h.key key (hs.wrappingKey key hkey),
    hs.supported, hs.available, fun n x hx => h.landing (hs.promises n x hx)⟩

/-- What leaves the two identity rows and the two KEK entries alone is an advance. -/
theorem advance_of_rows (hdevice : storage'.deviceKey = storage.deviceKey)
    (hraw : storage'.devicePrivRaw = storage.devicePrivRaw) (hkek : storage'.kek = storage.kek)
    (hlegacy : storage'.legacyWrappingKey = storage.legacyWrappingKey) :
    Advance P storage storage' := by
  have hkey : ∀ key, Resolves key storage → Resolves key storage' := by
    intro key h
    rw [Resolves, hkek, hlegacy]
    exact h
  have hidentity : ∀ key seed stored, IdentityAt P key seed stored storage →
      IdentityAt P key seed stored storage' := fun key seed stored h =>
    ⟨⟨h.pair.record, hdevice.trans h.pair.deviceKey, hraw.trans h.pair.devicePrivRaw⟩,
      hkey key h.resolves⟩
  refine ⟨hidentity, hkey, fun h => ?_⟩
  cases h with
  | blank hnone hunset hno =>
      refine .blank (hdevice.trans hnone) (hkek.trans hunset) ?_
      rw [NoLegacy, hlegacy]
      exact hno
  | keyed key hresolves hunpaired =>
      refine .keyed key (hkey key hresolves) ?_
      rw [Unpaired, hdevice, hraw]
      exact hunpaired
  | identity key seed stored hat =>
      exact .identity key seed stored (hidentity key seed stored hat)

/-- The key that resolves may be written to its database. -/
theorem advance_put {value : StoredValue} (h : Resolves key storage) (hvalue : value.Holds key) :
    Advance P storage (deviceKek.put value storage) := by
  have hput : Resolves key (deviceKek.put value storage) := Or.inl ⟨value, rfl, hvalue⟩
  have hkey : ∀ key', Resolves key' storage → Resolves key' (deviceKek.put value storage) := by
    intro key' h'
    rw [← h.unique h']
    exact hput
  have hidentity : ∀ key' seed stored, IdentityAt P key' seed stored storage →
      IdentityAt P key' seed stored (deviceKek.put value storage) := fun key' seed stored h' =>
    ⟨⟨h'.pair.record, h'.pair.deviceKey, h'.pair.devicePrivRaw⟩, hkey key' h'.resolves⟩
  refine ⟨hidentity, hkey, fun hsound => ?_⟩
  cases hsound with
  | blank hnone hunset hno => exact absurd h (not_resolves hunset hno)
  | keyed key' hresolves hunpaired => exact .keyed key' (hkey key' hresolves) hunpaired
  | identity key' seed stored hat =>
      exact .identity key' seed stored (hidentity key' seed stored hat)

/-- A first key is written where there is none. -/
theorem advance_first {value : StoredValue} (hnone : storage.deviceKey = none)
    (hkek : storage.kek = none) (hlegacy : NoLegacy storage) (hvalue : value.Holds key) :
    Advance P storage (deviceKek.put value storage) :=
  ⟨fun _ _ _ h => absurd h.resolves (not_resolves hkek hlegacy),
    fun _ h => absurd h (not_resolves hkek hlegacy),
    fun _ => .keyed key (Or.inl ⟨value, rfl, hvalue⟩) (Or.inl hnone)⟩

/-- A pair is written where there is none. -/
theorem advance_pair {wrapped : Bytes} (h : Resolves key storage) (hunpaired : Unpaired P key storage)
    (hat : IdentityAt P key seed stored (putIdentity stored wrapped storage)) :
    Advance P storage (putIdentity stored wrapped storage) :=
  ⟨fun _ _ _ h' => absurd h'.pair hunpaired.not_pair,
    fun _ h' => by rw [← h.unique h']; exact hat.resolves,
    fun _ => .identity key seed stored hat⟩

/-! ## What the holder of the lock and the others owe each other -/

/-- What the other calls do between two segments of a flight: a session that agrees with
the storage still does, and the storage is the holder's own while it has the lock. -/
structure Others (P : IdentityPrimitives) (env : Runtime) (me : Agent) (t t' : Tab) : Prop where
  advance : Advance P t.storage t'.storage
  session : SessionSound P env t.storage t.session → SessionSound P env t'.storage t'.session
  mine : t.origin.identityLock = some me → t'.origin = t.origin

/-- What a segment of a flight does. -/
structure Moves (P : IdentityPrimitives) (env : Runtime) (me : Agent) (t t' : Tab) : Prop where
  advance : Advance P t.storage t'.storage
  session : SessionSound P env t.storage t.session → SessionSound P env t'.storage t'.session
  locked : ∀ a, a ≠ me → t.origin.identityLock = some a → t'.origin = t.origin

theorem Others.refl : Others P env me t t :=
  ⟨.refl, fun hs => hs, fun _ => rfl⟩

theorem Others.trans {t'' : Tab} (h : Others P env me t t') (h' : Others P env me t' t'') :
    Others P env me t t'' := by
  refine ⟨h.advance.trans h'.advance, fun hs => h'.session (h.session hs), fun hlock => ?_⟩
  have horigin := h.mine hlock
  exact (h'.mine (by rw [horigin]; exact hlock)).trans horigin

theorem Moves.trans {t'' : Tab} (h : Moves P env me t t') (h' : Moves P env me t' t'') :
    Moves P env me t t'' := by
  refine ⟨h.advance.trans h'.advance, fun hs => h'.session (h.session hs), fun a hne hlock => ?_⟩
  have horigin := h.locked a hne hlock
  exact (h'.locked a hne (by rw [horigin]; exact hlock)).trans horigin

/-- Memory is written. -/
theorem moves_session {f : Session → Session}
    (hsound : SessionSound P env t.storage t.session →
      SessionSound P env t.storage (f t.session)) : Moves P env me t (t.withSession f) :=
  ⟨.refl, hsound, fun _ _ _ => rfl⟩

/-- The holder of the lock writes the storage. -/
theorem moves_storage {f : Storage → Storage} (hlock : t.origin.identityLock = some me)
    (hadvance : Advance P t.storage (f t.storage)) : Moves P env me t (t.withStorage f) := by
  refine ⟨hadvance, fun hs => hadvance.session hs, fun a hne h => ?_⟩
  rw [hlock, Option.some.injEq] at h
  exact absurd h.symm hne

/-- The lock is taken, or let go by its holder. -/
theorem moves_lock {lock : Option Agent}
    (hlock : t.origin.identityLock = none ∨ t.origin.identityLock = some me) :
    Moves P env me t (t.withLock lock) := by
  refine ⟨.refl, fun hs => hs, fun a hne h => ?_⟩
  rw [h] at hlock
  rcases hlock with hlock | hlock
  · cases hlock
  · cases hlock
    exact absurd rfl hne

theorem moves_guarantee (P : IdentityPrimitives) (env : Runtime) (me : Agent) :
    Guarantee env (Moves P env me) where
  refl _ := moves_session (f := fun s => s) fun hs => hs
  trans _ _ _ h h' := h.trans h'
  quiet t c hc := by
    refine moves_session fun hs => ⟨hs.identity, hs.wrappingKey, hs.supported, ?_, hs.promises⟩
    rintro hreliable c' hc'
    cases hc'
    exact hc hreliable

/-! ## Under the lock -/

/-- The flight holds the lock, and this is known of the storage. -/
structure Inside (P : IdentityPrimitives) (env : Runtime) (me : Agent) (F : Storage → Prop)
    (t : Tab) : Prop where
  lock : t.origin.identityLock = some me
  session : SessionSound P env t.storage t.session
  storage : F t.storage

variable {F F' : Storage → Prop}

theorem Inside.available (h : Inside P env me F t) : t.Available env :=
  h.session.available

theorem Inside.mono (h : Inside P env me F t) (hF : F t.storage → F' t.storage) :
    Inside P env me F' t :=
  ⟨h.lock, h.session, hF h.storage⟩

theorem inside_stable (P : IdentityPrimitives) (env : Runtime) (me : Agent) (F : Storage → Prop) :
    Stable env (Others P env me) (Inside P env me F) where
  rely := by
    intro t t' h hR
    have horigin := hR.mine h.lock
    refine ⟨horigin ▸ h.lock, hR.session h.session, ?_⟩
    rw [Tab.storage, horigin]
    exact h.storage
  quiet t c h hc :=
    ⟨h.lock, ((moves_guarantee P env me).quiet t c hc).session h.session, h.storage⟩

/-- A transaction under the lock. -/
theorem inside_storage {f : Storage → Storage} (h : Inside P env me F t)
    (hadvance : Advance P t.storage (f t.storage)) (hF : F' (f t.storage)) :
    Moves P env me t (t.withStorage f) ∧ Inside P env me F' (t.withStorage f) :=
  ⟨moves_storage h.lock hadvance, h.lock, hadvance.session h.session, hF⟩

/-- An assignment under the lock. -/
theorem inside_session {f : Session → Session} (h : Inside P env me F t)
    (hsound : SessionSound P env t.storage t.session →
      SessionSound P env t.storage (f t.session)) :
    Moves P env me t (t.withSession f) ∧ Inside P env me F (t.withSession f) :=
  ⟨moves_session hsound, h.lock, hsound h.session, h.storage⟩

theorem inside_cacheKey (h : Inside P env me F t) (hkey : Resolves key t.storage) :
    Moves P env me t (t.withSession (deviceKek.cacheKey key)) ∧
      Inside P env me F (t.withSession (deviceKek.cacheKey key)) := by
  refine inside_session h fun hs => ⟨hs.identity, ?_, hs.supported, hs.available, hs.promises⟩
  rintro key' ⟨⟩
  exact hkey

end

end Oxpulse.Identity
