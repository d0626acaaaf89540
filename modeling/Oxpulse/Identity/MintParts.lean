import Oxpulse.Foundation.Phases
import Oxpulse.Identity.KeypairSteps
import Oxpulse.Identity.Backup

/-!
# The secrets that a first call mints

The Noise keypair, the profile seed and the room-host seed are minted by the first
call that finds no row. Each of the three has a part of the tab to itself: its row, its
module variables and, but for the profile seed, a wrapping key. The part is built when
the row is there and nothing in memory differs from it.
-/

namespace Oxpulse.Identity

open Oxpulse.Coroutine Oxpulse.Crypto

inductive Secret : Type where
  | x25519Keypair | profileSeed | roomHostSeed
deriving DecidableEq, Repr

/-- What a call resolves with. -/
inductive Material : Type where
  | keypair (kp : X25519KeypairCache)
  | seed (bytes : Bytes)
deriving DecidableEq, Repr

def mint (P : IdentityPrimitives) (env : Runtime) : Secret → TabCo Material
  | .x25519Keypair => .keypair <$> getOrCreateX25519Keypair P env
  | .profileSeed => .seed <$> getOrCreateProfileSeed env
  | .roomHostSeed => .seed <$> getOrCreateRoomHostSeed env P

/-! ## The parts of a tab -/

/-- A KEK slot: its entry, the one of the old layout, and the module variables. -/
structure KekPart : Type where
  entry : Option StoredValue
  legacy : Option StoredValue
  cached : Option CryptoKey
  supported : Option Bool

/-- It resolves to `key`, and no other key is in memory. -/
structure KekPart.Ready (key : CryptoKey) (v : KekPart) : Prop where
  entry : (∃ value, v.entry = some value ∧ value.Holds key) ∨
    (v.entry = none ∧ ∃ value, v.legacy = some value ∧ value.Holds key)
  cached : ∀ key', v.cached = some key' → key' = key

/-- There is no key yet. -/
structure KekPart.Unset (env : Runtime) (v : KekPart) : Prop where
  entry : v.entry = none
  legacy : ∀ value, v.legacy = some value → classifyKekEntry value = none
  cached : v.cached = none
  supported : ∀ b, v.supported = some b → b = env.structuredClone

theorem KekPart.Ready.unique {key key' : CryptoKey} {v : KekPart} (h : v.Ready key)
    (h' : v.Ready key') : key = key' := by
  rcases h.entry with ⟨value, hvalue, hholds⟩ | ⟨hnone, value, hvalue, hholds⟩
  · rcases h'.entry with ⟨value', hvalue', hholds'⟩ | ⟨hnone, -⟩
    · rw [hvalue] at hvalue'
      cases hvalue'
      exact hholds.unique hholds'
    · rw [hvalue] at hnone
      cases hnone
  · rcases h'.entry with ⟨value', hvalue', -⟩ | ⟨-, value', hvalue', hholds'⟩
    · rw [hnone] at hvalue'
      cases hvalue'
    · rw [hvalue] at hvalue'
      cases hvalue'
      exact hholds.unique hholds'

theorem KekPart.Ready.usable {key : CryptoKey} {v : KekPart} (h : v.Ready key) : key.Usable := by
  rcases h.entry with ⟨value, -, hholds⟩ | ⟨-, value, -, hholds⟩
  · exact hholds.usable
  · exact hholds.usable

/-- Nothing is there that could differ. -/
theorem eq_of_eq_none {α : Type} {o : Option α} {a : α} (h : o = none) :
    ∀ a', o = some a' → a' = a := by
  rintro a' rfl
  cases h

/-- The steps of a lookup keep the key. -/
theorem KekPart.Ready.cacheKey {key : CryptoKey} {v : KekPart} (h : v.Ready key) :
    { v with cached := some key }.Ready key where
  entry := h.entry
  cached := by
    rintro key' ⟨⟩
    rfl

theorem KekPart.Ready.cacheProbe {key : CryptoKey} {v : KekPart} {b : Bool} (h : v.Ready key) :
    { v with supported := some b }.Ready key where
  entry := h.entry
  cached := h.cached

theorem KekPart.Ready.put {key : CryptoKey} {v : KekPart} {value : StoredValue} (h : v.Ready key)
    (hholds : value.Holds key) : { v with entry := some value }.Ready key where
  entry := Or.inl ⟨value, rfl, hholds⟩
  cached := h.cached

theorem KekPart.Unset.cacheProbe {env : Runtime} {v : KekPart} (h : v.Unset env) :
    { v with supported := some env.structuredClone }.Unset env where
  entry := h.entry
  legacy := h.legacy
  cached := h.cached
  supported := by
    rintro b ⟨⟩
    rfl

/-- A fresh key is stored. -/
theorem KekPart.Unset.put {env : Runtime} {key : CryptoKey} {v : KekPart} {value : StoredValue}
    (h : v.Unset env) (hholds : value.Holds key) : { v with entry := some value }.Ready key where
  entry := Or.inl ⟨value, rfl, hholds⟩
  cached := eq_of_eq_none h.cached

structure KeypairPart : Type where
  kek : KekPart
  row : Option StoredX25519Keypair
  cached : Option X25519KeypairCache

structure ProfilePart : Type where
  row : Option Bytes
  cached : Option Bytes

structure RoomHostPart : Type where
  kek : KekPart
  row : Option Bytes
  cached : Option Bytes

def MintPart : Secret → Type
  | .x25519Keypair => KeypairPart
  | .profileSeed => ProfilePart
  | .roomHostSeed => RoomHostPart

def mintPart : ∀ secret, Tab → MintPart secret
  | .x25519Keypair, t =>
      { kek :=
          { entry := t.storage.kek
            legacy := t.storage.legacyWrappingKey
            cached := t.session.cachedWrappingKey
            supported := t.session.structuredCloneSupported }
        row := t.storage.x25519Keypair
        cached := t.session.cachedX25519Keypair : KeypairPart }
  | .profileSeed, t => (⟨t.storage.profileSeed, t.session.cachedProfileSeed⟩ : ProfilePart)
  | .roomHostSeed, t =>
      { kek :=
          { entry := t.storage.roomHostWrappingKey
            legacy := none
            cached := t.session.roomHostCachedWrappingKey
            supported := t.session.roomHostStructuredCloneSupported }
        row := t.storage.roomHostSeed
        cached := t.session.roomHostCachedSeed : RoomHostPart }

/-! ## Minted secrets -/

structure MintedKeypair : Type where
  key : CryptoKey
  legacy : Option StoredValue
  scalar : Key32
  row : StoredX25519Keypair

structure MintedRoomHost : Type where
  key : CryptoKey
  seed : Bytes

def MintedSecret : Secret → Type
  | .x25519Keypair => MintedKeypair
  | .profileSeed => Bytes
  | .roomHostSeed => MintedRoomHost

section

variable (P : IdentityPrimitives) (env : Runtime) (calls : Prop)

structure KeypairBuilt (x : MintedKeypair) (v : KeypairPart) : Prop where
  legacy : v.kek.legacy = x.legacy
  kek : v.kek.Ready x.key
  row : v.row = some x.row
  isRow : KeypairRow P x.key.raw x.scalar x.row
  usable : Usable env x.row
  cached : ∀ kp, v.cached = some kp → kp = heldKeypair env x.row x.scalar

/-- There is a KEK and no row, or one that the runtime cannot use. -/
structure KeypairUnbuilt (key : CryptoKey) (legacy : Option StoredValue) (v : KeypairPart) :
    Prop where
  mintable : calls → Mintable env
  legacy : v.kek.legacy = legacy
  kek : v.kek.Ready key
  row : ∀ row, v.row = some row → ¬ Usable env row ∧ ∃ scalar, KeypairRow P key.raw scalar row
  cached : v.cached = none

/-- There is neither. -/
structure KeypairUnset (legacy : Option StoredValue) (v : KeypairPart) : Prop where
  mintable : calls → Mintable env
  legacy : v.kek.legacy = legacy
  kek : v.kek.Unset env
  row : v.row = none
  cached : v.cached = none

structure ProfileBuilt (seed : Bytes) (v : ProfilePart) : Prop where
  row : v.row = some seed
  cached : ∀ seed', v.cached = some seed' → seed' = seed

structure RoomHostBuilt (x : MintedRoomHost) (v : RoomHostPart) : Prop where
  kek : v.kek.Ready x.key
  row : v.row = some (P.aesKwWrap x.key.raw x.seed)
  cached : ∀ seed, v.cached = some seed → seed = x.seed

structure RoomHostUnbuilt (key : CryptoKey) (v : RoomHostPart) : Prop where
  kek : v.kek.Ready key
  row : v.row = none
  cached : v.cached = none

structure RoomHostUnset (v : RoomHostPart) : Prop where
  kek : v.kek.Unset env
  row : v.row = none
  cached : v.cached = none

def MintBuilt : ∀ secret, MintedSecret secret → MintPart secret → Prop
  | .x25519Keypair => KeypairBuilt P env
  | .profileSeed => ProfileBuilt
  | .roomHostSeed => RoomHostBuilt P

def MintFirst : ∀ secret, MintPart secret → Prop
  | .x25519Keypair => fun v =>
      ∃ legacy, KeypairUnset env calls legacy v ∨ ∃ key, KeypairUnbuilt P env calls key legacy v
  | .profileSeed => fun (v : ProfilePart) => v.row = none ∧ v.cached = none
  | .roomHostSeed => fun v => RoomHostUnset env v ∨ ∃ key, RoomHostUnbuilt key v

/-- The row is stored, and the runtime can use it. -/
def MintReady : ∀ secret, MintPart secret → Prop
  | .x25519Keypair => fun (v : KeypairPart) => ∃ row, v.row = some row ∧ Usable env row
  | .profileSeed => fun (v : ProfilePart) => v.row ≠ none
  | .roomHostSeed => fun (v : RoomHostPart) => v.row ≠ none

def mintedMaterial : ∀ secret, MintedSecret secret → Material
  | .x25519Keypair, (x : MintedKeypair) => .keypair (heldKeypair env x.row x.scalar)
  | .profileSeed, (seed : Bytes) => .seed seed
  | .roomHostSeed, (x : MintedRoomHost) => .seed x.seed

end

section

variable {P : IdentityPrimitives} {env : Runtime} {calls : Prop}

theorem mintFirst_not_ready : ∀ secret (v : MintPart secret), MintFirst P env calls secret v →
    ¬ MintReady env secret v
  | .x25519Keypair, v, h => by
      rintro ⟨row, hrow, husable⟩
      obtain ⟨legacy, h | ⟨key, h⟩⟩ := h
      · rw [h.row] at hrow
        cases hrow
      · exact (h.row row hrow).1 husable
  | .profileSeed, v, h => fun hrow => hrow h.1
  | .roomHostSeed, v, h => by
      intro hrow
      rcases h with h | ⟨key, h⟩
      · exact hrow h.row
      · exact hrow h.row

theorem mintBuilt_ready : ∀ secret (x : MintedSecret secret) (v : MintPart secret),
    MintBuilt P env secret x v → MintReady env secret v
  | .x25519Keypair, x, v, (h : KeypairBuilt P env x v) => ⟨_, h.row, h.usable⟩
  | .profileSeed, x, v, (h : ProfileBuilt x v) => fun hnone => by
      rw [h.row] at hnone
      cases hnone
  | .roomHostSeed, x, v, (h : RoomHostBuilt P x v) => fun hnone => by
      rw [h.row] at hnone
      cases hnone

theorem mintBuilt_unique (laws : AesKwLaws P) :
    ∀ secret (x y : MintedSecret secret) (v : MintPart secret),
      MintBuilt P env secret x v → MintBuilt P env secret y v → x = y
  | .x25519Keypair, ⟨key, legacy, scalar, row⟩, ⟨key', legacy', scalar', row'⟩, v,
      (h : KeypairBuilt P env _ v), (h' : KeypairBuilt P env _ v) => by
      obtain rfl : legacy = legacy' := h.legacy.symm.trans h'.legacy
      obtain rfl : key = key' := h.kek.unique h'.kek
      obtain rfl : row = row' := Option.some.inj (h.row.symm.trans h'.row)
      obtain rfl : scalar = scalar' := h.isRow.unique laws h'.isRow
      rfl
  | .profileSeed, x, y, v, (h : ProfileBuilt x v), (h' : ProfileBuilt y v) =>
      Option.some.inj (h.row.symm.trans h'.row)
  | .roomHostSeed, ⟨key, seed⟩, ⟨key', seed'⟩, v, (h : RoomHostBuilt P _ v),
      (h' : RoomHostBuilt P _ v) => by
      obtain rfl : key = key' := h.kek.unique h'.kek
      obtain rfl : seed = seed' :=
        laws.wrap_injective (Option.some.inj (h.row.symm.trans h'.row))
      rfl

/-- **The three secrets as parts of a tab.** -/
def mintParts (laws : AesKwLaws P) (env : Runtime) (calls : Prop) :
    Parts Secret MintPart MintedSecret Tab Material where
  part := mintPart
  built := MintBuilt P env
  first := MintFirst P env calls
  ready := MintReady env
  value := mintedMaterial env
  inv := Tab.Available env
  not_ready := mintFirst_not_ready
  ready_of_built := mintBuilt_ready
  unique := mintBuilt_unique laws

theorem mintPart_withAvailability (secret : Secret) (t : Tab) (c : AvailabilityCache) :
    mintPart secret (t.withAvailability c) = mintPart secret t := by
  cases secret <;> rfl

/-- What a call knows: no failure is remembered, and its part is as described. -/
structure Knows (env : Runtime) (secret : Secret) (F : MintPart secret → Prop) (t : Tab) :
    Prop where
  available : t.Available env
  part : F (mintPart secret t)

/-- The triple of a call that is one of many. -/
abbrev MintTriple (laws : AesKwLaws P) (env : Runtime) (calls : Prop) (secret : Secret) {α : Type}
    (ok : α → Tab → Prop) (co : TabCo α) (t : Tab) : Prop :=
  Co.Triple ((mintParts laws env calls).Rely secret) ((mintParts laws env calls).Gives secret)
    (Post ok fun _ _ => False) co t

/-- The call has the material of the part that is built. -/
def Has (P : IdentityPrimitives) (env : Runtime) (secret : Secret) {α : Type} (f : α → Material)
    (a : α) (t : Tab) : Prop :=
  ∃ x, Knows env secret (MintBuilt P env secret x) t ∧ f a = mintedMaterial env secret x

variable {secret : Secret} {t : Tab}

theorem mintParts_guarantee (laws : AesKwLaws P) (env : Runtime) (calls : Prop) (secret : Secret) :
    Guarantee env ((mintParts laws env calls).Gives secret) where
  refl _ := .refl
  trans _ _ _ h h' := h.trans h'
  quiet t c hc :=
    .of_same (fun _ => Tab.Available.quiet hc) fun d => mintPart_withAvailability d t c

/-- Others keep a part that is built. -/
theorem built_stable (laws : AesKwLaws P) (secret : Secret) (x : MintedSecret secret) :
    Stable env ((mintParts laws env calls).Rely secret)
      (Knows env secret (MintBuilt P env secret x)) where
  rely t t' h hR := ⟨hR.inv h.1, hR.keeps x h.2⟩
  quiet t c h hc := ⟨Tab.Available.quiet hc, by rw [mintPart_withAvailability]; exact h.2⟩

/-- Others do not touch a part that is not ready. -/
theorem first_stable (laws : AesKwLaws P) {F : MintPart secret → Prop}
    (hF : ∀ v, F v → ¬ MintReady env secret v) :
    Stable env ((mintParts laws env calls).Rely secret) (Knows env secret F) where
  rely t t' h hR := by
    have hsame : mintPart secret t' = mintPart secret t :=
      hR.alone (Parts.not_built_of_first (hF _ h.2))
    exact ⟨hR.inv h.1, by rw [hsame]; exact h.2⟩
  quiet t c h hc := ⟨Tab.Available.quiet hc, by rw [mintPart_withAvailability]; exact h.2⟩

theorem mint_yields (laws : AesKwLaws P) {α : Type} {co : TabCo α} {f : α → Material}
    (h : MintTriple laws env calls secret (Has P env secret f) co t) :
    Co.Triple ((mintParts laws env calls).Rely secret) ((mintParts laws env calls).Gives secret)
      ((mintParts laws env calls).Yielded secret) (f <$> co) t := by
  rw [map_eq_pure_bind]
  refine h.bind (mintParts_guarantee laws env calls secret).trans ?_ ?_
  · rintro t a ⟨x, ht, hvalue⟩
    exact Co.Triple.value (mintParts_guarantee laws env calls secret).refl
      ⟨ht.available, x, ht.part, congrArg _ hvalue⟩
  · rintro t e ⟨⟩

/-- A step of a call before its part is built, or the one that builds it. -/
theorem Knows.first {F F' : MintPart secret → Prop} {t t' : Tab} (laws : AesKwLaws P)
    (ht : Knows env secret F t) (hF : ∀ v, F v → ¬ MintReady env secret v)
    (havailable : t.Available env → t'.Available env) (hF' : F' (mintPart secret t'))
    (hready : ∀ v, F' v → MintReady env secret v → ∃ x, MintBuilt P env secret x v)
    (hothers : ∀ d, d ≠ secret → mintPart d t' = mintPart d t := by
      rintro ⟨⟩ hd <;> first | rfl | exact absurd rfl hd) :
    (mintParts laws env calls).Gives secret t t' ∧ Knows env secret F' t' :=
  ⟨.of_first havailable (hF _ ht.part) (hready _ hF') hothers, havailable ht.available, hF'⟩

/-- A step of a call that keeps its part. -/
theorem Knows.built {x : MintedSecret secret} {t t' : Tab} (laws : AesKwLaws P)
    (ht : Knows env secret (MintBuilt P env secret x) t)
    (havailable : t.Available env → t'.Available env)
    (hbuilt : MintBuilt P env secret x (mintPart secret t'))
    (hothers : ∀ d, d ≠ secret → mintPart d t' = mintPart d t := by
      rintro ⟨⟩ hd <;> first | rfl | exact absurd rfl hd) :
    (mintParts laws env calls).Gives secret t t' ∧ Knows env secret (MintBuilt P env secret x) t' :=
  ⟨.of_built havailable ht.part hbuilt hothers, havailable ht.available, hbuilt⟩

end

end Oxpulse.Identity
