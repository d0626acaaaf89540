import Oxpulse.Identity.KeySteps

/-!
# How a wrapping key is resolved

Four things can happen to a call that needs a KEK. The stored entry holds one and
the call yields it; an entry of the old layout holds one and is adopted; there is
none and a fresh one is saved before it is used; or the entry is of no use and the
call fails. The triples say which, from what the call knows of the two entries.
-/

namespace Oxpulse.Identity

open Oxpulse.Coroutine Oxpulse.Crypto

section

variable {env : Runtime} {R G : Tab → Tab → Prop} {J : Tab → Prop} {t : Tab} {α : Type}
  {slot : KekSlot}

/-! ## The module variables -/

theorem remembered_triple {cached : Session → Option α} {cache : α → Session → Session}
    {compute : TabCo α} {Q : Tab → Except IdentityError α → Prop} (hG : Guarantee env G)
    (hcached : ∀ a, cached t.session = some a → Q t (.ok a))
    (hcompute : cached t.session = none → Co.Triple R G
      (Post (fun a t => G t (t.withSession (cache a)) ∧ Q (t.withSession (cache a)) (.ok a))
        fun e t => Q t (.error e)) compute t) :
    Co.Triple R G Q (remembered cached cache compute) t := by
  refine get_bind ?_
  cases hvalue : cached t.session with
  | some a => exact Co.Triple.value hG.refl (hcached a hvalue)
  | none =>
      refine (hcompute hvalue).bind hG.trans ?_ ?_
      · rintro t a ⟨hGt, hQ⟩
        exact modify_bind hG hGt (Co.Triple.value hG.refl hQ)
      · intro t e h
        exact h

theorem probeStructuredClone_triple {B : Bool → Prop} (hG : Guarantee env G)
    (hJ : ∀ t t', J t → R t t' → J t')
    (hprobe : ∀ t, J t → G t (t.withSession (slot.cacheProbe env.structuredClone)) ∧
      J (t.withSession (slot.cacheProbe env.structuredClone)))
    (hknown : ∀ t b, J t → slot.structuredCloneSupported t.session = some b → B b)
    (henv : B env.structuredClone) (ht : J t) :
    Co.Triple R G (Post (fun b t => J t ∧ B b) fun _ _ => False)
      (probeStructuredClone env slot) t := by
  refine get_bind ?_
  cases hvalue : slot.structuredCloneSupported t.session with
  | some b => exact Co.Triple.value hG.refl ⟨ht, hknown t b ht hvalue⟩
  | none =>
      refine suspend_bind hG hJ ht fun r t ht => ?_
      exact modify_bind hG (hprobe t ht).1 (Co.Triple.value hG.refl ⟨(hprobe t ht).2, henv⟩)

/-! ## A stored key -/

/-- The call finds this key: the entry holds it, or there is none and it is adopted. -/
def Finds (env : Runtime) (R G : Tab → Tab → Prop) (J : Tab → Prop) (slot : KekSlot)
    (adopt : Bool → TabCo (Option CryptoKey)) (key : CryptoKey) (storage : Storage) : Prop :=
  (∃ value, slot.entry storage = some value ∧ value.Opens key) ∨
    slot.entry storage = none ∧ ∀ canClone t, J t → Co.Triple R G
      (Post (fun adopted t => J t ∧ adopted = some key) fun _ _ => False) (adopt canClone) t

/-- **The stored key is found**, or the one that is adopted. -/
theorem findWrappingKey_finds {adopt : Bool → TabCo (Option CryptoKey)} {key : CryptoKey}
    (hG : Guarantee env G) (hJ : Stable env R J) (havailable : ∀ t, J t → t.Available env)
    (hdb : Healthy env slot.db) (hentry : ∀ t, J t → Finds env R G J slot adopt key t.storage)
    (canClone : Bool) (ht : J t) :
    Co.Triple R G (Post (fun key' t => J t ∧ key' = key) fun _ _ => False)
      (findWrappingKey env slot adopt canClone) t := by
  refine (loadKey_triple hG hJ havailable ht).bind hG.trans ?_ ?_
  · rintro t existing ⟨ht, -, t₀, ht₀, rfl⟩
    rcases hentry t₀ ht₀ with ⟨value, hvalue, entry, hclassify, hopens⟩ | ⟨hnone, hadopt⟩
    · simp only [hvalue, hclassify]
      refine (handle_evaluates.triple hG hJ.rely ht).mono ?_
      rintro t x ⟨ht, ⟨key', rfl, hkey'⟩ | ⟨rfl, hnone⟩⟩
      · exact ⟨ht, hkey'.unique hopens⟩
      · exact hnone key hopens
    · simp only [hnone]
      refine (hadopt canClone t ht).bind hG.trans ?_ ?_
      · rintro t adopted ⟨ht, rfl⟩
        exact Co.Triple.value hG.refl ⟨ht, rfl⟩
      · rintro t e ⟨⟩
  · rintro t e ⟨-, hfault | ⟨-, t₀, ht₀, hunreadable⟩⟩
    · exact hdb.noFaults hfault
    · rcases hentry t₀ ht₀ with ⟨value, hvalue, hopens⟩ | ⟨hnone, -⟩
      · rw [hvalue] at hunreadable
        cases hunreadable
        exact hopens.readable rfl
      · rw [hnone] at hunreadable
        cases hunreadable

/-- **A resolved key.** When the call finds a key and no other one is cached, it
yields this one. -/
theorem resolveWrappingKey_finds {adopt : Bool → TabCo (Option CryptoKey)} {key : CryptoKey}
    (hG : Guarantee env G) (hJ : Stable env R J) (havailable : ∀ t, J t → t.Available env)
    (hdb : Healthy env slot.db) (hentry : ∀ t, J t → Finds env R G J slot adopt key t.storage)
    (hcached : ∀ t key', J t → slot.cachedWrappingKey t.session = some key' → key' = key)
    (hprobe : ∀ t, J t → G t (t.withSession (slot.cacheProbe env.structuredClone)) ∧
      J (t.withSession (slot.cacheProbe env.structuredClone)))
    (hcache : ∀ t, J t → G t (t.withSession (slot.cacheKey key)) ∧
      J (t.withSession (slot.cacheKey key)))
    (ht : J t) :
    Co.Triple R G (Post (fun key' t => J t ∧ key' = key) fun _ _ => False)
      (resolveWrappingKey env slot adopt) t := by
  refine remembered_triple hG (fun key' hkey' => ⟨ht, hcached t key' ht hkey'⟩) fun _ => ?_
  refine (probeStructuredClone_triple (B := fun _ => True) hG hJ.rely hprobe
    (fun _ _ _ _ => trivial) trivial ht).bind hG.trans ?_ ?_
  · rintro t canClone ⟨ht, -⟩
    refine (findWrappingKey_finds hG hJ havailable hdb hentry canClone ht).mono ?_
    intro t x hx
    cases x with
    | ok key' =>
        obtain ⟨ht, rfl⟩ := hx
        exact ⟨(hcache t ht).1, (hcache t ht).2, rfl⟩
    | error e => exact hx
  · rintro t e ⟨⟩

/-! ## An adopted key -/

/-- A save that may fail is survivable. -/
theorem copyForward_triple {entry : KekEntry} {canClone : Bool} (hG : Guarantee env G)
    (hJ : Stable env R J) (havailable : ∀ t, J t → t.Available env)
    (hput : ∀ t, J t → G t (t.withStorage (deviceKek.put entry.stored)) ∧
      J (t.withStorage (deviceKek.put entry.stored))) (ht : J t) :
    Co.Triple R G (fun t _ => J t) (copyForward env entry canClone) t := by
  have hsave : Co.Triple R G (fun t (_ : Except IdentityError Unit) => J t)
      (saveKek env deviceKek entry.stored) t := by
    refine (saveKek_triple hG hJ havailable hJ.rely hput ht).mono fun t x hx => ?_
    cases x with
    | ok _ => exact hx
    | error e => exact hx.1
  cases entry with
  | raw bytes => exact hsave
  | key handle =>
      cases canClone with
      | true => exact hsave
      | false => exact Co.Triple.value hG.refl ht

/-- **The key of the old layout is adopted**, and its entry may be copied. -/
theorem adoptLegacyWrappingKey_triple {canClone : Bool} {key : CryptoKey} {entry : KekEntry}
    (hG : Guarantee env G) (hJ : Stable env R J) (havailable : ∀ t, J t → t.Available env)
    (hdb : Healthy env .identity)
    (hentry : ∀ t, J t → t.storage.legacyWrappingKey = some entry.stored)
    (hclassify : classifyKekEntry entry.stored = some entry) (hopens : entry.Opens key)
    (hput : ∀ t, J t → G t (t.withStorage (deviceKek.put entry.stored)) ∧
      J (t.withStorage (deviceKek.put entry.stored))) (ht : J t) :
    Co.Triple R G (Post (fun key' t => J t ∧ key' = some key) fun _ _ => False)
      (adoptLegacyWrappingKey env canClone) t := by
  refine (loadKey_triple hG hJ havailable ht).attempt_bind hG.trans fun t x hx => ?_
  cases x with
  | error e =>
      obtain ⟨-, hfault | ⟨-, t₀, ht₀, hunreadable⟩⟩ := hx
      · exact absurd hfault hdb.noFaults
      · rw [hentry t₀ ht₀] at hunreadable
        rw [Option.some.injEq] at hunreadable
        rw [hunreadable] at hclassify
        cases hclassify
  | ok legacy =>
      obtain ⟨ht, -, t₀, ht₀, rfl⟩ := hx
      simp only [hentry t₀ ht₀, hclassify]
      refine handle_evaluates.bind_triple hG hJ.rely ht ?_ ?_
      · rintro key' t (⟨key'', h, hkey'⟩ | ⟨h, -⟩) ht
        · cases h
          refine (copyForward_triple hG hJ havailable hput ht).attempt_bind hG.trans
            fun t _ ht => ?_
          exact Co.Triple.value hG.refl ⟨ht, congrArg some (hkey'.unique hopens)⟩
        · cases h
      · rintro e t (⟨key', h, -⟩ | ⟨-, hnone⟩) ht
        · cases h
        · exact hnone key hopens

/-- The handle that a fresh session reaches: the KEK database has it, or is empty while
the old layout does. -/
def Reaches (key : CryptoKey) (storage : Storage) : Prop :=
  (∃ value, storage.kek = some value ∧ value.Opens key) ∨
    (storage.kek = none ∧ ∃ value, storage.legacyWrappingKey = some value ∧ value.Opens key)

/-- The wrapping key that a fresh session resolves to: the KEK database holds it, or
is empty while the old layout does. -/
def Resolves (key : CryptoKey) (storage : Storage) : Prop :=
  (∃ value, storage.kek = some value ∧ value.Holds key) ∨
    (storage.kek = none ∧ ∃ value, storage.legacyWrappingKey = some value ∧ value.Holds key)

theorem Resolves.usable {key : CryptoKey} {storage : Storage} (h : Resolves key storage) :
    key.Usable := by
  rcases h with ⟨value, -, hholds⟩ | ⟨-, value, -, hholds⟩
  · exact hholds.usable
  · exact hholds.usable

theorem Resolves.reaches {key : CryptoKey} {storage : Storage} (h : Resolves key storage) :
    Reaches key storage := by
  rcases h with ⟨value, hvalue, hholds⟩ | ⟨hnone, value, hvalue, hholds⟩
  · exact Or.inl ⟨value, hvalue, hholds.opens⟩
  · exact Or.inr ⟨hnone, value, hvalue, hholds.opens⟩

/-- A storage resolves to one key. -/
theorem Resolves.unique {key key' : CryptoKey} {storage : Storage} (h : Resolves key storage)
    (h' : Resolves key' storage) : key = key' := by
  rcases h with ⟨value, hvalue, hholds⟩ | ⟨hnone, value, hvalue, hholds⟩
  · rcases h' with ⟨value', hvalue', hholds'⟩ | ⟨hnone', -⟩
    · rw [hvalue, Option.some.injEq] at hvalue'
      subst hvalue'
      exact hholds.unique hholds'
    · rw [hvalue] at hnone'
      cases hnone'
  · rcases h' with ⟨value', hvalue', -⟩ | ⟨-, value', hvalue', hholds'⟩
    · rw [hnone] at hvalue'
      cases hvalue'
    · rw [hvalue, Option.some.injEq] at hvalue'
      subst hvalue'
      exact hholds.unique hholds'

/-- **The handle of the device is reached**, in the KEK database or in the old layout. -/
theorem getOrCreateWrappingKey_reaches {key : CryptoKey} {legacy : Option StoredValue}
    (hG : Guarantee env G) (hJ : Stable env R J) (havailable : ∀ t, J t → t.Available env)
    (hdb : Healthy env .identity) (hkek : Healthy env .kek)
    (hentry : ∀ t, J t → t.storage.legacyWrappingKey = legacy ∧ Reaches key t.storage)
    (hcached : ∀ t key', J t → t.session.cachedWrappingKey = some key' → key' = key)
    (hput : ∀ t value, J t → value.Opens key → G t (t.withStorage (deviceKek.put value)) ∧
      J (t.withStorage (deviceKek.put value)))
    (hprobe : ∀ t, J t → G t (t.withSession (deviceKek.cacheProbe env.structuredClone)) ∧
      J (t.withSession (deviceKek.cacheProbe env.structuredClone)))
    (hcache : ∀ t, J t → G t (t.withSession (deviceKek.cacheKey key)) ∧
      J (t.withSession (deviceKek.cacheKey key)))
    (ht : J t) :
    Co.Triple R G (Post (fun key' t => J t ∧ key' = key) fun _ _ => False)
      (getOrCreateWrappingKey env) t := by
  refine resolveWrappingKey_finds hG hJ havailable hkek (fun t ht => ?_) hcached hprobe hcache ht
  rcases (hentry t ht).2 with hstored | ⟨hnone, value, hlegacy, hopens⟩
  · exact Or.inl hstored
  · rw [(hentry t ht).1] at hlegacy
    have hold : ∀ t, J t → t.storage.legacyWrappingKey = some value :=
      fun t ht => (hentry t ht).1.trans hlegacy
    have hput' := fun t (ht : J t) => hput t value ht hopens
    obtain ⟨entry, hclassify, hopens⟩ := hopens
    obtain rfl := classifyKekEntry_stored hclassify
    exact Or.inr ⟨hnone, fun canClone t ht =>
      adoptLegacyWrappingKey_triple hG hJ havailable hdb hold hclassify hopens hput' ht⟩

/-- **The key of the device is resolved**, from the KEK database or from the old layout. -/
theorem getOrCreateWrappingKey_resolves {key : CryptoKey} {legacy : Option StoredValue}
    (hG : Guarantee env G) (hJ : Stable env R J) (havailable : ∀ t, J t → t.Available env)
    (hdb : Healthy env .identity) (hkek : Healthy env .kek)
    (hentry : ∀ t, J t → t.storage.legacyWrappingKey = legacy ∧ Resolves key t.storage)
    (hcached : ∀ t key', J t → t.session.cachedWrappingKey = some key' → key' = key)
    (hput : ∀ t value, J t → value.Holds key → G t (t.withStorage (deviceKek.put value)) ∧
      J (t.withStorage (deviceKek.put value)))
    (hprobe : ∀ t, J t → G t (t.withSession (deviceKek.cacheProbe env.structuredClone)) ∧
      J (t.withSession (deviceKek.cacheProbe env.structuredClone)))
    (hcache : ∀ t, J t → G t (t.withSession (deviceKek.cacheKey key)) ∧
      J (t.withSession (deviceKek.cacheKey key)))
    (ht : J t) :
    Co.Triple R G (Post (fun key' t => J t ∧ key' = key) fun _ _ => False)
      (getOrCreateWrappingKey env) t :=
  getOrCreateWrappingKey_reaches hG hJ havailable hdb hkek
    (fun t ht => ⟨(hentry t ht).1, (hentry t ht).2.reaches⟩) hcached
    (fun t value ht hopens => hput t value ht (hopens.holds (hentry t ht).2.usable)) hprobe hcache ht

/-! ## A fresh key -/

theorem generateWrappingKey_mints {J' : CryptoKey → Tab → Prop} (hG : Guarantee env G)
    (hJ : Stable env R J) (havailable : ∀ t, J t → t.Available env)
    (hJ' : ∀ key t t', J' key t → R t t' → J' key t')
    (hput : ∀ t value key, J t → value.Holds key →
      G t (t.withStorage (slot.put value)) ∧ J' key (t.withStorage (slot.put value)))
    (ht : J t) :
    Co.Triple R G (Post J' fun e t => J t ∧ Faults env slot.db e)
      (generateWrappingKey env slot env.structuredClone) t := by
  unfold generateWrappingKey
  cases hclone : env.structuredClone with
  | true =>
      refine generateAesKwKey_evaluates.bind_triple hG hJ.rely ht ?_ ?_
      · rintro kek t ⟨raw, hkek⟩ ht
        cases hkek
        refine (saveKek_triple hG hJ havailable (hJ' _)
          (fun t ht => hput t _ _ ht (holds_generated raw).2) ht).bind hG.trans ?_ ?_
        · intro t _ ht
          exact Co.Triple.value hG.refl ht
        · rintro t e ⟨ht, hfault | ⟨-, hfalse⟩⟩
          · exact ⟨ht, hfault⟩
          · rw [hclone] at hfalse
            cases hfalse
      · rintro e t ⟨_, ⟨⟩⟩
  | false =>
      refine generateAesKwKey_evaluates.bind_triple hG hJ.rely ht ?_ ?_
      · rintro kek t ⟨raw, hkek⟩ ht
        cases hkek
        refine suspend_bind hG hJ.rely ht fun _ t ht => ?_
        refine (saveKek_triple hG hJ havailable (hJ' _)
          (fun t ht => hput t _ _ ht (holds_generated raw).1) ht).bind hG.trans ?_ ?_
        · intro t _ ht
          refine (importAesKwRaw_evaluates.triple hG (hJ' _) ht).mono ?_
          rintro t x ⟨ht, rfl⟩
          have hlength : raw.bytes.length ∈ [16, 24, 32] := by
            rw [raw.size]
            decide
          rw [show (aesKwKey true raw.bytes).raw = raw.bytes from rfl, if_pos hlength]
          exact ht
        · rintro t e ⟨ht, hfault | ⟨hkey, -⟩⟩
          · exact ⟨ht, hfault⟩
          · cases hkey
      · rintro e t ⟨_, ⟨⟩⟩

/-- **A resolved key, minted.** Nothing is stored, nothing is adopted, and the fresh
key is saved before it is used. -/
theorem resolveWrappingKey_minted {adopt : Bool → TabCo (Option CryptoKey)}
    {J' : CryptoKey → Tab → Prop} (hG : Guarantee env G) (hJ : Stable env R J)
    (havailable : ∀ t, J t → t.Available env) (hdb : Healthy env slot.db)
    (hJ' : ∀ key t t', J' key t → R t t' → J' key t')
    (hnone : ∀ t, J t → slot.entry t.storage = none)
    (hcached : ∀ t, J t → slot.cachedWrappingKey t.session = none)
    (hsupported : ∀ t b, J t → slot.structuredCloneSupported t.session = some b →
      b = env.structuredClone)
    (hadopt : ∀ t, J t → Co.Triple R G (Post (fun a t => J t ∧ a = none) fun _ _ => False)
      (adopt env.structuredClone) t)
    (hprobe : ∀ t, J t → G t (t.withSession (slot.cacheProbe env.structuredClone)) ∧
      J (t.withSession (slot.cacheProbe env.structuredClone)))
    (hput : ∀ t value key, J t → value.Holds key →
      G t (t.withStorage (slot.put value)) ∧ J' key (t.withStorage (slot.put value)))
    (hcache : ∀ t key, J' key t → G t (t.withSession (slot.cacheKey key)) ∧
      J' key (t.withSession (slot.cacheKey key)))
    (ht : J t) :
    Co.Triple R G (Post J' fun _ _ => False) (resolveWrappingKey env slot adopt) t := by
  refine remembered_triple hG (fun key' hkey' => ?_) fun _ => ?_
  · rw [hcached t ht] at hkey'
    cases hkey'
  refine (probeStructuredClone_triple hG hJ.rely hprobe hsupported rfl ht).bind hG.trans ?_ ?_
  · rintro t canClone ⟨ht, rfl⟩
    have hfind : Co.Triple R G (Post J' fun _ _ => False)
        (findWrappingKey env slot adopt env.structuredClone) t := by
      refine (loadKey_triple hG hJ havailable ht).bind hG.trans ?_ ?_
      · rintro t existing ⟨ht, -, t₀, ht₀, rfl⟩
        simp only [hnone t₀ ht₀]
        refine (hadopt t ht).bind hG.trans ?_ ?_
        · rintro t a ⟨ht, rfl⟩
          refine (generateWrappingKey_mints hG hJ havailable hJ' hput ht).mono fun t x hx => ?_
          cases x with
          | ok key => exact hx
          | error e => exact absurd hx.2 hdb.noFaults
        · rintro t e ⟨⟩
      · rintro t e ⟨-, hfault | ⟨-, t₀, ht₀, hunreadable⟩⟩
        · exact hdb.noFaults hfault
        · rw [hnone t₀ ht₀] at hunreadable
          cases hunreadable
    refine hfind.mono fun t x hx => ?_
    cases x with
    | ok key' => exact hcache t key' hx
    | error e => exact hx
  · rintro t e ⟨⟩

/-- Nothing to adopt: no entry of the old layout, or one of neither shape. -/
def NoLegacy (storage : Storage) : Prop :=
  ∀ value, storage.legacyWrappingKey = some value → classifyKekEntry value = none

theorem adoptLegacyWrappingKey_none {canClone : Bool} (hG : Guarantee env G) (hJ : Stable env R J)
    (havailable : ∀ t, J t → t.Available env) (hnone : ∀ t, J t → NoLegacy t.storage) (ht : J t) :
    Co.Triple R G (Post (fun a t => J t ∧ a = none) fun _ _ => False)
      (adoptLegacyWrappingKey env canClone) t := by
  refine (loadKey_triple hG hJ havailable ht).attempt_bind hG.trans fun t x hx => ?_
  cases x with
  | error e => exact Co.Triple.value hG.refl ⟨hx.1, rfl⟩
  | ok legacy =>
      obtain ⟨ht, -, t₀, ht₀, rfl⟩ := hx
      cases hlegacy : t₀.storage.legacyWrappingKey with
      | none => exact Co.Triple.value hG.refl ⟨ht, rfl⟩
      | some value =>
          simp only [hnone t₀ ht₀ value hlegacy]
          exact Co.Triple.value hG.refl ⟨ht, rfl⟩

/-! ## Whatever is resolved -/

theorem generateWrappingKey_keeps {canClone : Bool} (hG : Guarantee env G) (hJ : Stable env R J)
    (havailable : ∀ t, J t → t.Available env)
    (hput : ∀ t value, J t → G t (t.withStorage (slot.put value)) ∧
      J (t.withStorage (slot.put value))) (ht : J t) :
    Co.Triple R G (fun t _ => J t) (generateWrappingKey env slot canClone) t := by
  have hsave : ∀ value t, J t → Co.Triple R G (Post (fun _ => J) fun _ => J)
      (saveKek env slot value) t := by
    intro value t ht
    refine (saveKek_triple hG hJ havailable hJ.rely (fun t ht => hput t value ht) ht).mono ?_
    intro t x hx
    cases x with
    | ok _ => exact hx
    | error e => exact hx.1
  cases canClone with
  | true =>
      refine generateAesKwKey_evaluates.bind_triple hG hJ.rely ht ?_ fun _ _ _ ht => ht
      rintro kek t - ht
      exact (hsave _ t ht).bind hG.trans (fun t _ ht => Co.Triple.value hG.refl ht)
        fun t _ ht => ht
  | false =>
      refine generateAesKwKey_evaluates.bind_triple hG hJ.rely ht ?_ fun _ _ _ ht => ht
      rintro kek t - ht
      refine suspend_bind hG hJ.rely ht fun _ t ht => ?_
      refine (hsave _ t ht).bind hG.trans (fun t _ ht => ?_) fun t _ ht => ht
      exact (importAesKwRaw_evaluates.triple hG hJ.rely ht).mono fun _ _ h => h.1

/-- **Only the KEK is written.** Whatever the call ends in, it keeps what does not
depend on the entry, the cached key and the probe. -/
theorem getOrCreateWrappingKey_keeps (hG : Guarantee env G) (hJ : Stable env R J)
    (havailable : ∀ t, J t → t.Available env)
    (hput : ∀ t value, J t → G t (t.withStorage (deviceKek.put value)) ∧
      J (t.withStorage (deviceKek.put value)))
    (hprobe : ∀ t b, J t → G t (t.withSession (deviceKek.cacheProbe b)) ∧
      J (t.withSession (deviceKek.cacheProbe b)))
    (hcache : ∀ t key, J t → G t (t.withSession (deviceKek.cacheKey key)) ∧
      J (t.withSession (deviceKek.cacheKey key)))
    (ht : J t) :
    Co.Triple R G (fun t _ => J t) (getOrCreateWrappingKey env) t := by
  have hhandle : ∀ (entry : KekEntry) t, J t →
      Co.Triple R G (fun t (_ : Except IdentityError CryptoKey) => J t) entry.handle t :=
    fun entry t ht => (handle_evaluates.triple hG hJ.rely ht).mono fun _ _ h => h.1
  have hadopt : ∀ canClone t, J t → Co.Triple R G
      (fun t (_ : Except IdentityError (Option CryptoKey)) => J t)
      (adoptLegacyWrappingKey env canClone) t := by
    intro canClone t ht
    refine (loadKey_triple hG hJ havailable ht).attempt_bind hG.trans fun t x hx => ?_
    cases x with
    | error e => exact Co.Triple.value hG.refl hx.1
    | ok legacy =>
        obtain ⟨ht, -⟩ := hx
        cases legacy with
        | none => exact Co.Triple.value hG.refl ht
        | some legacy =>
            cases hclassify : classifyKekEntry legacy with
            | none =>
                simp only [hclassify]
                exact Co.Triple.value hG.refl ht
            | some entry =>
                simp only [hclassify]
                refine (hhandle entry t ht).bind hG.trans (fun t _ ht => ?_) fun _ _ ht => ht
                refine (copyForward_triple hG hJ havailable (fun t ht => hput t _ ht)
                  ht).attempt_bind hG.trans fun t _ ht => ?_
                exact Co.Triple.value hG.refl ht
  have hfind : ∀ canClone t, J t → Co.Triple R G
      (fun t (_ : Except IdentityError CryptoKey) => J t)
      (findWrappingKey env deviceKek (adoptLegacyWrappingKey env) canClone) t := by
    intro canClone t ht
    refine (loadKey_triple hG hJ havailable ht).bind hG.trans ?_ fun _ _ h => h.1
    rintro t existing ⟨ht, -⟩
    cases existing with
    | some existing =>
        cases hclassify : classifyKekEntry existing with
        | some entry =>
            simp only [hclassify]
            exact hhandle entry t ht
        | none =>
            simp only [hclassify]
            exact Co.Triple.raise hG.refl ht
    | none =>
        refine (hadopt canClone t ht).bind hG.trans (fun t adopted ht => ?_) fun _ _ ht => ht
        cases adopted with
        | some adopted => exact Co.Triple.value hG.refl ht
        | none => exact generateWrappingKey_keeps hG hJ havailable hput ht
  refine remembered_triple hG (fun _ _ => ht) fun _ => ?_
  refine (probeStructuredClone_triple (B := fun _ => True) hG hJ.rely
    (fun t ht => hprobe t _ ht) (fun _ _ _ _ => trivial) trivial ht).bind hG.trans ?_ ?_
  · rintro t canClone ⟨ht, -⟩
    refine (hfind canClone t ht).mono fun t x ht => ?_
    cases x with
    | ok key => exact hcache t key ht
    | error e => exact ht
  · rintro t e ⟨⟩

end

end Oxpulse.Identity
