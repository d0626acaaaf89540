import Oxpulse.Identity.KeypairCalls
import Oxpulse.Identity.OneFlight
import Oxpulse.Identity.SteadyStorage

/-!
# Calls for the device identity, where storage works

A flight lands with the identity that it put in memory. A wipe and a restore are made
alone; then the keypair in memory still agrees with its row, and no flight is left in
the air.
-/

namespace Oxpulse.Identity

open Oxpulse.Coroutine Oxpulse.Crypto Pool

/-- The promises since the given one that resolved have the identity in memory. -/
def PromisesHeld (base : ℕ) (t : Tab) : Prop :=
  ∀ n d, base ≤ n → t.session.identityPromises[n]? = some (some (.ok d)) →
    t.session.cachedIdentity = some d

/-- What a flight relies on: nobody interferes before it has put an identity in memory,
and nobody changes that afterwards. -/
structure FlightRely (env : Runtime) (t t' : Tab) : Prop where
  available : t.Available env → t'.Available env
  searching : t.session.cachedIdentity = none → t' = t
  identity : IdentityKept t t'

/-- What a flight gives: with an identity in memory it touches neither that nor the
keypair. -/
structure FlightGives (P : IdentityPrimitives) (env : Runtime) (base : ℕ) (t t' : Tab) : Prop where
  available : t.Available env → t'.Available env
  agrees : KeypairAgrees P env t → KeypairAgrees P env t'
  promises : PromisesHeld base t → PromisesHeld base t'
  grows : t.session.identityPromises.length ≤ t'.session.identityPromises.length
  found : ∀ d, t.session.cachedIdentity = some d → t'.session.cachedIdentity = some d ∧
    t'.storage.x25519Keypair = t.storage.x25519Keypair ∧
    t'.session.cachedX25519Keypair = t.session.cachedX25519Keypair

/-- A segment of the flight, apart from the first and the last. -/
structure FlightInner (P : IdentityPrimitives) (env : Runtime) (base : ℕ) (t t' : Tab) : Prop where
  gives : FlightGives P env base t t'
  inflight : t'.session.inflightIdentity = t.session.inflightIdentity

/-- In the air, with nothing found yet. -/
structure Unfound (env : Runtime) (t : Tab) : Prop where
  available : t.Available env
  cached : t.session.cachedIdentity = none

/-- The caches of the retired identity are dropped. -/
structure Retiring (env : Runtime) (t : Tab) : Prop where
  searching : Unfound env t
  keypair : t.session.cachedX25519Keypair = none

/-- What is resolved is in memory. -/
def InMemory (t : Tab) (x : Except IdentityError DeviceIdentity) : Prop :=
  ∀ d, x = .ok d → t.session.cachedIdentity = some d

section

variable {P : IdentityPrimitives} {env : Runtime} {α β : Type}

/-! ## A flight -/

section

variable {base n : ℕ} {t t' t'' : Tab} {me : Agent}

/-- A step before an identity is found. -/
theorem FlightInner.of_searching (hcached : t.session.cachedIdentity = none)
    (havailable : t.Available env → t'.Available env)
    (hagrees : KeypairAgrees P env t → KeypairAgrees P env t')
    (hpromises : t'.session.identityPromises = t.session.identityPromises)
    (hinflight : t'.session.inflightIdentity = t.session.inflightIdentity) :
    FlightInner P env base t t' := by
  refine ⟨⟨havailable, hagrees, fun h m d hm hd => ?_, ?_, fun d hd => ?_⟩, hinflight⟩
  · rw [hpromises] at hd
    have hsome := h m d hm hd
    rw [hcached] at hsome
    cases hsome
  · exact Nat.le_of_eq (congrArg List.length hpromises.symm)
  · rw [hcached] at hd
    cases hd

/-- A step that leaves the identity and the keypair alone. -/
theorem FlightInner.of_same (havailable : t.Available env → t'.Available env)
    (hidentity : IdentityKept t t')
    (hrow : t'.storage.x25519Keypair = t.storage.x25519Keypair)
    (hcached : t'.session.cachedX25519Keypair = t.session.cachedX25519Keypair) :
    FlightInner P env base t t' := by
  refine ⟨⟨havailable, fun h => h.congr hrow hcached, fun h m d hm hd => ?_, ?_, fun d hd => ?_⟩,
    hidentity.inflight⟩
  · rw [hidentity.promises] at hd
    exact hidentity.cached.trans (h m d hm hd)
  · exact Nat.le_of_eq (congrArg List.length hidentity.promises.symm)
  · exact ⟨hidentity.cached.trans hd, hrow, hcached⟩

theorem FlightRely.refl : FlightRely env t t := ⟨fun h => h, fun _ => rfl, .refl⟩

theorem FlightRely.trans (h : FlightRely env t t') (h' : FlightRely env t' t'') :
    FlightRely env t t'' := by
  refine ⟨fun ht => h'.available (h.available ht), fun hnone => ?_, h.identity.trans h'.identity⟩
  have hsame := h.searching hnone
  rw [hsame] at h'
  exact h'.searching hnone

theorem flightInner_guarantee (P : IdentityPrimitives) (env : Runtime) (base : ℕ) :
    Guarantee env (FlightInner P env base) where
  refl _ := .of_same (fun h => h) .refl rfl rfl
  trans _ _ _ h h' := by
    refine ⟨⟨fun ht => h'.gives.available (h.gives.available ht),
      fun ht => h'.gives.agrees (h.gives.agrees ht),
      fun ht => h'.gives.promises (h.gives.promises ht), Nat.le_trans h.gives.grows h'.gives.grows,
      fun d hd => ?_⟩,
      h'.inflight.trans h.inflight⟩
    obtain ⟨hd', hrow, hcached⟩ := h.gives.found d hd
    obtain ⟨hd'', hrow', hcached'⟩ := h'.gives.found d hd'
    exact ⟨hd'', hrow'.trans hrow, hcached'.trans hcached⟩
  quiet _ _ hc := .of_same (fun _ => Tab.Available.quiet hc) ⟨rfl, rfl, rfl⟩ rfl rfl

theorem unfound_stable : Stable env (FlightRely env) (Unfound env) where
  rely t t' h hR := by
    rw [hR.searching h.cached]
    exact h
  quiet _ _ h hc := ⟨Tab.Available.quiet hc, h.cached⟩

theorem retiring_stable : Stable env (FlightRely env) (Retiring env) where
  rely t t' h hR := by
    rw [hR.searching h.searching.cached]
    exact h
  quiet _ _ h hc := ⟨⟨Tab.Available.quiet hc, h.searching.cached⟩, h.keypair⟩

/-- What leaves the identity and the keypair alone is safe. -/
theorem unfound_safe {f : Tab → Tab}
    (havailability : ∀ t, (f t).session.idbAvailabilityCache = t.session.idbAvailabilityCache)
    (hidentity : ∀ t, IdentityKept t (f t))
    (hrow : ∀ t, (f t).storage.x25519Keypair = t.storage.x25519Keypair)
    (hcached : ∀ t, (f t).session.cachedX25519Keypair = t.session.cachedX25519Keypair) :
    Safe (FlightInner P env base) (Unfound env) f := by
  intro t ht
  have havailable : t.Available env → (f t).Available env :=
    fun h hreliable c hc => h hreliable c ((havailability t).symm.trans hc)
  exact ⟨.of_same havailable (hidentity t) (hrow t) (hcached t), havailable ht.available,
    (hidentity t).cached.trans ht.cached⟩

theorem unfound_kekSafe : KekSafe (FlightInner P env base) (Unfound env) where
  put _ := unfound_safe (fun _ => rfl) (fun _ => ⟨rfl, rfl, rfl⟩) (fun _ => rfl) fun _ => rfl
  probe _ := unfound_safe (fun _ => rfl) (fun _ => ⟨rfl, rfl, rfl⟩) (fun _ => rfl) fun _ => rfl
  cache _ := unfound_safe (fun _ => rfl) (fun _ => ⟨rfl, rfl, rfl⟩) (fun _ => rfl) fun _ => rfl

theorem unfound_save (stored : StoredIdentity) (wrapped : Bytes) :
    Safe (FlightInner P env base) (Unfound env) (Tab.withStorage (putIdentity stored wrapped)) :=
  unfound_safe (fun _ => rfl) (fun _ => ⟨rfl, rfl, rfl⟩) (fun _ => rfl) fun _ => rfl

/-- A keypair that is no longer in memory agrees with any row. -/
theorem KeypairAgrees.retired (h : KeypairAgrees P env t)
    (hrow : t'.storage.x25519Keypair = t.storage.x25519Keypair ∨ t'.storage.x25519Keypair = none)
    (hcached : t'.session.cachedX25519Keypair = none) : KeypairAgrees P env t' := by
  refine ⟨fun row h' => ?_, fun kp hkp => ?_⟩
  · rcases hrow with hrow | hrow
    · exact h.rows row (hrow.symm.trans h')
    · rw [hrow] at h'
      cases h'
  · rw [hcached] at hkp
    cases hkp

variable (P base) in
theorem unfound_retire (ht : Unfound env t) :
    FlightInner P env base t (t.withSession retireCaches) ∧
      Retiring env (t.withSession retireCaches) :=
  ⟨.of_searching ht.cached (fun h => h) (fun h => h.retired (Or.inl rfl) rfl) rfl rfl,
    ⟨ht.available, ht.cached⟩, rfl⟩

theorem retiring_safe {f : Storage → Storage}
    (hrow : ∀ storage, (f storage).x25519Keypair = storage.x25519Keypair ∨
      (f storage).x25519Keypair = none) :
    Safe (FlightInner P env base) (Retiring env) (Tab.withStorage f) := fun _ ht =>
  ⟨.of_searching ht.searching.cached (fun h => h) (fun h => h.retired (hrow _) ht.keypair) rfl rfl,
    ⟨ht.searching.available, ht.searching.cached⟩, ht.keypair⟩

theorem retiring_wipeSafe : WipeSafe (FlightInner P env base) (Retiring env) where
  x25519Keypair := retiring_safe fun _ => Or.inr rfl
  sealedX25519 := retiring_safe fun _ => Or.inl rfl
  profileSeed := retiring_safe fun _ => Or.inl rfl
  roomHostCaches _ ht :=
    ⟨.of_same (fun h => h) ⟨rfl, rfl, rfl⟩ rfl rfl,
      ⟨ht.searching.available, ht.searching.cached⟩, ht.keypair⟩
  roomHost := retiring_safe fun _ => Or.inl rfl

/-- The triple of what is under the lock. -/
abbrev LandsInMemory (P : IdentityPrimitives) (env : Runtime) (base : ℕ)
    (co : TabCo DeviceIdentity) (t : Tab) : Prop :=
  Co.Triple (FlightRely env) (FlightInner P env base) InMemory co t

theorem cacheIdentity_inMemory (d : DeviceIdentity) (ht : Unfound env t) :
    LandsInMemory P env base
      (do modify (Tab.withSession (cacheIdentity d)); return d) t := by
  have hG := flightInner_guarantee P env base
  refine modify_bind hG (.of_searching ht.cached (fun h => h) (fun h => h.congr rfl rfl) rfl rfl) ?_
  refine Co.Triple.value hG.refl ?_
  rintro d' ⟨⟩
  rfl

/-- Nothing is resolved that is not in memory. -/
theorem inMemory_error {e : IdentityError} : InMemory t (.error e) := by
  rintro d ⟨⟩

theorem mintIdentity_inMemory (hworks : StorageWorks env) (ht : Unfound env t) :
    Co.Triple (FlightRely env) (FlightInner P env base)
      (fun t x => Unfound env t ∧ ∀ minted, x = .ok minted → minted.persisted = true)
      (mintIdentityWithStorageFallback P env) t :=
  (mintIdentityWithStorageFallback_keeps (flightInner_guarantee P env base) unfound_stable
    (fun _ h => h.available) unfound_kekSafe unfound_save ht).yields
    (mintIdentityWithStorageFallback_persists hworks) (fun _ _ h hR => hR.available h) ht.available

theorem createIdentity_inMemory (hworks : StorageWorks env) (ht : Unfound env t) :
    LandsInMemory P env base (createIdentity P env) t := by
  have hG := flightInner_guarantee P env base
  refine (mintIdentity_inMemory hworks ht).bind hG.trans ?_ fun t e _ => inMemory_error
  rintro t minted ⟨ht, hpersisted⟩
  simp only [hpersisted minted rfl, if_true]
  exact cacheIdentity_inMemory minted.identity ht

theorem replaceLegacyIdentity_inMemory (hworks : StorageWorks env) (ht : Unfound env t) :
    LandsInMemory P env base (replaceLegacyIdentity P env) t := by
  have hG := flightInner_guarantee P env base
  refine (mintIdentity_inMemory hworks ht).bind hG.trans ?_ fun t e _ => inMemory_error
  rintro t minted ⟨ht, hpersisted⟩
  simp only [hpersisted minted rfl, if_true]
  obtain ⟨hretire, hretiring⟩ := unfound_retire P base ht
  refine modify_bind hG hretire ?_
  refine (wipeResidue_keeps hG retiring_stable (fun t h => h.searching.available) retiring_wipeSafe
    hretiring).attempt_bind hG.trans fun t _ ht => ?_
  exact cacheIdentity_inMemory minted.identity ht.searching

theorem useIdentity_inMemory {d : DeviceIdentity} (hworks : StorageWorks env) (ht : Unfound env t) :
    LandsInMemory P env base (useIdentity P env d) t := by
  unfold useIdentity
  split
  · exact cacheIdentity_inMemory d ht
  · exact replaceLegacyIdentity_inMemory hworks ht

theorem getOrCreateDeviceIdentityInner_inMemory (hworks : StorageWorks env) (ht : Unfound env t) :
    LandsInMemory P env base (getOrCreateDeviceIdentityInner P env) t := by
  have hG := flightInner_guarantee P env base
  have havailable : ∀ t, Unfound env t → t.Available env := fun t h => h.available
  refine get_bind ?_
  simp only [ht.cached]
  have hload : Co.Triple (FlightRely env) (FlightInner P env base)
      (fun t x => Unfound env t ∧ Undegraded x) (load env .identity Storage.deviceKey) t :=
    (load_keeps hG unfound_stable havailable ht).yields
      (request_steady hworks.identity fun storage e h => by cases h)
      (fun t t' h hR => hR.available h) ht.available
  refine hload.attempt_bind hG.trans ?_
  rintro t x ⟨ht, hundegraded⟩
  cases x with
  | error e =>
      cases e
      case idbUnavailable reason => exact absurd (.idbUnavailable reason) (hundegraded _ rfl)
      all_goals exact Co.Triple.raise hG.refl inMemory_error
  | ok row =>
      cases row with
      | none => exact createIdentity_inMemory hworks ht
      | some stored =>
          refine (unwrapIdentity_keeps hG unfound_stable havailable unfound_kekSafe
            ht).attempt_bind hG.trans fun t x ht => ?_
          cases x with
          | ok d => exact useIdentity_inMemory hworks ht
          | error e =>
              refine (recoverWithLegacyKey_keeps hG unfound_stable havailable unfound_kekSafe
                ht).bind hG.trans ?_ fun t e _ => inMemory_error
              intro t recovered ht
              cases recovered with
              | some d => exact useIdentity_inMemory hworks ht
              | none => exact Co.Triple.raise hG.refl inMemory_error

/-- **A call that starts a flight** lands with the identity in memory. -/
theorem identityFlight_inMemory (hworks : StorageWorks env) (ht : Unfound env t) :
    (identityFlight P env me n t).Sat (fun t => t.session.inflightIdentity = some n)
      (FlightRely env) (FlightGives P env base)
      (fun t x => t.session.inflightIdentity = none ∧ InMemory t x) t := by
  have hG := flightInner_guarantee P env base
  have hrely : ∀ t t' x, InMemory t x → FlightRely env t t' → InMemory t' x :=
    fun t t' x hx hR d hd => hR.identity.cached.trans (hx d hd)
  have hlock : ∀ (lock : Option Agent) t, FlightInner P env base t (t.withLock lock) :=
    fun lock t => .of_same (fun h => h) ⟨rfl, rfl, rfl⟩ rfl rfl
  have hopen : Unfound env (t.openPromise n) := ⟨ht.available, ht.cached⟩
  have hinner : Co.Triple (FlightRely env) (FlightInner P env base) InMemory
      (withIdentityLock env me (getOrCreateDeviceIdentityInner P env)) (t.openPromise n) :=
    withIdentityLock_triple hG unfound_stable.rely (fun t _ _ => inMemory_error)
      (fun t ht _ => ⟨hlock _ t, ht.available, ht.cached⟩)
      (fun t ht => getOrCreateDeviceIdentityInner_inMemory hworks ht) hrely
      (fun t x hx => ⟨hlock _ t, hx⟩)
      (fun _ t ht => getOrCreateDeviceIdentityInner_inMemory hworks ht) hopen
  have hkept := hinner.keeps (fun t => t.session.inflightIdentity = some n)
    (fun t t' h hG => hG.inflight.trans h) (fun t t' h hR => hR.identity.inflight.trans h) rfl
  simp only [true_and] at hkept
  refine Outcome.Sat.precede (fun t' (h : FlightGives P env base (t.openPromise n) t') => ?_) ?_
  · refine ⟨fun havailable => h.available havailable, fun hagrees => h.agrees (hagrees.congr rfl rfl),
      fun hpromises => h.promises fun m d hm hd => ?_, Nat.le_trans ?_ h.grows, fun d hd => ?_⟩
    · rcases concat_cases hd with ⟨-, hold⟩ | ⟨-, hnew⟩
      · exact hpromises m d hm hold
      · cases hnew
    · show _ ≤ (t.session.identityPromises ++ [none]).length
      rw [List.length_append]
      exact Nat.le_add_right _ _
    · rw [ht.cached] at hd
      cases hd
  · have hflight := hkept.mono (fun t t' h => (h.gives : FlightGives P env base t t'))
      (fun _ _ h => h)
    refine hflight.attempt_bind (fun a b c h h' => ?_) ?_
    · refine ⟨fun ht => h'.available (h.available ht), fun ht => h'.agrees (h.agrees ht),
        fun ht => h'.promises (h.promises ht), Nat.le_trans h.grows h'.grows, fun d hd => ?_⟩
      obtain ⟨hd', hrow, hcached⟩ := h.found d hd
      obtain ⟨hd'', hrow', hcached'⟩ := h'.found d hd'
      exact ⟨hd'', hrow'.trans hrow, hcached'.trans hcached⟩
    · rintro t x ⟨hinflight, hx⟩
      refine ⟨hinflight, (hG.refl t).gives, ?_⟩
      rintro r t' hinflight' hR
      have hx' : InMemory t' x := hrely t t' x hx hR
      have hsettle : FlightGives P env base t' (t'.settlePromise n x) := by
        refine ⟨fun h => h, fun h => h.congr rfl rfl, fun h m d hm hd => ?_,
          Nat.le_of_eq (List.length_set ..).symm, fun d hd => ⟨hd, rfl, rfl⟩⟩
        rcases set_cases hd with ⟨-, hold⟩ | ⟨-, hnew⟩
        · exact h m d hm hold
        · exact hx' d (Option.some.inj hnew).symm
      cases x with
      | ok d => exact ⟨hsettle, rfl, hx'⟩
      | error e => exact ⟨hsettle, rfl, hx'⟩

end

/-! ## A wipe and a restore -/

/-- No flight is in the air, and the keypair in memory agrees with its row. -/
structure Grounded (P : IdentityPrimitives) (env : Runtime) (t : Tab) : Prop where
  available : t.Available env
  agrees : KeypairAgrees P env t
  inflight : t.session.inflightIdentity = none

/-- A segment of a call that leaves it so. -/
def GroundedStep (P : IdentityPrimitives) (env : Runtime) (t t' : Tab) : Prop :=
  Grounded P env t → Grounded P env t'

/-- The keypair is no longer in memory. -/
structure Wiping (P : IdentityPrimitives) (env : Runtime) (t : Tab) : Prop where
  grounded : Grounded P env t
  keypair : t.session.cachedX25519Keypair = none

section

variable {t : Tab}

theorem groundedStep_guarantee (P : IdentityPrimitives) (env : Runtime) :
    Guarantee env (GroundedStep P env) where
  refl _ h := h
  trans _ _ _ h h' ht := h' (h ht)
  quiet _ _ hc h := ⟨Tab.Available.quiet hc, h.agrees.congr rfl rfl, h.inflight⟩

theorem grounded_stable : Stable env Alone (Grounded P env) :=
  alone_stable fun _ _ h hc => ⟨Tab.Available.quiet hc, h.agrees.congr rfl rfl, h.inflight⟩

theorem wiping_stable : Stable env Alone (Wiping P env) :=
  alone_stable fun _ _ h hc =>
    ⟨⟨Tab.Available.quiet hc, h.grounded.agrees.congr rfl rfl, h.grounded.inflight⟩, h.keypair⟩

/-- A transaction that deletes the row or leaves it alone. -/
theorem wiping_safe {f : Storage → Storage}
    (hrow : ∀ storage, (f storage).x25519Keypair = storage.x25519Keypair ∨
      (f storage).x25519Keypair = none) :
    Safe (GroundedStep P env) (Wiping P env) (Tab.withStorage f) := by
  intro t ht
  have hgrounded : Grounded P env (t.withStorage f) :=
    ⟨ht.grounded.available, ht.grounded.agrees.retired (hrow _) ht.keypair, ht.grounded.inflight⟩
  exact ⟨fun _ => hgrounded, hgrounded, ht.keypair⟩

theorem grounded_safe {f : Storage → Storage}
    (hrow : ∀ storage, (f storage).x25519Keypair = storage.x25519Keypair) :
    Safe (GroundedStep P env) (Grounded P env) (Tab.withStorage f) := by
  intro t ht
  have hgrounded : Grounded P env (t.withStorage f) :=
    ⟨ht.available, ht.agrees.congr (hrow _) rfl, ht.inflight⟩
  exact ⟨fun _ => hgrounded, hgrounded⟩

theorem grounded_session {f : Session → Session}
    (havailability : ∀ s, (f s).idbAvailabilityCache = s.idbAvailabilityCache)
    (hinflight : ∀ s, (f s).inflightIdentity = s.inflightIdentity)
    (hcached : ∀ s, (f s).cachedX25519Keypair = s.cachedX25519Keypair) :
    Safe (GroundedStep P env) (Grounded P env) (Tab.withSession f) := by
  intro t ht
  have hgrounded : Grounded P env (t.withSession f) :=
    ⟨fun hreliable c hc => ht.available hreliable c ((havailability t.session).symm.trans hc),
      ht.agrees.congr rfl (hcached t.session), (hinflight t.session).trans ht.inflight⟩
  exact ⟨fun _ => hgrounded, hgrounded⟩

theorem clearDeviceIdentity_grounded (ht : Grounded P env t) :
    Keeps Alone (GroundedStep P env) (Grounded P env) (clearDeviceIdentity env) t := by
  have hG := groundedStep_guarantee P env
  have hwrite : ∀ {db : Database} {update : Storage → Storage} t, Wiping P env t →
      (∀ storage, (update storage).x25519Keypair = storage.x25519Keypair ∨
        (update storage).x25519Keypair = none) →
      Keeps Alone (GroundedStep P env) (Wiping P env) (write env db update) t := fun t ht hrow =>
    write_keeps hG wiping_stable (fun t h => h.grounded.available) (wiping_safe hrow) ht
  have hwiping : Wiping P env (t.withSession fun s =>
      { s with
        cachedIdentity := none
        cachedWrappingKey := none
        cachedProfileSeed := none
        cachedX25519Keypair := none
        cachedSealedX25519 := none
        identityEpochCounter := s.identityEpochCounter + 1 }) :=
    ⟨⟨ht.available, ht.agrees.retired (Or.inl rfl) rfl, ht.inflight⟩, rfl⟩
  have hcaches : Safe (GroundedStep P env) (Wiping P env) (Tab.withSession fun s =>
      { s with roomHostCachedSeed := none, roomHostCachedWrappingKey := none }) := by
    intro t ht
    have hgrounded : Grounded P env (t.withSession fun s =>
        { s with roomHostCachedSeed := none, roomHostCachedWrappingKey := none }) :=
      ⟨ht.grounded.available, ht.grounded.agrees.congr rfl rfl, ht.grounded.inflight⟩
    exact ⟨fun _ => hgrounded, hgrounded, ht.keypair⟩
  have hroomHost : ∀ t, Wiping P env t →
      Keeps Alone (GroundedStep P env) (Wiping P env) (clearRoomHostSeed env) t := fun t ht =>
    keeps_modify hG hcaches ht fun t ht => hwrite t ht fun _ => Or.inl rfl
  have hclear : Keeps Alone (GroundedStep P env) (Wiping P env) (clearDeviceIdentity env) t := by
    refine modify_bind hG (fun _ => hwiping.grounded) ?_
    refine keeps_bind hG (hwrite _ hwiping fun _ => Or.inl rfl) fun _ t ht => ?_
    refine keeps_bind hG (hwrite t ht fun _ => Or.inl rfl) fun _ t ht => ?_
    refine keeps_bind hG (hwrite t ht fun _ => Or.inl rfl) fun _ t ht => ?_
    refine keeps_bind hG (hwrite t ht fun _ => Or.inl rfl) fun _ t ht => ?_
    refine keeps_bind hG (hwrite t ht fun _ => Or.inr rfl) fun _ t ht => ?_
    refine keeps_bind hG (hwrite t ht fun _ => Or.inl rfl) fun _ t ht => ?_
    refine keeps_bind hG (hroomHost t ht) fun _ t ht => ?_
    exact hwrite t ht fun _ => Or.inl rfl
  exact hclear.mono fun t x h => h.grounded

theorem wrapRestoredSecret_any {secret : Bytes} {kek : CryptoKey} :
    Evaluates (fun _ => True) (wrapRestoredSecret P env secret kek) := by
  refine evaluates_any_bind (unlessNotSupported_any ?_) fun _ => evaluates_pure trivial
  exact evaluates_any_bind (importPkcs8_evaluates.mono fun _ _ => trivial)
    fun _ => wrapPkcs8_outcome.mono fun _ _ => trivial

theorem wipeForeignSealed_grounded {publicB64u : List Char} (ht : Grounded P env t) :
    Keeps Alone (GroundedStep P env) (Grounded P env) (wipeForeignSealed env publicB64u) t := by
  have hG := groundedStep_guarantee P env
  refine keeps_bind hG (load_keeps hG grounded_stable (fun t h => h.available) ht) fun row t ht => ?_
  cases row with
  | none => exact keeps_value hG ht
  | some existing =>
      by_cases howner : existing.ownerEd25519PubB64 ≠ publicB64u
      · simp only [howner, not_false_eq_true, if_true, ne_eq]
        exact write_keeps hG grounded_stable (fun t h => h.available)
          (grounded_safe fun _ => rfl) ht
      · simp only [howner, if_false]
        exact keeps_value hG ht

theorem replaceDeviceIdentity_grounded {secret : Bytes} {publicB64u : List Char}
    (ht : Grounded P env t) :
    Keeps Alone (GroundedStep P env) (Grounded P env) (replaceDeviceIdentity P env secret publicB64u) t := by
  have hG := groundedStep_guarantee P env
  have havailable : ∀ t, Grounded P env t → t.Available env := fun t h => h.available
  have hkek : KekSafe (GroundedStep P env) (Grounded P env) :=
    { put := fun _ => grounded_safe fun _ => rfl
      probe := fun _ => grounded_session (fun _ => rfl) (fun _ => rfl) fun _ => rfl
      cache := fun _ => grounded_session (fun _ => rfl) (fun _ => rfl) fun _ => rfl }
  refine keeps_modify hG (grounded_session (fun _ => rfl) (fun _ => rfl) fun _ => rfl) ht
    fun t ht => ?_
  refine keeps_bind hG (wrappingKey_keeps hG grounded_stable havailable hkek ht) fun key t ht => ?_
  refine keeps_bind hG (wrapSecretBytes_any.keeps hG grounded_stable ht) fun wrapped t ht => ?_
  refine keeps_bind hG (wrapRestoredSecret_any.keeps hG grounded_stable ht) fun envelope t ht => ?_
  refine keeps_bind hG (write_keeps hG grounded_stable havailable (grounded_safe fun _ => rfl) ht)
    fun _ t ht => ?_
  refine keeps_attempt_bind hG (wipeForeignSealed_grounded ht) fun _ t ht => ?_
  have hgrounded : Grounded P env (t.withSession fun s =>
      { s with
        cachedSealedX25519 := none
        identityEpochCounter := s.identityEpochCounter + 1
        cachedIdentity := none }) :=
    ⟨ht.available, ht.agrees.congr rfl rfl, ht.inflight⟩
  exact Co.Triple.assign (fun _ => hgrounded) hgrounded

end

end

end Oxpulse.Identity
