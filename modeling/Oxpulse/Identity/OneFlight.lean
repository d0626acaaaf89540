import Oxpulse.Identity.Keeps
import Oxpulse.Foundation.Phases

/-!
# The identity of a session

Calls of `getOrCreateDeviceIdentity` share one flight: a call that finds one in the air
waits for its promise, and an identity in memory is returned at once. Where storage is
degraded a flight lands with an identity that is kept nowhere, and nothing remembers
that it did: the next call starts a flight of its own and mints again. As long as no
call starts a flight after one has resolved, all calls resolve to one identity,
whatever the storage does.
-/

namespace Oxpulse.Identity

open Oxpulse.Coroutine Oxpulse.Crypto Pool

/-- An identity in memory stays there. -/
def Once (t t' : Tab) : Prop :=
  ∀ d, t.session.cachedIdentity = some d → t'.session.cachedIdentity = some d

/-- A flight is in the air, and none has landed with an identity before. -/
structure InFlight (env : Runtime) (t : Tab) : Prop where
  available : t.Available env
  inflight : t.session.inflightIdentity ≠ none
  promises : ∀ (n : ℕ) d, t.session.identityPromises[n]? ≠ some (some (.ok d))

/-- The flight has landed: its result is all that memory and the promises have. -/
structure LandedFlight (env : Runtime) (t : Tab) (x : Except IdentityError DeviceIdentity) : Prop where
  available : t.Available env
  inflight : t.session.inflightIdentity = none
  cached : ∀ d, t.session.cachedIdentity = some d → x = .ok d
  promises : ∀ (n : ℕ) d, t.session.identityPromises[n]? = some (some (.ok d)) → x = .ok d

section

variable {P : IdentityPrimitives} {env : Runtime} {me : Agent} {t : Tab}

/-- A segment of the flight, apart from the first and the last. -/
def InnerStep (env : Runtime) (t t' : Tab) : Prop :=
  (InFlight env t → InFlight env t') ∧ Once t t'

theorem innerStep_guarantee (env : Runtime) : Guarantee env (InnerStep env) where
  refl _ := ⟨fun h => h, fun _ h => h⟩
  trans _ _ _ h h' := ⟨fun ht => h'.1 (h.1 ht), fun d hd => h'.2 d (h.2 d hd)⟩
  quiet _ _ hc := ⟨fun h => ⟨fun hreliable c' hc' => by cases hc'; exact hc hreliable,
    h.inflight, h.promises⟩, fun _ h => h⟩

/-- In the air, with nothing found yet. -/
structure Searches (env : Runtime) (t : Tab) : Prop where
  inFlight : InFlight env t
  cached : t.session.cachedIdentity = none

/-- What the inner sequence ends in, at the end of the flight. -/
structure Arrives (env : Runtime) (t : Tab) (x : Except IdentityError DeviceIdentity) : Prop where
  inFlight : InFlight env t
  cached : ∀ d, t.session.cachedIdentity = some d → x = .ok d

theorem searches_stable : Stable env (fun t t' => t' = t) (Searches env) where
  rely := by
    rintro t t' h rfl
    exact h
  quiet t c h hc := ⟨(innerStep_guarantee env).quiet t c hc |>.1 h.inFlight, h.cached⟩

/-- What leaves the module variables of the identity alone is safe. -/
theorem searches_safe {f : Tab → Tab}
    (hinflight : ∀ t, (f t).session.inflightIdentity = t.session.inflightIdentity)
    (hpromises : ∀ t, (f t).session.identityPromises = t.session.identityPromises)
    (hcached : ∀ t, (f t).session.cachedIdentity = t.session.cachedIdentity)
    (havailability : ∀ t, (f t).session.idbAvailabilityCache = t.session.idbAvailabilityCache) :
    Safe (InnerStep env) (Searches env) f := by
  intro t ht
  have hflight : InFlight env t → InFlight env (f t) := by
    rintro ⟨havailable, hin, hprom⟩
    refine ⟨fun hreliable c hc => havailable hreliable c ((havailability t).symm.trans hc), ?_, ?_⟩
    · rwa [hinflight]
    · rwa [hpromises]
  exact ⟨⟨hflight, fun d hd => (hcached t).trans hd⟩, hflight ht.inFlight,
    (hcached t).trans ht.cached⟩

theorem searches_searchSafe : SearchSafe (InnerStep env) (Searches env) where
  kek :=
    { put := fun _ => searches_safe (fun _ => rfl) (fun _ => rfl) (fun _ => rfl) fun _ => rfl
      probe := fun _ => searches_safe (fun _ => rfl) (fun _ => rfl) (fun _ => rfl) fun _ => rfl
      cache := fun _ => searches_safe (fun _ => rfl) (fun _ => rfl) (fun _ => rfl) fun _ => rfl }
  save _ _ := searches_safe (fun _ => rfl) (fun _ => rfl) (fun _ => rfl) fun _ => rfl
  retire := searches_safe (fun _ => rfl) (fun _ => rfl) (fun _ => rfl) fun _ => rfl
  wipe :=
    { x25519Keypair := searches_safe (fun _ => rfl) (fun _ => rfl) (fun _ => rfl) fun _ => rfl
      sealedX25519 := searches_safe (fun _ => rfl) (fun _ => rfl) (fun _ => rfl) fun _ => rfl
      profileSeed := searches_safe (fun _ => rfl) (fun _ => rfl) (fun _ => rfl) fun _ => rfl
      roomHostCaches := searches_safe (fun _ => rfl) (fun _ => rfl) (fun _ => rfl) fun _ => rfl
      roomHost := searches_safe (fun _ => rfl) (fun _ => rfl) (fun _ => rfl) fun _ => rfl }

theorem arrives_ends : Ends (InnerStep env) (Searches env) (Arrives env) where
  throws t e ht := ⟨ht.inFlight, fun d hd => by rw [ht.cached] at hd; cases hd⟩
  ephemeral t d ht := ⟨ht.inFlight, fun d hd => by rw [ht.cached] at hd; cases hd⟩
  cached t d ht := by
    refine ⟨⟨fun h => ⟨h.available, h.inflight, h.promises⟩, fun d' hd' => ?_⟩,
      ⟨ht.inFlight.available, ht.inFlight.inflight, ht.inFlight.promises⟩, ?_⟩
    · rw [ht.cached] at hd'
      cases hd'
    · rintro d' ⟨⟩
      rfl

/-- **A flight** lands with what memory has, over any storage and with any faults. -/
theorem withIdentityLock_arrives (P : IdentityPrimitives) (me : Agent) (ht : Searches env t) :
    Co.Triple (fun t t' => t' = t) (InnerStep env) (Arrives env)
      (withIdentityLock env me (getOrCreateDeviceIdentityInner P env)) t := by
  have hG := innerStep_guarantee env
  have hsame : ∀ {Q : Tab → Except IdentityError DeviceIdentity → Prop} t t' x,
      Q t x → t' = t → Q t' x := by
    rintro Q t t' x hx rfl
    exact hx
  have hinner : ∀ t, Searches env t → Co.Triple (fun t t' => t' = t) (InnerStep env) (Arrives env)
      (getOrCreateDeviceIdentityInner P env) t :=
    fun t ht => getOrCreateDeviceIdentityInner_ends hG searches_stable
      (fun t h => h.inFlight.available) searches_searchSafe arrives_ends ht.cached ht
  have hlock : ∀ lock t, InFlight env t → InFlight env (t.withLock lock) :=
    fun lock t h => ⟨h.available, h.inflight, h.promises⟩
  refine withIdentityLock_triple hG searches_stable.rely ?_ ?_ hinner hsame ?_
    (fun _ => hinner) ht
  · exact fun t ht _ => arrives_ends.throws t _ ht
  · exact fun t ht _ => ⟨⟨hlock _ t, fun _ h => h⟩, hlock _ t ht.inFlight, ht.cached⟩
  · exact fun t x hx => ⟨⟨hlock _ t, fun _ h => h⟩, hlock _ t hx.inFlight, hx.cached⟩

theorem openPromise_searches {n : ℕ} (havailable : t.Available env)
    (hcached : t.session.cachedIdentity = none)
    (hpromises : ∀ (n : ℕ) d, t.session.identityPromises[n]? ≠ some (some (.ok d))) :
    Searches env (t.openPromise n) := by
  refine ⟨⟨havailable, Option.some_ne_none _, fun m d hm => ?_⟩, hcached⟩
  rcases concat_cases hm with ⟨-, hold⟩ | ⟨-, hnew⟩
  · exact hpromises m d hold
  · cases hnew

theorem settlePromise_lands {n : ℕ} {x : Except IdentityError DeviceIdentity}
    (hx : Arrives env t x) : LandedFlight env (t.settlePromise n x) x := by
  refine ⟨hx.inFlight.available, rfl, hx.cached, fun m d hm => ?_⟩
  rcases set_cases hm with ⟨-, hold⟩ | ⟨-, hnew⟩
  · exact absurd hold (hx.inFlight.promises m d)
  · cases hnew
    rfl

/-- **A call that starts a flight.** -/
theorem identityFlight_sat {n : ℕ} (ht : Searches env (t.openPromise n)) :
    (identityFlight P env me n t).Sat (InFlight env) (fun t t' => t' = t) Once (LandedFlight env)
      t := by
  have hinner : (withIdentityLock env me (getOrCreateDeviceIdentityInner P env)
      (t.openPromise n)).Sat (InFlight env) (fun t t' => t' = t) Once (Arrives env)
        (t.openPromise n) := by
    have hkept := (withIdentityLock_arrives P me ht).keeps (InFlight env)
      (fun _ _ h hG => hG.1 h) (by rintro _ _ h rfl; exact h) ht.inFlight
    simp only [true_and] at hkept
    exact hkept.mono (fun _ _ hG => hG.2) fun _ _ h => h.2
  have habsorb : ∀ t', Once (t.openPromise n) t' → Once t t' := fun _ h => h
  refine Outcome.Sat.precede habsorb ?_
  refine hinner.attempt_bind (fun _ _ _ h h' d hd => h' d (h d hd)) fun t x hx => ?_
  refine ⟨hx.inFlight, fun _ h => h, ?_⟩
  rintro r t' - rfl
  cases x with
  | ok d => exact ⟨fun _ h => h, settlePromise_lands hx⟩
  | error e => exact ⟨fun _ h => h, settlePromise_lands hx⟩

/-! ## The calls of a session -/

abbrev IdentityPool : Type := Pool Agent PlatformReply Tab IdentityError DeviceIdentity

/-- What a call gets that waits for a promise. -/
def joined (n : ℕ) (t : Tab) : Outcome PlatformReply Tab IdentityError DeviceIdentity :=
  match t.session.identityPromises[n]? with
  | some (some (.ok d)) => .ret t d
  | some (some (.error e)) => .throw t e
  | _ => .throw t .notReady

/-- The call waits for a promise and touches nothing. -/
def Passive (k : PlatformReply → Tab → Outcome PlatformReply Tab IdentityError DeviceIdentity) :
    Prop :=
  ∃ n, ∀ r t, k r t = joined n t

theorem joinPromise_passive (n : ℕ) (t : Tab) :
    joinPromise Session.identityPromises n t = .await t fun _ t => joined n t := by
  have hget : ∀ (f : Tab → TabCo DeviceIdentity) t, (get >>= f) t = f t t := fun _ _ => rfl
  unfold joinPromise
  show Outcome.await t _ = _
  congr 1
  funext r t'
  unfold joined
  simp only [Outcome.bind, hget]
  cases t'.session.identityPromises[n]? with
  | none => rfl
  | some promise =>
      cases promise with
      | none => rfl
      | some result => cases result <;> rfl

/-- **What holds between the calls.** `found` is the identity that was found, if one
was, and `flight` the call in the air. -/
structure OneFlight (env : Runtime) (found : Option DeviceIdentity) (flight : Option ℕ)
    (p : IdentityPool) : Prop where
  available : p.shared.Available env
  resolved : ∀ (i : ℕ) a d, p.calls[i]? = some ⟨a, .settled (.ok d)⟩ → found = some d
  promised : ∀ (n : ℕ) d, p.shared.session.identityPromises[n]? = some (some (.ok d)) →
    found = some d
  cached : ∀ d, p.shared.session.cachedIdentity = some d → found = some d
  slot : flight = none → p.shared.session.inflightIdentity = none
  landed : flight = none → p.shared.session.cachedIdentity = none → found ≠ none →
    ∃ (i : ℕ) (a : Agent) (d : DeviceIdentity), p.calls[i]? = some ⟨a, .settled (.ok d)⟩
  flying : ∀ i, flight = some i → found = p.shared.session.cachedIdentity ∧
    p.shared.session.inflightIdentity ≠ none ∧ ∃ a k, p.calls[i]? = some ⟨a, .pending k⟩ ∧
      ∀ r, (k r p.shared).Sat (InFlight env) (fun t t' => t' = t) Once (LandedFlight env) p.shared
  passive : ∀ (i : ℕ) a k, p.calls[i]? = some ⟨a, .pending k⟩ → flight ≠ some i → Passive k

theorem Passive.resumed {k : PlatformReply → Tab → Outcome PlatformReply Tab IdentityError
    DeviceIdentity} (hk : Passive k) (r : PlatformReply) (t : Tab) :
    (k r t).state = t ∧ ∃ x, (k r t).status = .settled x ∧
      ∀ d, x = .ok d → ∃ n : ℕ, t.session.identityPromises[n]? = some (some (.ok d)) := by
  obtain ⟨n, hk⟩ := hk
  rw [hk, joined]
  cases hpromise : t.session.identityPromises[n]? with
  | none => exact ⟨rfl, _, rfl, by rintro d ⟨⟩⟩
  | some promise =>
      cases promise with
      | none => exact ⟨rfl, _, rfl, by rintro d ⟨⟩⟩
      | some result =>
          cases result with
          | error e => exact ⟨rfl, _, rfl, by rintro d ⟨⟩⟩
          | ok d =>
              refine ⟨rfl, _, rfl, ?_⟩
              rintro d' ⟨⟩
              exact ⟨n, hpromise⟩

variable {found : Option DeviceIdentity} {flight : Option ℕ} {p p' : IdentityPool}

/-- A call that touched nothing and got what was found, or waits. -/
theorem OneFlight.untouched {i : ℕ} {a : Agent}
    {st : Status PlatformReply Tab IdentityError DeviceIdentity} (hp : OneFlight env found flight p)
    (hshared : p'.shared = p.shared) (hcall : p'.calls[i]? = some ⟨a, st⟩)
    (hothers : ∀ j, i ≠ j → p'.calls[j]? = p.calls[j]?) (hflight : flight ≠ some i)
    (hold : ∀ a d, p.calls[i]? ≠ some ⟨a, .settled (.ok d)⟩)
    (hst : (∃ k, st = .pending k ∧ Passive k) ∨
      ∃ x, st = .settled x ∧ ∀ d, x = .ok d → found = some d) :
    OneFlight env found flight p' := by
  refine ⟨hshared ▸ hp.available, ?_, hshared ▸ hp.promised, hshared ▸ hp.cached,
    hshared ▸ hp.slot, ?_, ?_, ?_⟩
  · intro j b d hj
    by_cases hij : i = j
    · subst hij
      rw [hcall] at hj
      injection hj with hj
      injection hj with _ hstatus
      rcases hst with ⟨k, hst, -⟩ | ⟨x, hst, hfound⟩
      · rw [hst] at hstatus
        cases hstatus
      · rw [hst] at hstatus
        cases hstatus
        exact hfound d rfl
    · exact hp.resolved j b d ((hothers j hij).symm.trans hj)
  · intro hnone hcached hfound
    rw [hshared] at hcached
    obtain ⟨j, b, d, hj⟩ := hp.landed hnone hcached hfound
    refine ⟨j, b, d, (hothers j ?_).trans hj⟩
    rintro rfl
    exact hold b d hj
  · intro j hj
    obtain ⟨hcached, hinflight, b, k, hcall', hk⟩ := hp.flying j hj
    refine ⟨hshared ▸ hcached, hshared ▸ hinflight, b, k, (hothers j ?_).trans hcall', hshared ▸ hk⟩
    rintro rfl
    exact hflight hj
  · intro j b k hj hne
    by_cases hij : i = j
    · subst hij
      rw [hcall] at hj
      injection hj with hj
      injection hj with _ hstatus
      rcases hst with ⟨k', hst, hpassive⟩ | ⟨x, hst, -⟩
      · rw [hst] at hstatus
        cases hstatus
        exact hpassive
      · rw [hst] at hstatus
        cases hstatus
    · exact hp.passive j b k ((hothers j hij).symm.trans hj) hne

/-- **A segment of the flight.** Until it lands, what it puts in memory is what was found;
when it lands, its result is. -/
theorem OneFlight.segment {i : ℕ} {a : Agent}
    {o : Outcome PlatformReply Tab IdentityError DeviceIdentity}
    (hp : OneFlight env found flight p)
    (hsat : o.Sat (InFlight env) (fun t t' => t' = t) Once (LandedFlight env) p.shared)
    (hfound : found = p.shared.session.cachedIdentity) (hshared : p'.shared = o.state)
    (hcall : p'.calls[i]? = some ⟨a, o.status⟩)
    (hothers : ∀ j, i ≠ j → p'.calls[j]? = p.calls[j]?)
    (honly : ∀ (j : ℕ) b k, i ≠ j → p.calls[j]? = some ⟨b, .pending k⟩ → Passive k) :
    ∃ found' flight', OneFlight env found' flight' p' := by
  have honce : Once p.shared o.state := hsat.guarantee
  have hresolved : ∀ (j : ℕ) b d, i ≠ j → p'.calls[j]? = some ⟨b, .settled (.ok d)⟩ →
      o.state.session.cachedIdentity = some d := by
    intro j b d hij hj
    rw [hothers j hij] at hj
    exact honce d (hfound ▸ hp.resolved j b d hj)
  have hpassive : ∀ (j : ℕ) b k, i ≠ j → p'.calls[j]? = some ⟨b, .pending k⟩ → Passive k :=
    fun j b k hij hj => honly j b k hij ((hothers j hij).symm.trans hj)
  cases o with
  | ret t d =>
      have hlanded : LandedFlight env p'.shared (.ok d) := hshared ▸ hsat.2
      refine ⟨some d, none, hlanded.available, ?_, ?_, ?_, fun _ => hlanded.inflight,
        fun _ _ _ => ⟨i, a, d, hcall⟩, by rintro j ⟨⟩, ?_⟩
      · intro j b d' hj
        by_cases hij : i = j
        · subst hij
          rw [hcall] at hj
          cases hj
          rfl
        · have h := hlanded.cached d' (hshared ▸ hresolved j b d' hij hj)
          cases h
          rfl
      · intro n d' hn
        have h := hlanded.promises n d' hn
        cases h
        rfl
      · intro d' hd'
        have h := hlanded.cached d' hd'
        cases h
        rfl
      · intro j b k hj _
        refine hpassive j b k ?_ hj
        rintro rfl
        rw [hcall] at hj
        cases hj
  | throw t e =>
      have hlanded : LandedFlight env p'.shared (.error e) := hshared ▸ hsat.2
      refine ⟨none, none, hlanded.available, ?_, ?_, ?_, fun _ => hlanded.inflight,
        fun _ _ h => absurd rfl h, by rintro j ⟨⟩, ?_⟩
      · intro j b d' hj
        by_cases hij : i = j
        · subst hij
          rw [hcall] at hj
          cases hj
        · have h := hlanded.cached d' (hshared ▸ hresolved j b d' hij hj)
          cases h
      · intro n d' hn
        have h := hlanded.promises n d' hn
        cases h
      · intro d' hd'
        have h := hlanded.cached d' hd'
        cases h
      · intro j b k hj _
        refine hpassive j b k ?_ hj
        rintro rfl
        rw [hcall] at hj
        cases hj
  | await t k =>
      have hair : InFlight env p'.shared := hshared ▸ hsat.1
      refine ⟨p'.shared.session.cachedIdentity, some i, hair.available, ?_, ?_, fun d hd => hd,
        by rintro ⟨⟩, by rintro ⟨⟩, ?_, ?_⟩
      · intro j b d' hj
        by_cases hij : i = j
        · subst hij
          rw [hcall] at hj
          cases hj
        · exact hshared ▸ hresolved j b d' hij hj
      · exact fun n d hn => absurd hn (hair.promises n d)
      · rintro j ⟨⟩
        refine ⟨rfl, hair.inflight, a, k, hcall, fun r => ?_⟩
        exact hsat.2.2 r p'.shared hair hshared
      · intro j b k' hj hne
        exact hpassive j b k' (fun hij => hne (congrArg some hij)) hj

/-- **The condition**: a call that finds neither an identity in memory nor a flight in the
air starts one only when no call has resolved before. -/
def StartsOnce (p : IdentityPool) : Move Agent PlatformReply → Prop
  | .start _ => p.shared.session.cachedIdentity ≠ none ∨ p.shared.session.inflightIdentity ≠ none ∨
      ∀ (i : ℕ) a d, p.calls[i]? ≠ some ⟨a, .settled (.ok d)⟩
  | .resume _ _ => True

/-- What a call does at its start: it returns the identity in memory, waits for the flight
in the air, or starts one. -/
theorem getOrCreateDeviceIdentity_starts (P : IdentityPrimitives) (env : Runtime) (a : Agent)
    (t : Tab) :
    (∃ d, t.session.cachedIdentity = some d ∧ getOrCreateDeviceIdentity P env a t = .ret t d) ∨
    (∃ n, t.session.inflightIdentity = some n ∧
      getOrCreateDeviceIdentity P env a t = .await t fun _ t => joined n t) ∨
    (t.session.cachedIdentity = none ∧ t.session.inflightIdentity = none ∧
      getOrCreateDeviceIdentity P env a t =
        identityFlight P env a t.session.identityPromises.length t) := by
  have hget : ∀ (f : Tab → TabCo DeviceIdentity) t, (get >>= f) t = f t t := fun _ _ => rfl
  unfold getOrCreateDeviceIdentity
  rw [hget]
  cases t.session.cachedIdentity with
  | some d =>
      exact Or.inl ⟨d, rfl, rfl⟩
  | none =>
      cases t.session.inflightIdentity with
      | some n =>
          exact Or.inr (Or.inl ⟨n, rfl, joinPromise_passive n t⟩)
      | none =>
          exact Or.inr (Or.inr ⟨rfl, rfl, rfl⟩)

theorem OneFlight.start {a : Agent} (hp : OneFlight env found flight p)
    (honce : StartsOnce p (.start a)) :
    ∃ found' flight', OneFlight env found' flight'
      (p.start (getOrCreateDeviceIdentity P env) a) := by
  have hnew : ∀ {i : ℕ} {c}, p.calls[i]? = some c → i ≠ p.calls.length := by
    rintro i c hi rfl
    rw [List.getElem?_eq_none (Nat.le_refl _)] at hi
    cases hi
  have hold : ∀ a d, p.calls[p.calls.length]? ≠ some ⟨a, .settled (.ok d)⟩ :=
    fun a d hi => hnew hi rfl
  have hflight : flight ≠ some p.calls.length := by
    intro h
    obtain ⟨-, -, b, k, hcall, -⟩ := hp.flying _ h
    exact hnew hcall rfl
  have hcall : (p.start (getOrCreateDeviceIdentity P env) a).calls[p.calls.length]? =
      some ⟨a, (getOrCreateDeviceIdentity P env a p.shared).status⟩ := List.getElem?_concat_length
  have hshared : (p.start (getOrCreateDeviceIdentity P env) a).shared =
      (getOrCreateDeviceIdentity P env a p.shared).state := rfl
  rcases getOrCreateDeviceIdentity_starts P env a p.shared with
    ⟨d, hcached, hbody⟩ | ⟨n, -, hbody⟩ | ⟨hcached, hinflight, hbody⟩
  · rw [hbody] at hcall hshared
    refine ⟨found, flight, hp.untouched hshared hcall (fun j hne => concat_ne hne) hflight hold
      (Or.inr ⟨_, rfl, ?_⟩)⟩
    rintro d' ⟨⟩
    exact hp.cached d hcached
  · rw [hbody] at hcall hshared
    exact ⟨found, flight, hp.untouched hshared hcall (fun j hne => concat_ne hne) hflight hold
      (Or.inl ⟨_, rfl, n, fun _ _ => rfl⟩)⟩
  · rw [hbody] at hcall hshared
    have hnone : flight = none := by
      cases hf : flight with
      | none => rfl
      | some i => exact absurd hinflight (hp.flying i hf).2.1
    have hunresolved : ∀ (i : ℕ) a d, p.calls[i]? ≠ some ⟨a, .settled (.ok d)⟩ := by
      rcases honce with h | h | h
      · exact absurd hcached h
      · exact absurd hinflight h
      · exact h
    have hfound : found = none := by
      by_contra hne
      obtain ⟨i, b, d, hi⟩ := hp.landed hnone hcached hne
      exact hunresolved i b d hi
    have hsearches : Searches env (p.shared.openPromise p.shared.session.identityPromises.length) := by
      refine openPromise_searches hp.available hcached fun n d hn => ?_
      have h := hp.promised n d hn
      rw [hfound] at h
      cases h
    refine hp.segment (identityFlight_sat hsearches) (hfound.trans hcached.symm) hshared hcall
      (fun j hne => concat_ne hne) fun j b k _ hj => hp.passive j b k hj ?_
    rw [hnone]
    rintro ⟨⟩

theorem OneFlight.resume (hp : OneFlight env found flight p) (i : ℕ) (r : PlatformReply) :
    ∃ found' flight', OneFlight env found' flight' (p.resume i r) := by
  rcases resume_cases p i r with h | ⟨a, k, hi, h⟩
  · rw [h]
    exact ⟨found, flight, hp⟩
  · rw [h]
    have hcall : (p.calls.set i ⟨a, (k r p.shared).status⟩)[i]? =
        some ⟨a, (k r p.shared).status⟩ :=
      List.getElem?_set_self (List.getElem?_eq_some_iff.mp hi).1
    by_cases hflight : flight = some i
    · obtain ⟨hfound, -, b, k', hi', hsat⟩ := hp.flying i hflight
      rw [hi] at hi'
      cases hi'
      refine hp.segment (hsat r) hfound rfl hcall (fun j hne => List.getElem?_set_ne hne)
        fun j b k' hne hj => hp.passive j b k' hj ?_
      rw [hflight]
      exact fun heq => hne (Option.some.inj heq)
    · obtain ⟨hstate, x, hstatus, hx⟩ := (hp.passive i a k hi hflight).resumed r p.shared
      rw [hstatus] at hcall ⊢
      rw [hstate]
      refine ⟨found, flight, hp.untouched rfl hcall (fun j hne => List.getElem?_set_ne hne) hflight
        ?_ (Or.inr ⟨x, rfl, fun d hd => ?_⟩)⟩
      · intro b d hj
        rw [hi] at hj
        cases hj
      · obtain ⟨n, hn⟩ := hx d hd
        exact hp.promised n d hn

end

/-- All calls that resolved returned one public key. -/
def OneIdentity (p : IdentityPool) : Prop :=
  ∀ (i j : ℕ) a b d d', p.calls[i]? = some ⟨a, .settled (.ok d)⟩ →
    p.calls[j]? = some ⟨b, .settled (.ok d')⟩ → d.publicKeyB64 = d'.publicKeyB64

/-- **The identity of a session is stable** when no call starts a flight after one has
resolved, over any storage and whatever the platform does. -/
theorem session_oneIdentity (P : IdentityPrimitives) (env : Runtime) (storage : Storage)
    (ms : List (Move Agent PlatformReply))
    (honce : Permitted (getOrCreateDeviceIdentity P env) StartsOnce (fresh (page storage)) ms) :
    OneIdentity ((fresh (page storage)).exec (getOrCreateDeviceIdentity P env) ms) := by
  have hfresh : OneFlight env none none (fresh (page storage)) := by
    refine ⟨?_, ?_, ?_, ?_, fun _ => rfl, fun _ _ h => absurd rfl h, ?_, ?_⟩
    · rintro - c ⟨⟩
    · rintro i a d ⟨⟩
    · rintro n d ⟨⟩
    · rintro d ⟨⟩
    · rintro i ⟨⟩
    · rintro i a k ⟨⟩
  have hone := exec_invariant (fun p => ∃ found flight, OneFlight env found flight p)
    ⟨none, none, hfresh⟩ honce fun p m hp hm => by
      obtain ⟨found, flight, hp⟩ := hp
      cases m with
      | start a => exact hp.start hm
      | resume i r => exact hp.resume i r
  obtain ⟨found, flight, hp⟩ := hone
  intro i j a b d d' hi hj
  have h := (hp.resolved i a d hi).symm.trans (hp.resolved j b d' hj)
  cases h
  rfl

/-! ## Storage that is not there -/

/-- A runtime whose availability probe may fail, without Ed25519. -/
def degradedRuntime : Runtime :=
  ⟨false, false, .dropping 0, .notSupported, true, true, true, fun _ => false⟩

/-- IndexedDB is absent, and these are the random bytes. -/
def noIndexedDB (b : UInt8) : PlatformReply := ⟨0, sampleKey b, some .noIndexedDB, none⟩

/-- What a flight lands with there. -/
def ephemeralIdentity (b : UInt8) : DeviceIdentity :=
  ⟨toBase64url (samplePrimitives.ed25519PublicKey (sampleKey b)).bytes, none, none,
    some (sampleKey b).bytes⟩

/-- A call that joins the flight of another. -/
def joiningCalls : List (Move Agent PlatformReply) :=
  [.start ⟨0, 0⟩, .start ⟨0, 1⟩] ++ List.replicate 8 (.resume 0 (noIndexedDB 1)) ++
    [.resume 1 (noIndexedDB 2)]

theorem joiningCalls_permitted :
    Permitted (getOrCreateDeviceIdentity samplePrimitives degradedRuntime) StartsOnce
      (fresh (page Storage.empty)) joiningCalls := by
  refine .cons (Or.inr (Or.inr ?_)) (.cons (Or.inr (Or.inl (Option.some_ne_none 0))) ?_)
  · rintro i a d ⟨⟩
  · iterate 9 refine .cons trivial ?_
    exact .nil

theorem session_oneIdentity_sample :
    OneIdentity ((fresh (page Storage.empty)).exec
      (getOrCreateDeviceIdentity samplePrimitives degradedRuntime) joiningCalls) :=
  session_oneIdentity samplePrimitives degradedRuntime Storage.empty joiningCalls
    joiningCalls_permitted

/-- One call after the other. -/
def sequentialCalls : List (Move Agent PlatformReply) :=
  .start ⟨0, 0⟩ :: List.replicate 8 (.resume 0 (noIndexedDB 1)) ++
    .start ⟨0, 1⟩ :: List.replicate 8 (.resume 1 (noIndexedDB 2))

/-- Two calls of one session resolve to two identities where IndexedDB is absent. -/
theorem session_twoIdentities :
    ¬ ∀ (env : Runtime) (storage : Storage) (ms : List (Move Agent PlatformReply)),
        OneIdentity ((fresh (page storage)).exec (getOrCreateDeviceIdentity samplePrimitives env)
          ms) := by
  intro h
  have hfirst : ((fresh (page Storage.empty)).exec
      (getOrCreateDeviceIdentity samplePrimitives degradedRuntime) sequentialCalls).calls[0]? =
        some ⟨⟨0, 0⟩, .settled (.ok (ephemeralIdentity 1))⟩ :=
    exec_resolved rfl (by decide +kernel)
  have hsecond : ((fresh (page Storage.empty)).exec
      (getOrCreateDeviceIdentity samplePrimitives degradedRuntime) sequentialCalls).calls[1]? =
        some ⟨⟨0, 1⟩, .settled (.ok (ephemeralIdentity 2))⟩ :=
    exec_resolved rfl (by decide +kernel)
  have heq := h degradedRuntime Storage.empty sequentialCalls 0 1 _ _ _ _ hfirst hsecond
  revert heq
  decide +kernel

end Oxpulse.Identity
