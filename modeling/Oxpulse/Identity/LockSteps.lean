import Oxpulse.Identity.PairSteps

/-!
# The lock and the in-flight promise

What a call of `getOrCreateDeviceIdentity` ends in is what its inner sequence ends
in, under the lock: the lock and the promise wrap a triple of the inner sequence
into one of the call.
-/

namespace Oxpulse.Identity

open Oxpulse.Coroutine Oxpulse.Crypto

/-- A page that was just loaded over this storage. -/
def page (storage : Storage) : Tab := ⟨⟨storage, none⟩, Session.fresh⟩

namespace Tab

def withLock (lock : Option Agent) (t : Tab) : Tab :=
  { t with origin := { t.origin with identityLock := lock } }

@[simp] theorem withLock_storage (lock : Option Agent) (t : Tab) :
    (t.withLock lock).storage = t.storage := rfl

@[simp] theorem withLock_session (lock : Option Agent) (t : Tab) :
    (t.withLock lock).session = t.session := rfl

@[simp] theorem withLock_lock (lock : Option Agent) (t : Tab) :
    (t.withLock lock).origin.identityLock = lock := rfl

/-- The slot is taken, and its promise is pending. -/
def openPromise (promise : ℕ) (t : Tab) : Tab :=
  t.withSession fun s =>
    { s with inflightIdentity := some promise, identityPromises := s.identityPromises ++ [none] }

/-- The promise settles, and the slot is free. -/
def settlePromise (promise : ℕ) (x : Except IdentityError DeviceIdentity) (t : Tab) : Tab :=
  t.withSession fun s =>
    { s with
      inflightIdentity := none
      identityPromises := s.identityPromises.set promise (some x) }

end Tab

section

variable {P : IdentityPrimitives} {env : Runtime} {R G : Tab → Tab → Prop} {t : Tab} {α : Type}
  {me : Agent}

/-- **Under the lock.** The call waits in `J`, holds the lock in `Jin`, and leaves
what the inner sequence left. -/
theorem withIdentityLock_triple {J Jin : Tab → Prop} {Qin Q : Tab → Except IdentityError α → Prop}
    {fn : TabCo α} (hG : Guarantee env G) (hJ : ∀ t t', J t → R t t' → J t')
    (hearly : ∀ t, J t → t.origin.identityLock ≠ none → Q t (.error .notReady))
    (hlock : ∀ t, J t → t.origin.identityLock = none →
      G t (t.withLock (some me)) ∧ Jin (t.withLock (some me)))
    (hfn : ∀ t, Jin t → Co.Triple R G Qin fn t)
    (hQin : ∀ t t' x, Qin t x → R t t' → Qin t' x)
    (hunlock : ∀ t x, Qin t x → G t (t.withLock none) ∧ Q (t.withLock none) x)
    (hnone : env.locks = false → ∀ t, J t → Co.Triple R G Q fn t) (ht : J t) :
    Co.Triple R G Q (withIdentityLock env me fn) t := by
  unfold withIdentityLock
  cases hlocks : env.locks with
  | false => exact hnone hlocks t ht
  | true =>
      simp only [if_true]
      refine suspend_bind hG hJ ht fun _ t ht => get_bind ?_
      cases hfree : t.origin.identityLock with
      | some holder =>
          exact Co.Triple.raise hG.refl (hearly t ht (by rw [hfree]; exact Option.some_ne_none _))
      | none =>
          obtain ⟨hGt, hin⟩ := hlock t ht hfree
          refine modify_bind hG hGt ?_
          refine (hfn _ hin).attempt_bind hG.trans fun t x hx => ?_
          refine suspend_bind hG (fun t t' h hR => hQin t t' x h hR) hx fun _ t hx => ?_
          obtain ⟨hGt, hQ⟩ := hunlock t x hx
          exact modify_bind hG hGt (Co.Triple.ofExcept hG.refl hQ)

/-- **The flight behind a promise.** -/
theorem identityFlight_triple {promise : ℕ} {J : Tab → Prop}
    {Qin Q : Tab → Except IdentityError DeviceIdentity → Prop} (hG : Guarantee env G)
    (hopen : G t (t.openPromise promise) ∧ J (t.openPromise promise))
    (hinner : ∀ t, J t → Co.Triple R G Qin
      (withIdentityLock env me (getOrCreateDeviceIdentityInner P env)) t)
    (hQin : ∀ t t' x, Qin t x → R t t' → Qin t' x)
    (hsettle : ∀ t x, Qin t x → G t (t.settlePromise promise x) ∧ Q (t.settlePromise promise x) x) :
    Co.Triple R G Q (identityFlight P env me promise) t := by
  refine modify_bind hG hopen.1 ?_
  refine (hinner _ hopen.2).attempt_bind hG.trans fun t x hx => ?_
  refine suspend_bind hG (fun t t' h hR => hQin t t' x h hR) hx fun _ t hx => ?_
  obtain ⟨hGt, hQ⟩ := hsettle t x hx
  exact modify_bind hG hGt (Co.Triple.ofExcept hG.refl hQ)

/-- **A call on its own**, that finds neither an identity in memory nor a flight: it
ends in what its inner sequence ends in, under the lock or without it. -/
theorem getOrCreateDeviceIdentity_alone (J : Option Agent → Tab → Prop)
    (Qin : Option Agent → Tab → Except IdentityError DeviceIdentity → Prop)
    {Q : Tab → Except IdentityError DeviceIdentity → Prop} (hG : Guarantee env G)
    (hsession : ∀ t t', t'.storage = t.storage → G t t')
    (hidentity : t.session.cachedIdentity = none) (hinflight : t.session.inflightIdentity = none)
    (hopen : J none (t.openPromise t.session.identityPromises.length))
    (hfree : ∀ t, J none t → t.origin.identityLock = none)
    (hlock : ∀ t, J none t → J (some me) (t.withLock (some me)))
    (hinner : ∀ lock t, J lock t →
      Co.Triple (fun t t' => t' = t) G (Qin lock) (getOrCreateDeviceIdentityInner P env) t)
    (hunlock : ∀ t x, Qin (some me) t x → Qin none (t.withLock none) x)
    (hsettle : ∀ t x, Qin none t x → ∀ promise, Q (t.settlePromise promise x) x) :
    Co.Triple (fun t t' => t' = t) G Q (getOrCreateDeviceIdentity P env me) t := by
  have hstable : ∀ (Q : Tab → Except IdentityError DeviceIdentity → Prop) t t' x,
      Q t x → t' = t → Q t' x := by
    rintro Q t t' x hx rfl
    exact hx
  refine get_bind ?_
  simp only [hidentity, hinflight]
  refine identityFlight_triple hG ⟨hsession _ _ rfl, hopen⟩ (fun t ht => ?_) (hstable (Qin none))
    fun t x hx => ⟨hsession _ _ rfl, hsettle t x hx _⟩
  refine withIdentityLock_triple hG ?_ ?_ (fun t ht hnone => ⟨hsession _ _ rfl, hlock t ht⟩)
    (hinner (some me)) (hstable _) (fun t x hx => ⟨hsession _ _ rfl, hunlock t x hx⟩)
    (fun _ => hinner none) ht
  · rintro t t' ht rfl
    exact ht
  · intro t ht hheld
    exact absurd (hfree t ht) hheld

end

end Oxpulse.Identity
