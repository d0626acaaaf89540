import Oxpulse.Identity.FirstFlight
import Oxpulse.Identity.OneFlight

/-!
# One identity in every tab

The tabs of a browser share the storage and the lock; each has the module memory of its
own page. A tab may die between any two segments of its calls: then the lock is let go,
and its calls are never resumed. From whatever the storage may hold at first, every call
that settles, in any tab, resolves to the one identity that the storage holds, and so
does a call of a page that is loaded at any time.
-/

namespace Oxpulse.Identity

open Oxpulse.Coroutine Oxpulse.Crypto Pool

/-! ## The browser -/

/-- What the tabs share, and the module memory of each of them. -/
structure Browser : Type where
  origin : Origin
  sessions : ℕ → Session

namespace Browser

def storage (b : Browser) : Storage := b.origin.storage

def tab (n : ℕ) (b : Browser) : Tab := ⟨b.origin, b.sessions n⟩

def setTab (n : ℕ) (t : Tab) (b : Browser) : Browser :=
  ⟨t.origin, Function.update b.sessions n t.session⟩

/-- The lock of a tab that died is let go. -/
def release (n : ℕ) (b : Browser) : Browser :=
  { b with
    origin := { b.origin with identityLock := b.origin.identityLock.filter fun a => a.tab ≠ n } }

/-- No page was loaded yet. -/
def opened (storage : Storage) : Browser := ⟨⟨storage, none⟩, fun _ => Session.fresh⟩

variable {n m : ℕ} {t t' : Tab} {b : Browser}

@[simp] theorem setTab_sessions_self : (b.setTab n t).sessions n = t.session :=
  Function.update_self ..

theorem setTab_sessions_ne (h : m ≠ n) : (b.setTab n t).sessions m = b.sessions m :=
  Function.update_of_ne h ..

@[simp] theorem tab_setTab (n : ℕ) (t : Tab) (b : Browser) : (b.setTab n t).tab n = t := by
  rw [tab, setTab_sessions_self]
  rfl

theorem tab_setTab_ne (h : m ≠ n) : (b.setTab n t).tab m = ⟨t.origin, b.sessions m⟩ := by
  rw [tab, setTab_sessions_ne h]
  rfl

theorem setTab_setTab (n : ℕ) (t t' : Tab) (b : Browser) :
    (b.setTab n t').setTab n t = b.setTab n t := by
  simp [setTab]

end Browser

abbrev TabPool : Type := Pool Agent PlatformReply Browser IdentityError DeviceIdentity

/-- The calls of every tab, and the tabs that died. -/
structure Tabs : Type where
  pool : TabPool
  dead : List ℕ

/-- One choice of the scheduler: a call in a tab, a segment of a pending call, or the death
of a tab. A page that is loaded anew is a tab of its own. -/
inductive TabMove : Type where
  | call (tab : ℕ)
  | resume (i : ℕ) (r : PlatformReply)
  | die (tab : ℕ)

/-- A call in its tab. -/
def callInTab (P : IdentityPrimitives) (env : Runtime) (a : Agent) :
    Co PlatformReply Browser IdentityError DeviceIdentity :=
  Co.zoom (Browser.tab a.tab) (Browser.setTab a.tab) (getOrCreateDeviceIdentity P env a)

/-- The result of a schedule that resumed the call too early. -/
def tooEarly : Except IdentityError DeviceIdentity → Bool
  | .error .notReady => true
  | _ => false

namespace Tabs

def storage (s : Tabs) : Storage := s.pool.shared.storage

/-- The call waits in a live tab, and what it waits for is there: run to its end, it does
not find that it was resumed too early. -/
def ready (s : Tabs) (i : ℕ) (r : PlatformReply) : Bool :=
  match s.pool.calls[i]? with
  | some ⟨a, .pending k⟩ =>
      decide (a.tab ∉ s.dead) && !tooEarly ((k r s.pool.shared).run r).2
  | _ => false

theorem ready_cases {s : Tabs} {i : ℕ} {r : PlatformReply} (h : s.ready i r = true) :
    ∃ a k, s.pool.calls[i]? = some ⟨a, .pending k⟩ ∧ a.tab ∉ s.dead ∧
      tooEarly ((k r s.pool.shared).run r).2 = false := by
  unfold ready at h
  split at h
  · next a k hi =>
      rw [Bool.and_eq_true, decide_eq_true_eq, Bool.not_eq_true'] at h
      exact ⟨a, k, hi, h.1, h.2⟩
  · cases h

def step (P : IdentityPrimitives) (env : Runtime) (s : Tabs) : TabMove → Tabs
  | .call tab =>
      if tab ∈ s.dead then s
      else { s with pool := s.pool.start (callInTab P env) ⟨tab, s.pool.calls.length⟩ }
  | .resume i r => if s.ready i r then { s with pool := s.pool.resume i r } else s
  | .die tab => ⟨{ s.pool with shared := s.pool.shared.release tab }, tab :: s.dead⟩

def exec (P : IdentityPrimitives) (env : Runtime) (s : Tabs) (ms : List TabMove) : Tabs :=
  ms.foldl (step P env) s

def opened (storage : Storage) : Tabs := ⟨fresh (Browser.opened storage), []⟩

end Tabs

section

variable {P : IdentityPrimitives} {env : Runtime} {me : Agent} {t t' : Tab} {s : Tabs}

/-! ## A flight, from its wait for the lock -/

/-- What a flight does once it is resumed: it takes the lock, or finds that it was resumed
too early. -/
def underLock (P : IdentityPrimitives) (env : Runtime) (me : Agent) : TabCo DeviceIdentity := do
  match (← get).origin.identityLock with
  | some _ => throw .notReady
  | none =>
      modify (Tab.withLock (some me))
      let result ← Co.attempt (getOrCreateDeviceIdentityInner P env)
      let _ ← Co.suspend
      modify (Tab.withLock none)
      Co.ofExcept result

def restOfFlight (P : IdentityPrimitives) (env : Runtime) (me : Agent) (promise : ℕ) :
    TabCo DeviceIdentity := do
  let result ← Co.attempt (underLock P env me)
  let _ ← Co.suspend
  modify (Tab.settlePromise promise result)
  Co.ofExcept result

theorem identityFlight_waits (hlocks : env.locks = true) (n : ℕ) :
    identityFlight P env me n t = .await (t.openPromise n) fun _ => restOfFlight P env me n := by
  unfold identityFlight withIdentityLock restOfFlight underLock
  simp only [hlocks, if_true]
  rfl

/-- A flight that is resumed while another call has the lock was resumed too early. -/
theorem restOfFlight_early {n : ℕ} {r : PlatformReply} (h : t.origin.identityLock ≠ none) :
    tooEarly ((restOfFlight P env me n t).run r).2 = true := by
  have hlock : underLock P env me t = .throw t .notReady := by
    unfold underLock
    show (match t.origin.identityLock with | some _ => _ | none => _ : TabCo DeviceIdentity) t = _
    cases hheld : t.origin.identityLock with
    | none => exact absurd hheld h
    | some a => rfl
  have hrest : restOfFlight P env me n t = .await t fun _ t =>
      .throw (t.settlePromise n (.error .notReady)) .notReady := by
    unfold restOfFlight
    show ((underLock P env me t).attempt).bind _ = _
    rw [hlock]
    rfl
  rw [hrest]
  rfl

/-- What a flight leaves: the identity that the storage holds. -/
def Lands (P : IdentityPrimitives) (t : Tab) (x : Except IdentityError DeviceIdentity) : Prop :=
  Landing P t.storage x

/-- **The rest of a flight**, when the lock is free. -/
theorem restOfFlight_lands {n : ℕ} (laws : AesKwLaws P) (hidentity : Healthy env .identity)
    (hkek : Healthy env .kek) (hlock : t.origin.identityLock = none)
    (hsession : SessionSound P env t.storage t.session) (hsound : StorageSound P t.storage) :
    Co.Triple (Others P env me) (Moves P env me) (Lands P) (restOfFlight P env me n) t := by
  have hG := moves_guarantee P env me
  have hkept : ∀ t t' x, Lands P t x → Others P env me t t' → Lands P t' x :=
    fun _ _ _ hx hR => hR.advance.landing hx
  have hinner : Co.Triple (Others P env me) (Moves P env me) (Lands P) (underLock P env me) t := by
    refine get_bind ?_
    simp only [hlock]
    refine modify_bind hG (moves_lock (Or.inl hlock)) ?_
    have hin : Inside P env me (StorageSound P) (t.withLock (some me)) := ⟨rfl, hsession, hsound⟩
    refine (getOrCreateDeviceIdentityInner_lands laws hidentity hkek hin).attempt_bind hG.trans
      fun t x hx => ?_
    cases x with
    | error e => exact hx.elim
    | ok d =>
        refine suspend_bind hG (inside_stable P env me _).rely hx fun _ t hx => ?_
        exact modify_bind hG (moves_lock (Or.inr hx.lock))
          (Co.Triple.value hG.refl ⟨d, rfl, hx.storage⟩)
  refine hinner.attempt_bind hG.trans fun t x hx => ?_
  refine suspend_bind hG (fun t t' h hR => hkept t t' x h hR) hx fun _ t hx => ?_
  have hsettle : Moves P env me t (t.settlePromise n x) := by
    refine moves_session fun hs => ⟨hs.identity, hs.wrappingKey, hs.supported, hs.available, ?_⟩
    intro m y hm
    rcases set_cases hm with ⟨-, hold⟩ | ⟨-, hnew⟩
    · exact hs.promises m y hold
    · cases hnew
      exact hx
  exact modify_bind hG hsettle (Co.Triple.ofExcept hG.refl hx)

/-! ## The phases of a call -/

/-- **Where a pending call is**: it waits for the promise of its tab or for the lock, or it
is past its wait. -/
inductive CallPhase (P : IdentityPrimitives) (env : Runtime) (me : Agent) (t : Tab)
    (k : PlatformReply → Tab → Outcome PlatformReply Tab IdentityError DeviceIdentity) : Prop where
  | joined (n : ℕ) : (∀ r, k r = Identity.joined n) → CallPhase P env me t k
  | waiting (n : ℕ) : (∀ r, k r = restOfFlight P env me n) → CallPhase P env me t k
  | flying : (∀ r t', Others P env me t t' →
      (k r t').Sat (fun _ => True) (Others P env me) (Moves P env me) (Lands P) t') →
      CallPhase P env me t k

theorem CallPhase.later
    {k : PlatformReply → Tab → Outcome PlatformReply Tab IdentityError DeviceIdentity}
    (h : CallPhase P env me t k) (hR : Others P env me t t') : CallPhase P env me t' k := by
  cases h with
  | joined n hk => exact .joined n hk
  | waiting n hk => exact .waiting n hk
  | flying hk => exact .flying fun r t'' hR' => hk r t'' (hR.trans hR')

/-- **A segment of a call**, from `t`. -/
structure CallSegment (P : IdentityPrimitives) (env : Runtime) (me : Agent) (t : Tab)
    (o : Outcome PlatformReply Tab IdentityError DeviceIdentity) : Prop where
  moves : Moves P env me t o.state
  settles : ∀ x, o.status = .settled x → Lands P o.state x
  waits : ∀ k, o.status = .pending k → CallPhase P env me o.state k

theorem callSegment_sat {o : Outcome PlatformReply Tab IdentityError DeviceIdentity}
    (h : o.Sat (fun _ => True) (Others P env me) (Moves P env me) (Lands P) t) :
    CallSegment P env me t o := by
  obtain ⟨hpending, hsettled⟩ := status_sound (i := 0) (a := me) (R := fun _ => Others P env me)
    (G := fun _ _ => Moves P env me) (Q := fun _ _ => Lands P) h
  exact ⟨h.guarantee, hsettled, fun k hk => .flying (hpending k hk)⟩

/-- **A new call** returns the identity in memory, waits for the flight in the air, or
starts one. -/
theorem getOrCreateDeviceIdentity_segment (hlocks : env.locks = true)
    (hsession : SessionSound P env t.storage t.session) :
    CallSegment P env me t (getOrCreateDeviceIdentity P env me t) := by
  have hG := moves_guarantee P env me
  rcases getOrCreateDeviceIdentity_starts P env me t with
    ⟨d, hcached, hbody⟩ | ⟨n, -, hbody⟩ | ⟨-, -, hbody⟩
  · rw [hbody]
    refine ⟨hG.refl t, ?_, by rintro k ⟨⟩⟩
    rintro x ⟨⟩
    exact ⟨d, rfl, hsession.identity d hcached⟩
  · rw [hbody]
    refine ⟨hG.refl t, by rintro x ⟨⟩, ?_⟩
    rintro k ⟨⟩
    exact .joined n fun _ => rfl
  · rw [hbody, identityFlight_waits hlocks]
    have hopen : Moves P env me t (t.openPromise t.session.identityPromises.length) := by
      refine moves_session fun hs =>
        ⟨hs.identity, hs.wrappingKey, hs.supported, hs.available, fun m x hm => ?_⟩
      rcases concat_cases hm with ⟨-, hold⟩ | ⟨-, hnew⟩
      · exact hs.promises m x hold
      · cases hnew
    refine ⟨hopen, by rintro x ⟨⟩, ?_⟩
    rintro k ⟨⟩
    exact .waiting _ fun _ => rfl

/-- **A call that is resumed in time** goes on. -/
theorem CallPhase.segment
    {k : PlatformReply → Tab → Outcome PlatformReply Tab IdentityError DeviceIdentity}
    {r : PlatformReply} (laws : AesKwLaws P) (hidentity : Healthy env .identity)
    (hkek : Healthy env .kek) (h : CallPhase P env me t k)
    (hready : tooEarly ((k r t).run r).2 = false)
    (hsession : SessionSound P env t.storage t.session) (hsound : StorageSound P t.storage) :
    CallSegment P env me t (k r t) := by
  cases h with
  | joined n hk =>
      have hG := moves_guarantee P env me
      rw [hk] at hready ⊢
      unfold Identity.joined at hready ⊢
      cases hpromise : t.session.identityPromises[n]? with
      | none =>
          rw [hpromise] at hready
          cases hready
      | some promise =>
          cases promise with
          | none =>
              rw [hpromise] at hready
              cases hready
          | some result =>
              obtain ⟨d, rfl, hd⟩ := hsession.promises n result hpromise
              refine ⟨hG.refl t, ?_, by rintro k ⟨⟩⟩
              rintro x ⟨⟩
              exact ⟨d, rfl, hd⟩
  | waiting n hk =>
      rw [hk] at hready ⊢
      have hlock : t.origin.identityLock = none := by
        by_contra hheld
        rw [restOfFlight_early hheld] at hready
        cases hready
      exact callSegment_sat (restOfFlight_lands laws hidentity hkek hlock hsession hsound)
  | flying hk => exact callSegment_sat (hk r t .refl)

/-! ## Every tab -/

/-- A continuation in its tab. -/
abbrev inTab (n : ℕ)
    (k : PlatformReply → Tab → Outcome PlatformReply Tab IdentityError DeviceIdentity) :
    PlatformReply → Browser → Outcome PlatformReply Browser IdentityError DeviceIdentity :=
  fun r b => (k r (b.tab n)).zoom (Browser.tab n) (Browser.setTab n) b

/-- **What holds between the segments**, of the storage, of every session and of every call. -/
structure TabsSound (P : IdentityPrimitives) (env : Runtime) (s : Tabs) : Prop where
  storage : StorageSound P s.storage
  session : ∀ n, SessionSound P env s.storage (s.pool.shared.sessions n)
  numbered : ∀ (i : ℕ) a st, s.pool.calls[i]? = some ⟨a, st⟩ → a.call = i
  settled : ∀ (i : ℕ) a x, s.pool.calls[i]? = some ⟨a, .settled x⟩ → Landing P s.storage x
  pending : ∀ (i : ℕ) a k, s.pool.calls[i]? = some ⟨a, .pending k⟩ → a.tab ∉ s.dead →
    ∃ k', k = inTab a.tab k' ∧ CallPhase P env a (s.pool.shared.tab a.tab) k'

/-- What a segment of one call is for another. -/
theorem Moves.others {b : Browser} {a : Agent} (h : Moves P env me (b.tab me.tab) t)
    (hne : a ≠ me) : Others P env a (b.tab a.tab) ((b.setTab me.tab t).tab a.tab) := by
  by_cases htab : a.tab = me.tab
  · rw [htab, Browser.tab_setTab]
    exact ⟨h.advance, h.session, h.locked a hne⟩
  · rw [Browser.tab_setTab_ne htab]
    exact ⟨h.advance, h.advance.session, h.locked a hne⟩

/-- **A segment of one call** in a sound browser. -/
theorem TabsSound.segment {i : ℕ} {s' : Tabs}
    {o : Outcome PlatformReply Tab IdentityError DeviceIdentity} (hs : TabsSound P env s)
    (hcall : me.call = i) (hsegment : CallSegment P env me (s.pool.shared.tab me.tab) o)
    (hshared : s'.pool.shared = s.pool.shared.setTab me.tab o.state) (hdead : s'.dead = s.dead)
    (hi : s'.pool.calls[i]? = some ⟨me, o.status.zoom (Browser.tab me.tab) (Browser.setTab me.tab)⟩)
    (hothers : ∀ j, i ≠ j → s'.pool.calls[j]? = s.pool.calls[j]?) :
    TabsSound P env s' ∧ Advance P s.storage s'.storage := by
  have hstorage : s'.storage = o.state.storage := congrArg Browser.storage hshared
  have hadvance : Advance P s.storage s'.storage := hstorage ▸ hsegment.moves.advance
  refine ⟨⟨hadvance.sound hs.storage, fun n => ?_, ?_, ?_, ?_⟩, hadvance⟩
  · rw [hshared, hstorage]
    by_cases hn : n = me.tab
    · subst hn
      rw [Browser.setTab_sessions_self]
      exact hsegment.moves.session (hs.session me.tab)
    · rw [Browser.setTab_sessions_ne hn]
      exact hsegment.moves.advance.session (hs.session n)
  · intro j a st hj
    by_cases hij : i = j
    · subst hij
      rw [hi] at hj
      cases hj
      exact hcall
    · exact hs.numbered j a st ((hothers j hij).symm.trans hj)
  · intro j a x hj
    by_cases hij : i = j
    · subst hij
      rw [hi] at hj
      injection hj with hj
      injection hj with ha hstatus
      cases hst : o.status with
      | pending k =>
          rw [hst] at hstatus
          cases hstatus
      | settled y =>
          rw [hst] at hstatus
          cases hstatus
          exact hstorage ▸ hsegment.settles x hst
    · exact hadvance.landing (hs.settled j a x ((hothers j hij).symm.trans hj))
  · intro j a k hj hlive
    rw [hdead] at hlive
    by_cases hij : i = j
    · subst hij
      rw [hi] at hj
      injection hj with hj
      injection hj with ha hstatus
      subst ha
      cases hst : o.status with
      | pending k' =>
          rw [hst] at hstatus
          cases hstatus
          refine ⟨k', rfl, ?_⟩
          rw [hshared, Browser.tab_setTab]
          exact hsegment.waits k' hst
      | settled y =>
          rw [hst] at hstatus
          cases hstatus
    · rw [hothers j hij] at hj
      obtain ⟨k', rfl, hphase⟩ := hs.pending j a k hj hlive
      refine ⟨k', rfl, ?_⟩
      rw [hshared]
      refine hphase.later (hsegment.moves.others ?_)
      rintro rfl
      exact hij (hcall.symm.trans (hs.numbered j _ _ hj))

/-- The death of a tab. -/
theorem TabsSound.die (hs : TabsSound P env s) (n : ℕ) :
    TabsSound P env (s.step P env (.die n)) := by
  refine ⟨hs.storage, hs.session, hs.numbered, hs.settled, fun i a k hi hlive => ?_⟩
  have hne : a.tab ≠ n := fun h => hlive (h ▸ List.mem_cons_self)
  obtain ⟨k', hk, hphase⟩ := hs.pending i a k hi fun h => hlive (List.mem_cons_of_mem n h)
  refine ⟨k', hk, hphase.later ⟨.refl, fun h => h, fun hlock => ?_⟩⟩
  have hkept : (s.pool.shared.origin.identityLock.filter fun a => a.tab ≠ n) =
      s.pool.shared.origin.identityLock := by
    rw [show s.pool.shared.origin.identityLock = some a from hlock]
    simp [hne]
  show ({ s.pool.shared.origin with identityLock := _ } : Origin) = s.pool.shared.origin
  rw [hkept]

theorem TabsSound.step (laws : AesKwLaws P) (hidentity : Healthy env .identity)
    (hkek : Healthy env .kek) (hlocks : env.locks = true) (hs : TabsSound P env s) (m : TabMove) :
    TabsSound P env (s.step P env m) ∧ Advance P s.storage (s.step P env m).storage := by
  cases m with
  | die n => exact ⟨hs.die n, .refl⟩
  | call n =>
      by_cases hdead : n ∈ s.dead
      · rw [show s.step P env (.call n) = s from if_pos hdead]
        exact ⟨hs, .refl⟩
      · rw [show s.step P env (.call n) = _ from if_neg hdead]
        have hcall : (⟨n, s.pool.calls.length⟩ : Agent).call = s.pool.calls.length := rfl
        refine hs.segment hcall (getOrCreateDeviceIdentity_segment hlocks (hs.session n)) ?_ rfl ?_
          fun j hne => concat_ne hne
        · exact Outcome.state_zoom _ _
        · refine List.getElem?_concat_length.trans ?_
          rw [callInTab, Co.zoom, Outcome.status_zoom]
  | resume i r =>
      cases hready : s.ready i r with
      | false =>
          rw [show s.step P env (.resume i r) = s from if_neg (by rw [hready]; decide)]
          exact ⟨hs, .refl⟩
      | true =>
          rw [show s.step P env (.resume i r) = _ from if_pos hready]
          obtain ⟨a, k, hi, hlive, hearly⟩ := Tabs.ready_cases hready
          obtain ⟨k', rfl, hphase⟩ := hs.pending i a k hi hlive
          rw [Outcome.run_zoom (fun t b => Browser.tab_setTab a.tab t b)
            (fun t t' b => Browser.setTab_setTab a.tab t t' b)] at hearly
          have hlt : i < s.pool.calls.length := (List.getElem?_eq_some_iff.mp hi).1
          refine hs.segment (hs.numbered i a _ hi)
            (hphase.segment laws hidentity hkek hearly (hs.session a.tab) hs.storage) ?_ rfl ?_ ?_
          · show (s.pool.resume i r).shared = _
            rw [resume_of_pending hi]
            exact Outcome.state_zoom _ _
          · show (s.pool.resume i r).calls[i]? = _
            rw [resume_of_pending hi, List.getElem?_set_self hlt, Outcome.status_zoom]
          · exact fun j hne => resume_ne hne r

theorem TabsSound.exec (laws : AesKwLaws P) (hidentity : Healthy env .identity)
    (hkek : Healthy env .kek) (hlocks : env.locks = true) (ms : List TabMove)
    (hs : TabsSound P env s) :
    TabsSound P env (s.exec P env ms) ∧ Advance P s.storage (s.exec P env ms).storage := by
  induction ms generalizing s with
  | nil => exact ⟨hs, .refl⟩
  | cons m ms ih =>
      obtain ⟨hstep, hadvance⟩ := hs.step laws hidentity hkek hlocks m
      obtain ⟨hrest, hadvance'⟩ := ih hstep
      exact ⟨hrest, hadvance.trans hadvance'⟩

/-- A page that was just loaded agrees with any storage. -/
theorem sessionSound_fresh (P : IdentityPrimitives) (env : Runtime) (storage : Storage) :
    SessionSound P env storage Session.fresh := by
  refine ⟨?_, ?_, ?_, fun _ => ?_, ?_⟩
  · rintro d ⟨⟩
  · rintro key ⟨⟩
  · rintro b ⟨⟩
  · rintro c ⟨⟩
  · rintro n x ⟨⟩

theorem opened_sound {storage : Storage} (h : StorageSound P storage) :
    TabsSound P env (Tabs.opened storage) := by
  refine ⟨h, fun _ => sessionSound_fresh P env storage, ?_, ?_, ?_⟩
  · rintro i a st ⟨⟩
  · rintro i a x ⟨⟩
  · rintro i a k ⟨⟩

/-- **A page that is loaded** at any time resolves to an identity that is held then. -/
theorem page_lands {storage : Storage} (laws : AesKwLaws P) (hidentity : Healthy env .identity)
    (hkek : Healthy env .kek) (hlocks : env.locks = true) (h : StorageSound P storage) (me : Agent)
    (r : PlatformReply) :
    Advance P storage ((getOrCreateDeviceIdentity P env me).run r (page storage)).1.storage ∧
      Lands P ((getOrCreateDeviceIdentity P env me).run r (page storage)).1
        ((getOrCreateDeviceIdentity P env me).run r (page storage)).2 := by
  have hwaits : getOrCreateDeviceIdentity P env me (page storage) =
      .await ((page storage).openPromise 0) fun _ => restOfFlight P env me 0 :=
    identityFlight_waits hlocks 0
  have hrun : (getOrCreateDeviceIdentity P env me).run r (page storage) =
      (restOfFlight P env me 0 ((page storage).openPromise 0)).run r := by
    rw [Co.run, hwaits]
    rfl
  have hsession : SessionSound P env storage ((page storage).openPromise 0).session := by
    have hfresh := sessionSound_fresh P env storage
    refine ⟨hfresh.identity, hfresh.wrappingKey, hfresh.supported, hfresh.available,
      fun n x hn => ?_⟩
    rcases concat_cases hn with ⟨-, hold⟩ | ⟨-, hnew⟩
    · cases hold
    · cases hnew
  have hrest : Co.Triple (Others P env me) (Moves P env me) (Lands P) (restOfFlight P env me 0)
      ((page storage).openPromise 0) := restOfFlight_lands laws hidentity hkek rfl hsession h
  have hkept := hrest.keeps (fun t => Advance P storage t.storage)
    (fun _ _ hs hG => hs.trans hG.advance) (fun _ _ hs hR => hs.trans hR.advance) .refl
  rw [hrun]
  exact hkept.run (fun _ => .refl) r

/-- The rows of a pair stay as they are. -/
theorem Advance.pair {storage storage' : Storage} {kek : Bytes} {seed : Key32}
    {stored : StoredIdentity} (h : Advance P storage storage') (hsound : StorageSound P storage)
    (hpair : Pair P kek seed stored storage) : Pair P kek seed stored storage' := by
  cases hsound with
  | blank hnone _ _ =>
      rw [hpair.deviceKey] at hnone
      cases hnone
  | keyed key _ hunpaired => exact absurd hpair hunpaired.not_pair
  | identity key seed' stored' hat =>
      have hkept := h.identity key seed' stored' hat
      exact ⟨hpair.record,
        hkept.pair.deviceKey.trans (hat.pair.deviceKey.symm.trans hpair.deviceKey),
        hkept.pair.devicePrivRaw.trans (hat.pair.devicePrivRaw.symm.trans hpair.devicePrivRaw)⟩

end

/-! ## One identity -/

/-- Two identities are one: the public key and the seed agree. -/
def SameIdentity (d d' : DeviceIdentity) : Prop :=
  d.publicKeyB64 = d'.publicKeyB64 ∧ d.privateKeySeed = d'.privateKeySeed

/-- **One identity, everywhere.** Every call that settled resolved to an identity that the
storage holds, and these are one; a page that is loaded now resolves, to the same one. -/
structure OneEverywhere (P : IdentityPrimitives) (env : Runtime) (s : Tabs) : Prop where
  resolved : ∀ (i : ℕ) a x, s.pool.calls[i]? = some ⟨a, .settled x⟩ →
    ∃ d, x = .ok d ∧ Held P s.storage d
  one : ∀ (i j : ℕ) a b d d', s.pool.calls[i]? = some ⟨a, .settled (.ok d)⟩ →
    s.pool.calls[j]? = some ⟨b, .settled (.ok d')⟩ → SameIdentity d d'
  restarts : ∀ me r, ∃ d,
    ((getOrCreateDeviceIdentity P env me).run r (page s.storage)).2 = .ok d ∧
      Held P ((getOrCreateDeviceIdentity P env me).run r (page s.storage)).1.storage d ∧
      ∀ (i : ℕ) a d', s.pool.calls[i]? = some ⟨a, .settled (.ok d')⟩ → SameIdentity d d'

/-- **One identity across tabs and crashes.** From an empty storage, one with a wrapping key
or a record without a raw seed, or a matching pair: whatever the tabs do and whenever they
die, every call that settles resolves to the identity that the storage holds, a page that
is loaded at any time does too, and a matching pair is never replaced. -/
theorem tabs_oneIdentity {P : IdentityPrimitives} {env : Runtime} {storage : Storage}
    (laws : AesKwLaws P) (hidentity : Healthy env .identity) (hkek : Healthy env .kek)
    (hlocks : env.locks = true) (h : StorageSound P storage) (ms : List TabMove) :
    OneEverywhere P env ((Tabs.opened storage).exec P env ms) ∧
      ∀ ms' kek seed stored, Pair P kek seed stored ((Tabs.opened storage).exec P env ms).storage →
        Pair P kek seed stored ((Tabs.opened storage).exec P env (ms ++ ms')).storage := by
  have hopened : TabsSound P env (Tabs.opened storage) := opened_sound h
  obtain ⟨hs, -⟩ := hopened.exec laws hidentity hkek hlocks ms
  refine ⟨⟨hs.settled, ?_, ?_⟩, ?_⟩
  · intro i j a b d d' hi hj
    obtain ⟨_, ⟨⟩, hd⟩ := hs.settled i a _ hi
    obtain ⟨_, ⟨⟩, hd'⟩ := hs.settled j b _ hj
    exact hd.agree laws hd'
  · intro me r
    obtain ⟨hadvance, d, hd, hheld⟩ := page_lands laws hidentity hkek hlocks hs.storage me r
    refine ⟨d, hd, hheld, fun i a d' hi => ?_⟩
    obtain ⟨_, ⟨⟩, hd'⟩ := hs.settled i a _ hi
    exact hheld.agree laws (hadvance.held hd')
  · intro ms' kek seed stored hpair
    rw [Tabs.exec, List.foldl_append]
    exact (hs.exec laws hidentity hkek hlocks ms').2.pair hs.storage hpair

/-! ## A device with a record of the old layout -/

/-- A runtime with everything, over storage that works. -/
def browserRuntime : Runtime :=
  ⟨true, true, .dropping 0, .notSupported, true, true, false, fun _ => false⟩

/-- A record without a raw seed, under a key that only the old layout has. -/
def seedlessStorage : Storage :=
  { Storage.empty with
    deviceKey := some
      ⟨toBase64url (samplePrimitives.ed25519PublicKey (sampleKey 7)).bytes,
        samplePrimitives.aesKwWrap (sampleKey 1).bytes (ED25519_PKCS8_PREFIX ++ (sampleKey 7).bytes)⟩
    legacyWrappingKey := some (.arrayBuffer (sampleKey 1).bytes) }

theorem seedlessStorage_sound : StorageSound samplePrimitives seedlessStorage :=
  .keyed (aesKwKey false (sampleKey 1).bytes)
    (Or.inr ⟨rfl, _, rfl, (holds_generated (sampleKey 1)).1⟩)
    (Or.inr ⟨rfl, sampleKey 7, _, rfl, Or.inr rfl, fromBase64url_toBase64url _⟩)

/-- The first tab dies in the middle of its flight, and the second one takes over. -/
def takesOver : List TabMove :=
  [.call 0, .call 1] ++ List.replicate 6 (.resume 0 ⟨0, sampleKey 3, none, none⟩) ++
    .die 0 :: List.replicate 46 (.resume 1 ⟨0, sampleKey 4, none, none⟩)

theorem tabs_oneIdentity_sample :
    OneEverywhere samplePrimitives browserRuntime
        ((Tabs.opened seedlessStorage).exec samplePrimitives browserRuntime takesOver) ∧
      ∀ ms' kek seed stored, Pair samplePrimitives kek seed stored
          ((Tabs.opened seedlessStorage).exec samplePrimitives browserRuntime takesOver).storage →
        Pair samplePrimitives kek seed stored ((Tabs.opened seedlessStorage).exec samplePrimitives
          browserRuntime (takesOver ++ ms')).storage :=
  tabs_oneIdentity samplePrimitives_laws ⟨rfl, rfl⟩ ⟨rfl, rfl⟩ rfl seedlessStorage_sound takesOver

example : ((((Tabs.opened seedlessStorage).exec samplePrimitives browserRuntime
    takesOver).pool.calls[1]?.bind fun c => c.status.value?).map
      DeviceIdentity.privateKeySeed) = some (some (sampleKey 4).bytes) := by
  decide +kernel

end Oxpulse.Identity
