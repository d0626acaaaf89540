import Oxpulse.Foundation.Phases
import Oxpulse.Identity.IdentityCalls

/-!
# The calls of one tab

The device identity, the Noise keypair, the X25519 operation, the wipe and the restore,
interleaved in one tab. When a wipe or a restore runs alone and two calls for a keypair
do not overlap before there is one, what a call resolves with is in memory, and it stays
there until the next wipe or restore.
-/

namespace Oxpulse.Identity

open Oxpulse.Coroutine Oxpulse.Crypto Pool

section

variable (P : IdentityPrimitives) (env : Runtime) (dh : Bytes → Bytes → Except IdentityError Bytes)

/-- `dh` is X25519 of a private and a public key, the same in WebCrypto and in
`@noble/curves`. -/
def dhX25519 (remotePub : Bytes) : TabCo Bytes := do
  let kp ← Co.await (getOrCreateX25519Keypair P env)
  match kp.privateKey with
  | none =>
      match (← get).session.cachedX25519Keypair.bind X25519KeypairCache.privateKeySeed with
      | some privateKeySeed => Co.ofExcept (dh privateKeySeed remotePub)
      | none => throw (.error "[identity] dhX25519: no X25519 private key available")
  | some privateKey =>
      let remoteCryptoKey ← importPublicKey env.x25519 remotePub
      let _ ← Co.suspend
      Co.ofExcept (dh privateKey remoteCryptoKey)

/-! ## The calls -/

inductive DeviceCall : Type where
  | getOrCreateDeviceIdentity (me : Agent)
  | getOrCreateX25519Keypair
  | dhX25519 (remotePub : Bytes)
  | clearDeviceIdentity
  | replaceDeviceIdentity (secret : Bytes) (publicB64u : List Char)

inductive DeviceResult : Type where
  | identity (d : DeviceIdentity)
  | keypair (kp : X25519KeypairCache)
  | shared (bits : Bytes)
  | done
deriving DecidableEq

def deviceCall : DeviceCall → TabCo DeviceResult
  | .getOrCreateDeviceIdentity me => .identity <$> getOrCreateDeviceIdentity P env me
  | .getOrCreateX25519Keypair => .keypair <$> getOrCreateX25519Keypair P env
  | .dhX25519 remotePub => .shared <$> dhX25519 P env dh remotePub
  | .clearDeviceIdentity => (fun _ => .done) <$> clearDeviceIdentity env
  | .replaceDeviceIdentity secret publicB64u =>
      (fun _ => .done) <$> replaceDeviceIdentity P env secret publicB64u

end

abbrev DevicePool : Type := Pool DeviceCall PlatformReply Tab IdentityError DeviceResult

/-- What a call is about: the identity, the keypair, or another identity. -/
inductive CallKind : Type where
  | identity | keypair | change
deriving DecidableEq

def DeviceCall.kind : DeviceCall → CallKind
  | .getOrCreateDeviceIdentity _ => .identity
  | .getOrCreateX25519Keypair => .keypair
  | .dhX25519 _ => .keypair
  | .clearDeviceIdentity => .change
  | .replaceDeviceIdentity _ _ => .change

/-- A call of this kind has not settled yet. -/
def UnderWay (kind : CallKind) (p : DevicePool) : Prop := ∃ i, p.Pending DeviceCall.kind kind i

theorem underWay_iff {kind : CallKind} {p : DevicePool} :
    UnderWay kind p ↔ ∃ c ∈ p.calls, c.status.isPending = true ∧ c.arg.kind = kind := by
  constructor
  · rintro ⟨i, a, k, hi, hkind⟩
    exact ⟨⟨a, .pending k⟩, List.mem_of_getElem? hi, rfl, hkind⟩
  · rintro ⟨⟨a, st⟩, hc, hst, hkind⟩
    obtain ⟨i, hi⟩ := List.mem_iff_getElem?.mp hc
    cases st with
    | pending k => exact ⟨i, a, k, hi, hkind⟩
    | settled x => cases hst

instance (kind : CallKind) (p : DevicePool) : Decidable (UnderWay kind p) :=
  decidable_of_iff _ underWay_iff.symm

abbrev DeviceOutcome : Type := Outcome PlatformReply Tab IdentityError DeviceResult

/-- What a call told its caller is in memory. -/
def Told (t : Tab) : DeviceCall → Except IdentityError DeviceResult → Prop
  | .getOrCreateDeviceIdentity _, .ok (.identity d) => t.session.cachedIdentity = some d
  | .getOrCreateX25519Keypair, .ok (.keypair kp) => t.session.cachedX25519Keypair = some kp
  | _, _ => True

/-- The identity in memory stays, and with it the keypair. -/
def Retains (t t' : Tab) : Prop :=
  ∀ d, t.session.cachedIdentity = some d → t'.session.cachedIdentity = some d ∧
    ∀ kp, t.session.cachedX25519Keypair = some kp → t'.session.cachedX25519Keypair = some kp

section

variable {P : IdentityPrimitives} {env : Runtime} {dh : Bytes → Bytes → Except IdentityError Bytes}
  {t t' : Tab} {remotePub : Bytes}

/-! ## One call -/

section

variable {α β : Type} {I : Tab → Prop} {R G : Tab → Tab → Prop}
  {Q : Tab → Except IdentityError α → Prop} {Q' : Tab → Except IdentityError β → Prop}

/-- A result that is wrapped. -/
theorem map_sat {f : α → β} (hQ : ∀ t x, Q t x → Q' t (f <$> x)) :
    ∀ {o : Outcome PlatformReply Tab IdentityError α} {t : Tab}, o.Sat I R G Q t →
      (o.bind fun a t => .ret t (f a)).Sat I R G Q' t
  | .ret t _, _, h => ⟨h.1, hQ t _ h.2⟩
  | .throw t _, _, h => ⟨h.1, hQ t _ h.2⟩
  | .await _ _, _, h => ⟨h.1, h.2.1, fun r t' hI hR => map_sat hQ (h.2.2 r t' hI hR)⟩

end

theorem getOrCreateX25519Keypair_told (laws : AesKwLaws P) (ht : KeypairKnows P env Unread t) :
    (deviceCall P env dh .getOrCreateX25519Keypair t).Sat (fun _ => True) (KeypairRely P env)
      (KeypairGives P env) (fun t => Told t .getOrCreateX25519Keypair) t := by
  refine map_sat ?_ (getOrCreateX25519Keypair_caches laws ht)
  intro t x hx
  cases x with
  | ok kp => exact hx kp rfl
  | error e => trivial

theorem dhX25519_told (laws : AesKwLaws P) (ht : KeypairKnows P env Unread t) :
    (deviceCall P env dh (.dhX25519 remotePub) t).Sat (fun _ => True) (KeypairRely P env)
      (KeypairGives P env) (fun t => Told t (.dhX25519 remotePub)) t := by
  have hG := keypairGives_guarantee P env
  have hany : ∀ {α : Type} {x : Except IdentityError α} {t : Tab},
      Co.Triple (KeypairRely P env) (KeypairGives P env) (fun _ _ => True)
        (Co.ofExcept x : TabCo α) t :=
    Co.Triple.ofExcept hG.refl trivial
  have hkeypair : Co.Triple (KeypairRely P env) (KeypairGives P env) (fun _ _ => True)
      (Co.await (getOrCreateX25519Keypair P env)) t :=
    Co.Triple.await hG.refl (fun _ _ _ h _ => h)
      ((getOrCreateX25519Keypair_caches laws ht).mono fun _ _ _ => trivial)
  have hdh : Co.Triple (KeypairRely P env) (KeypairGives P env) (fun _ _ => True)
      (dhX25519 P env dh remotePub) t := by
    refine hkeypair.bind hG.trans (fun t kp _ => ?_) fun _ _ h => h
    cases kp.privateKey with
    | none =>
        refine get_bind ?_
        cases t.session.cachedX25519Keypair.bind X25519KeypairCache.privateKeySeed with
        | none => exact Co.Triple.raise hG.refl trivial
        | some privateKeySeed => exact hany
    | some privateKey =>
        refine importPublicKey_evaluates.bind_triple hG (J := fun _ => True) (fun _ _ h _ => h)
          trivial (fun remoteCryptoKey t _ _ => ?_) fun _ _ _ _ => trivial
        exact suspend_bind hG (J := fun _ => True) (fun _ _ h _ => h) trivial fun _ _ _ => hany
  refine map_sat ?_ hdh
  intro t x _
  cases x <;> trivial

/-- **A held keypair.** The operation is the one of its scalar. -/
theorem dhX25519_held {row : StoredX25519Keypair} {scalar remotePub : Key32}
    (hcached : t.session.cachedX25519Keypair = some (heldKeypair env row scalar)) :
    Co.Triple Alone Anything (fun _ x => x = dh scalar.bytes remotePub.bytes)
      (dhX25519 P env dh remotePub.bytes) t := by
  have hG := anything_guarantee env
  have hsame : ∀ {Q : Tab → Except IdentityError X25519KeypairCache → Prop} t t' x,
      Q t x → Alone t t' → Q t' x := by
    rintro Q t t' x hx rfl
    exact hx
  have hkeypair : Co.Triple Alone Anything
      (fun t' x => t' = t ∧ x = .ok (heldKeypair env row scalar))
      (Co.await (getOrCreateX25519Keypair P env)) t := by
    refine Co.Triple.await hG.refl hsame ?_
    unfold getOrCreateX25519Keypair remembered
    refine get_bind ?_
    simp only [hcached]
    exact Co.Triple.value hG.refl ⟨rfl, rfl⟩
  refine hkeypair.bind hG.trans ?_ ?_
  · rintro t' kp ⟨rfl, h⟩
    cases h
    by_cases hheld : env.x25519 = true ∧ row.wrappedPrivateKey ≠ []
    · simp only [heldKeypair, if_pos hheld]
      refine importPublicKey_evaluates.bind_triple hG (J := fun _ => True) (fun _ _ h _ => h)
        trivial ?_ ?_
      · intro remoteCryptoKey t h _
        rw [hheld.1, if_pos remotePub.size] at h
        cases h
        exact suspend_bind hG (J := fun _ => True) (fun _ _ h _ => h) trivial fun _ _ _ =>
          Co.Triple.ofExcept hG.refl rfl
      · intro e t h _
        rw [hheld.1, if_pos remotePub.size] at h
        cases h
    · rw [heldKeypair, if_neg hheld] at hcached
      simp only [heldKeypair, if_neg hheld]
      refine get_bind ?_
      simp only [hcached]
      exact Co.Triple.ofExcept hG.refl rfl
  · rintro t' e ⟨-, h⟩
    cases h

/-! ## The calls together -/

/-- **What is known of a pending call.** `flight` is the call whose flight is in the air,
with its promise; promises before `base` are those of a device identity that was wiped. -/
inductive PendingOk (P : IdentityPrimitives) (env : Runtime) (base : ℕ) (flight : Option (ℕ × ℕ))
    (p : DevicePool) (i : ℕ) : DeviceCall → (PlatformReply → Tab → DeviceOutcome) → Prop where
  | flying (me : Agent) (n : ℕ) (k : PlatformReply → Tab → DeviceOutcome) :
      flight = some (i, n) →
      (∀ r t, t.session.inflightIdentity = some n → FlightRely env p.shared t →
        (k r t).Sat (fun t => t.session.inflightIdentity = some n) (FlightRely env)
          (FlightGives P env base)
          (fun t x => t.session.inflightIdentity = none ∧ Told t (.getOrCreateDeviceIdentity me) x)
          t) →
      PendingOk P env base flight p i (.getOrCreateDeviceIdentity me) k
  | joined (me : Agent) (n : ℕ) : (∀ m, flight ≠ some (i, m)) → base ≤ n →
      PendingOk P env base flight p i (.getOrCreateDeviceIdentity me)
        fun _ t => (joined n t).bind fun d t => .ret t (.identity d)
  | keypair (a : DeviceCall) (k : PlatformReply → Tab → DeviceOutcome) : a.kind = .keypair →
      p.shared.session.cachedIdentity ≠ none →
      (∀ r t, KeypairRely P env p.shared t → (k r t).Sat (fun _ => True) (KeypairRely P env)
        (KeypairGives P env) (fun t => Told t a) t) →
      PendingOk P env base flight p i a k
  | changing (a : DeviceCall) (k : PlatformReply → Tab → DeviceOutcome) : a.kind = .change →
      (∀ kind j, i ≠ j → ¬ p.Pending DeviceCall.kind kind j) →
      (∀ r, (k r p.shared).Sat (fun _ => True) Alone (GroundedStep P env) (fun _ _ => True)
        p.shared) →
      PendingOk P env base flight p i a k

/-- **What holds between the segments.** -/
structure DeviceOk (P : IdentityPrimitives) (env : Runtime) (base : ℕ) (flight : Option (ℕ × ℕ))
    (p : DevicePool) : Prop where
  available : p.shared.Available env
  agrees : KeypairAgrees P env p.shared
  promised : PromisesHeld base p.shared
  since : base ≤ p.shared.session.identityPromises.length
  slot : p.shared.session.inflightIdentity = flight.map Prod.snd
  flying : ∀ i n, flight = some (i, n) → base ≤ n ∧ p.Pending DeviceCall.kind .identity i
  pending : ∀ (i : ℕ) a k, p.calls[i]? = some ⟨a, .pending k⟩ →
    PendingOk P env base flight p i a k
  one : ¬ HasRow env p.shared.storage → ∀ i j, p.Pending DeviceCall.kind .keypair i →
    p.Pending DeviceCall.kind .keypair j → i = j

/-- A segment of call `i`, which ended in `o`. -/
structure Took (p p' : DevicePool) (i : ℕ) (a : DeviceCall) (o : DeviceOutcome) : Prop where
  shared : p'.shared = o.state
  call : p'.calls[i]? = some ⟨a, o.status⟩
  others : ∀ j, i ≠ j → p'.calls[j]? = p.calls[j]?
  before : ∀ b st, p.calls[i]? = some ⟨b, st⟩ → b = a ∧ st.isPending = true

/-- What the call tells, or told, its caller is in memory. -/
def Answers (p : DevicePool) (i : ℕ) (a : DeviceCall) : Prop :=
  ∃ st, p.calls[i]? = some ⟨a, st⟩ ∧ ∀ x, st = .settled x → Told p.shared a x

/-- What memory has stays there, and what calls tell from now on is in memory. -/
structure Continues (p p' : DevicePool) : Prop where
  retains : Retains p.shared p'.shared
  answers : ∀ i a, (a.kind = .keypair → p.shared.session.cachedIdentity ≠ none) →
    Answers p i a → Answers p' i a

section

variable {base i j n : ℕ} {flight flight' : Option (ℕ × ℕ)} {p p' : DevicePool} {a b : DeviceCall}
  {o : DeviceOutcome} {k : PlatformReply → Tab → DeviceOutcome} {me : Agent} {r : PlatformReply}
  {kind : CallKind}

variable (P env dh) in
theorem took_start (p : DevicePool) (a : DeviceCall) :
    Took p (p.start (deviceCall P env dh) a) p.calls.length a (deviceCall P env dh a p.shared) := by
  refine ⟨rfl, List.getElem?_concat_length, fun j hne => concat_ne hne, fun b st hi => ?_⟩
  rw [List.getElem?_eq_none (Nat.le_refl _)] at hi
  cases hi

theorem took_resume (hi : p.calls[i]? = some ⟨a, .pending k⟩) (r : PlatformReply) :
    Took p (p.resume i r) i a (k r p.shared) := by
  have hlt : i < p.calls.length := (List.getElem?_eq_some_iff.mp hi).1
  rw [resume_of_pending hi]
  refine ⟨rfl, List.getElem?_set_self hlt, fun j hne => List.getElem?_set_ne hne, fun b st hb => ?_⟩
  rw [hi] at hb
  cases hb
  exact ⟨rfl, rfl⟩

namespace Took

variable (h : Took p p' i a o)

include h

theorem pending_cases (hj : p'.calls[j]? = some ⟨b, .pending k⟩) :
    (i = j ∧ b = a ∧ o.status = .pending k) ∨ (i ≠ j ∧ p.calls[j]? = some ⟨b, .pending k⟩) := by
  by_cases hij : i = j
  · subst hij
    rw [h.call] at hj
    injection hj with hj
    injection hj with ha hst
    exact Or.inl ⟨rfl, ha.symm, hst⟩
  · exact Or.inr ⟨hij, (h.others j hij).symm.trans hj⟩

theorem pending_old (hij : i ≠ j) (hj : p'.Pending DeviceCall.kind kind j) :
    p.Pending DeviceCall.kind kind j := by
  obtain ⟨b, k, hj, hb⟩ := hj
  exact ⟨b, k, (h.others j hij).symm.trans hj, hb⟩

theorem pending_kind (hj : p'.Pending DeviceCall.kind kind i) : a.kind = kind := by
  obtain ⟨b, k, hj, hb⟩ := hj
  rw [h.call] at hj
  injection hj with hj
  injection hj with ha
  rw [ha, hb]

theorem told_answers (htold : ∀ x, o.status = .settled x → Told p'.shared a x) : Answers p' i a :=
  ⟨o.status, h.call, htold⟩

/-- **A segment** that tells what memory has. -/
theorem continues (hretains : Retains p.shared p'.shared)
    (htold : ∀ x, o.status = .settled x → Told p'.shared a x) : Continues p p' := by
  refine ⟨hretains, fun j b hidentity hb => ?_⟩
  obtain ⟨st, hj, hst⟩ := hb
  by_cases hij : i = j
  · subst hij
    obtain ⟨rfl, -⟩ := h.before b st hj
    exact h.told_answers htold
  · refine ⟨st, (h.others j hij).trans hj, fun x hx => ?_⟩
    have hold := hst x hx
    unfold Told at hold ⊢
    split at hold
    · exact (hretains _ hold).1
    · cases hcached : p.shared.session.cachedIdentity with
      | none => exact absurd hcached (hidentity rfl)
      | some d => exact (hretains d hcached).2 _ hold
    · trivial

end Took

/-- A pending call of another kind, after a step that keeps what it relies on. -/
theorem PendingOk.later (h : PendingOk P env base flight p j b k) (hchange : b.kind ≠ .change)
    (hflying : ∀ n, flight = some (j, n) → flight' = some (j, n) ∧ FlightRely env p.shared p'.shared)
    (hjoined : (∀ n, flight ≠ some (j, n)) → ∀ n, flight' ≠ some (j, n))
    (hkeypair : b.kind = .keypair → p.shared.session.cachedIdentity ≠ none →
      p'.shared.session.cachedIdentity ≠ none ∧ KeypairRely P env p.shared p'.shared) :
    PendingOk P env base flight' p' j b k := by
  cases h with
  | flying me n k hflight hsat =>
      obtain ⟨hflight', hrely⟩ := hflying n hflight
      exact .flying me n k hflight' fun r t ht hR => hsat r t ht (hrely.trans hR)
  | joined me n hnone hn => exact .joined me n (hjoined hnone) hn
  | keypair b k hb hidentity hsat =>
      obtain ⟨hidentity', hrely⟩ := hkeypair hb hidentity
      exact .keypair b k hb hidentity' fun r t hR => hsat r t (hrely.trans hR)
  | changing b k hb => exact absurd hb hchange

/-! ## Segments -/

theorem HasRow.stores {storage : Storage} (h : HasRow env storage) (hrows : RowsOwn P storage) :
    ∃ kp, Stores P env kp storage := by
  obtain ⟨row, hrow, husable⟩ := h
  obtain ⟨kek, scalar, hown⟩ := hrows row hrow
  exact ⟨_, row, kek, scalar, hrow, husable, hown, rfl⟩

theorem KeypairGives.retains (h : KeypairGives P env t t') (hagrees : KeypairAgrees P env t) :
    Retains t t' :=
  fun _ hd => ⟨h.identity.cached.trans hd, h.cached hagrees⟩

theorem FlightGives.retains (h : FlightGives P env base t t') : Retains t t' := by
  intro d hd
  obtain ⟨hd', -, hcached⟩ := h.found d hd
  exact ⟨hd', fun kp hkp => hcached.trans hkp⟩

/-- With an identity in memory the flight leaves the keypair alone. -/
theorem FlightGives.keypairRely (h : FlightGives P env base t t')
    (hidentity : t.session.cachedIdentity ≠ none) :
    t'.session.cachedIdentity ≠ none ∧ KeypairRely P env t t' := by
  obtain ⟨d, hd⟩ := Option.ne_none_iff_exists'.mp hidentity
  obtain ⟨hd', hrow, hcached⟩ := h.found d hd
  refine ⟨?_, .of_same h.available hrow hcached⟩
  rw [hd']
  exact Option.some_ne_none d

/-- The call whose flight is in the air is not about a keypair. -/
theorem DeviceOk.flight_ne (hp : DeviceOk P env base flight p) (htook : Took p p' i a o)
    (hkind : a.kind ≠ .identity) (hflight : flight = some (j, n)) : i ≠ j := by
  rintro rfl
  obtain ⟨b, k, hi, hb⟩ := (hp.flying i n hflight).2
  obtain ⟨rfl, -⟩ := htook.before b _ hi
  exact hkind hb

theorem Took.pending_new (htook : Took p p' i a o) (hij : i ≠ j)
    (hj : p.Pending DeviceCall.kind kind j) : p'.Pending DeviceCall.kind kind j := by
  obtain ⟨b, k, hj, hb⟩ := hj
  exact ⟨b, k, (htook.others j hij).trans hj, hb⟩

theorem UnderWay.of_pending (hi : p.calls[i]? = some ⟨a, .pending k⟩) : UnderWay a.kind p :=
  ⟨i, a, k, hi, rfl⟩

/-- **A segment of a call for the keypair.** -/
theorem DeviceOk.keypair_segment (hp : DeviceOk P env base flight p) (htook : Took p p' i a o)
    (hkind : a.kind = .keypair) (hidentity : p.shared.session.cachedIdentity ≠ none)
    (hsat : o.Sat (fun _ => True) (KeypairRely P env) (KeypairGives P env) (fun t => Told t a)
      p.shared)
    (halone : HasRow env p.shared.storage ∨ ∀ j, i ≠ j → ¬ p.Pending DeviceCall.kind .keypair j)
    (hchange : ¬ UnderWay .change p) :
    DeviceOk P env base flight p' ∧ Continues p p' ∧ Answers p' i a := by
  have hgives : KeypairGives P env p.shared p'.shared := htook.shared ▸ hsat.guarantee
  obtain ⟨hpending, hsettled⟩ := status_sound (i := 0) (a := a) (R := fun _ => KeypairRely P env)
    (G := fun _ _ => KeypairGives P env) (Q := fun _ _ t => Told t a) hsat
  have htold : ∀ x, o.status = .settled x → Told p'.shared a x := fun x hx =>
    htook.shared ▸ hsettled x hx
  have hidentity' : p'.shared.session.cachedIdentity ≠ none := by
    rwa [hgives.identity.cached]
  have hrow : HasRow env p.shared.storage → HasRow env p'.shared.storage := by
    intro h
    obtain ⟨kp, hkp⟩ := h.stores hp.agrees.rows
    exact (hgives.stores kp hkp).hasRow
  have hrely : ∀ j, i ≠ j → p.Pending DeviceCall.kind .keypair j →
      KeypairRely P env p.shared p'.shared := fun j hij hj =>
    ⟨hgives.available, hgives.agrees, hgives.stores,
      fun hnone => absurd hj (halone.resolve_left hnone j hij)⟩
  have hflightRely : FlightRely env p.shared p'.shared :=
    ⟨hgives.available, fun hnone => absurd hnone hidentity, hgives.identity⟩
  have hnot : a.kind ≠ .identity := by
    rw [hkind]
    decide
  refine ⟨⟨hgives.available hp.available, hgives.agrees hp.agrees, ?_, ?_, ?_, ?_, ?_, ?_⟩,
    htook.continues (hgives.retains hp.agrees) htold, htook.told_answers htold⟩
  · intro m d hm hd
    rw [hgives.identity.promises] at hd
    exact hgives.identity.cached.trans (hp.promised m d hm hd)
  · rw [hgives.identity.promises]
    exact hp.since
  · exact hgives.identity.inflight.trans hp.slot
  · intro j n hflight
    obtain ⟨hn, hj⟩ := hp.flying j n hflight
    exact ⟨hn, htook.pending_new (hp.flight_ne htook hnot hflight) hj⟩
  · intro j b k hj
    rcases htook.pending_cases hj with ⟨rfl, rfl, hstatus⟩ | ⟨hij, hj⟩
    · refine .keypair b k hkind hidentity' fun r t hR => hpending k hstatus r t ?_
      exact htook.shared ▸ hR
    · refine (hp.pending j b k hj).later (fun hb => hchange (hb ▸ UnderWay.of_pending hj))
        (fun n hflight => ⟨hflight, hflightRely⟩) (fun h => h) fun hb _ =>
          ⟨hidentity', hrely j hij ⟨b, k, hj, hb⟩⟩
  · intro hnone
    have honly : ∀ j, p'.Pending DeviceCall.kind .keypair j → i = j := by
      intro j hj
      by_contra hij
      exact halone.resolve_left (fun h => hnone (hrow h)) j hij (htook.pending_old hij hj)
    intro j j' hj hj'
    exact (honly j hj).symm.trans (honly j' hj')

/-- **A segment of the flight.** -/
theorem DeviceOk.flight_segment (hp : DeviceOk P env base flight p)
    (htook : Took p p' i (.getOrCreateDeviceIdentity me) o)
    (hair : ∀ j m, flight = some (j, m) → j = i) (hn : base ≤ n)
    (hsat : o.Sat (fun t => t.session.inflightIdentity = some n) (FlightRely env)
      (FlightGives P env base)
      (fun t x => t.session.inflightIdentity = none ∧ Told t (.getOrCreateDeviceIdentity me) x)
      p.shared)
    (hchange : ¬ UnderWay .change p) :
    (∃ flight', DeviceOk P env base flight' p') ∧ Continues p p' ∧
      Answers p' i (.getOrCreateDeviceIdentity me) := by
  have hgives : FlightGives P env base p.shared p'.shared := htook.shared ▸ hsat.guarantee
  have hone : ¬ HasRow env p'.shared.storage → ∀ j j', p'.Pending DeviceCall.kind .keypair j →
      p'.Pending DeviceCall.kind .keypair j' → j = j' := by
    intro hnone j j' hj hj'
    have hold : ∀ {j}, p'.Pending DeviceCall.kind .keypair j →
        p.Pending DeviceCall.kind .keypair j := by
      intro j hj
      refine htook.pending_old ?_ hj
      rintro rfl
      cases htook.pending_kind hj
    obtain ⟨b, k, hb, hkind⟩ := hold hj
    have hidentity : p.shared.session.cachedIdentity ≠ none := by
      cases hp.pending j b k hb with
      | flying => cases hkind
      | joined => cases hkind
      | keypair _ _ _ hidentity => exact hidentity
      | changing _ _ hkind' =>
          rw [hkind] at hkind'
          cases hkind'
    obtain ⟨d, hd⟩ := Option.ne_none_iff_exists'.mp hidentity
    obtain ⟨-, hrow, -⟩ := hgives.found d hd
    refine hp.one (fun h => hnone ?_) j j' (hold hj) (hold hj')
    rwa [HasRow, hrow]
  have hpending : ∀ flight' (j : ℕ) b k, (∀ l m, flight' = some (l, m) → l = i) → i ≠ j →
      p.calls[j]? = some ⟨b, .pending k⟩ → PendingOk P env base flight' p' j b k := by
    intro flight' j b k hflight' hij hj
    refine (hp.pending j b k hj).later (fun hb => hchange (hb ▸ UnderWay.of_pending hj)) ?_ ?_
      fun _ hidentity => hgives.keypairRely hidentity
    · exact fun m hflight => absurd (hair j m hflight).symm hij
    · exact fun _ m hflight => hij (hflight' j m hflight).symm
  have hlands : ∀ x, o.status = .settled x → o.state.session.inflightIdentity = none →
      (∃ flight', DeviceOk P env base flight' p') := by
    intro x hx hinflight
    refine ⟨none, hgives.available hp.available, hgives.agrees hp.agrees,
      hgives.promises hp.promised, Nat.le_trans hp.since hgives.grows, htook.shared ▸ hinflight,
      (by rintro j m ⟨⟩), fun j b k hj => ?_, hone⟩
    rcases htook.pending_cases hj with ⟨rfl, rfl, hstatus⟩ | ⟨hij, hj⟩
    · rw [hx] at hstatus
      cases hstatus
    · exact hpending none j b k (by rintro l m ⟨⟩) hij hj
  have htold : ∀ x, o.status = .settled x → Told p'.shared (.getOrCreateDeviceIdentity me) x := by
    intro x hx
    rw [htook.shared]
    cases o with
    | ret t d => cases hx; exact hsat.2.2
    | throw t e => cases hx; exact hsat.2.2
    | await t k => cases hx
  refine ⟨?_, htook.continues hgives.retains htold, htook.told_answers htold⟩
  cases o with
  | ret t d => exact hlands _ rfl hsat.2.1
  | throw t e => exact hlands _ rfl hsat.2.1
  | await t k =>
      have hshared : p'.shared = t := htook.shared
      refine ⟨some (i, n), hgives.available hp.available, hgives.agrees hp.agrees,
        hgives.promises hp.promised, Nat.le_trans hp.since hgives.grows, hshared ▸ hsat.1,
        ?_, fun j b k' hj => ?_, hone⟩
      · rintro j m ⟨⟩
        exact ⟨hn, _, k, htook.call, rfl⟩
      · rcases htook.pending_cases hj with ⟨rfl, rfl, hstatus⟩ | ⟨hij, hj⟩
        · cases hstatus
          exact .flying me n k rfl fun r t' ht' hR => hsat.2.2 r t' ht' (hshared ▸ hR)
        · exact hpending _ j b k' (by rintro l m ⟨⟩; rfl) hij hj

/-- **A call that touches nothing**: it waits for the flight, or settles. -/
theorem DeviceOk.untouched (hp : DeviceOk P env base flight p)
    (htook : Took p p' i (.getOrCreateDeviceIdentity me) o) (hsame : o.state = p.shared)
    (hair : ∀ m, flight ≠ some (i, m))
    (htold : ∀ x, o.status = .settled x → Told p.shared (.getOrCreateDeviceIdentity me) x)
    (hwaits : ∀ k, o.status = .pending k →
      PendingOk P env base flight p' i (.getOrCreateDeviceIdentity me) k)
    (hchange : ¬ UnderWay .change p) :
    DeviceOk P env base flight p' ∧ Continues p p' ∧
      Answers p' i (.getOrCreateDeviceIdentity me) := by
  have hshared : p'.shared = p.shared := htook.shared.trans hsame
  have htold' : ∀ x, o.status = .settled x → Told p'.shared (.getOrCreateDeviceIdentity me) x :=
    hshared ▸ htold
  refine ⟨⟨hshared ▸ hp.available, hshared ▸ hp.agrees, hshared ▸ hp.promised, hshared ▸ hp.since,
    hshared ▸ hp.slot, ?_, ?_, ?_⟩, htook.continues (hshared ▸ fun d hd => ⟨hd, fun _ h => h⟩) htold',
    htook.told_answers htold'⟩
  · intro j n hflight
    obtain ⟨hn, hj⟩ := hp.flying j n hflight
    refine ⟨hn, htook.pending_new ?_ hj⟩
    rintro rfl
    exact hair n hflight
  · intro j b k hj
    rcases htook.pending_cases hj with ⟨rfl, rfl, hstatus⟩ | ⟨hij, hj⟩
    · exact hwaits k hstatus
    · refine (hp.pending j b k hj).later (fun hb => hchange (hb ▸ UnderWay.of_pending hj))
        (fun n hflight => ⟨hflight, ?_⟩) (fun h => h) fun _ hidentity => ?_
      · rw [hshared]
        exact .refl
      · rw [hshared]
        exact ⟨hidentity, .refl⟩
  · intro hnone j j' hj hj'
    have hold : ∀ {j}, p'.Pending DeviceCall.kind .keypair j →
        p.Pending DeviceCall.kind .keypair j := by
      intro j hj
      refine htook.pending_old ?_ hj
      rintro rfl
      cases htook.pending_kind hj
    exact hp.one (hshared ▸ hnone) j j' (hold hj) (hold hj')

/-- **A segment of a wipe or a restore**, which runs alone. -/
theorem DeviceOk.change_segment (hp : DeviceOk P env base flight p) (htook : Took p p' i a o)
    (hkind : a.kind = .change)
    (hsat : o.Sat (fun _ => True) Alone (GroundedStep P env) (fun _ _ => True) p.shared)
    (halone : ∀ kind j, i ≠ j → ¬ p.Pending DeviceCall.kind kind j) :
    DeviceOk P env p'.shared.session.identityPromises.length none p' := by
  have hflight : flight = none := by
    cases hflight : flight with
    | none => rfl
    | some jn =>
        obtain ⟨j, n⟩ := jn
        refine absurd (hp.flying j n hflight).2 (halone _ j (hp.flight_ne htook ?_ hflight))
        rw [hkind]
        decide
  have hinflight : p.shared.session.inflightIdentity = none := by
    rw [hp.slot, hflight]
    rfl
  have hgrounded : Grounded P env p'.shared :=
    htook.shared ▸ hsat.guarantee ⟨hp.available, hp.agrees, hinflight⟩
  have halone' : ∀ kind j, i ≠ j → ¬ p'.Pending DeviceCall.kind kind j := fun kind j hij hj =>
    halone kind j hij (htook.pending_old hij hj)
  have hnot : ∀ j, ¬ p'.Pending DeviceCall.kind .keypair j := by
    intro j hj
    by_cases hij : i = j
    · subst hij
      have hkind' := htook.pending_kind hj
      rw [hkind] at hkind'
      cases hkind'
    · exact halone' _ j hij hj
  refine ⟨hgrounded.available, hgrounded.agrees, ?_, Nat.le_refl _, hgrounded.inflight,
    (by rintro j m ⟨⟩), ?_, fun _ j j' hj => absurd hj (hnot j)⟩
  · intro m d hm hd
    rw [List.getElem?_eq_none hm] at hd
    cases hd
  · intro j b k hj
    rcases htook.pending_cases hj with ⟨rfl, rfl, hstatus⟩ | ⟨hij, hj'⟩
    · refine .changing b k hkind halone' fun r => ?_
      have hpending := (status_sound (i := 0) (a := b) (R := fun _ => Alone)
        (G := fun _ _ => GroundedStep P env) (Q := fun _ _ _ _ => True) hsat).1
      exact hpending k hstatus r p'.shared htook.shared
    · exact absurd ⟨b, k, hj, rfl⟩ (halone' b.kind j hij)

/-! ## Steps -/

theorem InMemory.told {x : Except IdentityError DeviceIdentity} (h : InMemory t x) (me : Agent) :
    Told t (.getOrCreateDeviceIdentity me) (.identity <$> x) := by
  cases x with
  | ok d => exact h d rfl
  | error e => trivial

/-- What a call gets that waited for a promise. -/
theorem joined_told (hpromised : PromisesHeld base t) (hn : base ≤ n) (me : Agent) :
    let o : DeviceOutcome := (joined n t).bind fun d t => .ret t (.identity d)
    o.state = t ∧ (∃ x, o.status = .settled x) ∧
      ∀ x, o.status = .settled x → Told t (.getOrCreateDeviceIdentity me) x := by
  unfold joined
  cases hpromise : t.session.identityPromises[n]? with
  | none => exact ⟨rfl, ⟨_, rfl⟩, by rintro x ⟨⟩; trivial⟩
  | some promise =>
      cases promise with
      | none => exact ⟨rfl, ⟨_, rfl⟩, by rintro x ⟨⟩; trivial⟩
      | some result =>
          cases result with
          | error e => exact ⟨rfl, ⟨_, rfl⟩, by rintro x ⟨⟩; trivial⟩
          | ok d =>
              refine ⟨rfl, ⟨_, rfl⟩, ?_⟩
              rintro x ⟨⟩
              exact hpromised n d hn hpromise

variable (dh) in
/-- **A call for the identity** returns the one in memory, waits for the flight in the
air, or starts one. -/
theorem DeviceOk.start_identity (hp : DeviceOk P env base flight p) (hworks : StorageWorks env)
    (hchange : ¬ UnderWay .change p) (me : Agent) :
    (∃ flight', DeviceOk P env base flight'
      (p.start (deviceCall P env dh) (.getOrCreateDeviceIdentity me))) ∧
      Continues p (p.start (deviceCall P env dh) (.getOrCreateDeviceIdentity me)) ∧
      Answers (p.start (deviceCall P env dh) (.getOrCreateDeviceIdentity me)) p.calls.length
        (.getOrCreateDeviceIdentity me) := by
  have htook := took_start P env dh p (.getOrCreateDeviceIdentity me)
  have hair : ∀ j n, flight = some (j, n) → j < p.calls.length := by
    intro j n hflight
    obtain ⟨b, k, hj, -⟩ := (hp.flying j n hflight).2
    exact (List.getElem?_eq_some_iff.mp hj).1
  have hnew : ∀ n, flight ≠ some (p.calls.length, n) := fun n hflight =>
    Nat.lt_irrefl _ (hair _ n hflight)
  have hbody : deviceCall P env dh (.getOrCreateDeviceIdentity me) p.shared =
      (getOrCreateDeviceIdentity P env me p.shared).bind fun d t => .ret t (.identity d) := rfl
  rcases getOrCreateDeviceIdentity_starts P env me p.shared with
    ⟨d, hcached, hstarts⟩ | ⟨n, hinflight, hstarts⟩ | ⟨hcached, hinflight, hstarts⟩
  · rw [hstarts] at hbody
    rw [hbody] at htook
    obtain ⟨hok, hrest⟩ := hp.untouched htook rfl hnew (by rintro x ⟨⟩; exact hcached)
      (by rintro k ⟨⟩) hchange
    exact ⟨⟨_, hok⟩, hrest⟩
  · rw [hstarts] at hbody
    rw [hbody] at htook
    have hn : base ≤ n := by
      rw [hp.slot] at hinflight
      obtain ⟨⟨j, m⟩, hflight, rfl⟩ := Option.map_eq_some_iff.mp hinflight
      exact (hp.flying j m hflight).1
    obtain ⟨hok, hrest⟩ := hp.untouched htook rfl hnew (by rintro x ⟨⟩)
      (by rintro k ⟨⟩; exact .joined me n hnew hn) hchange
    exact ⟨⟨_, hok⟩, hrest⟩
  · have hnone : flight = none := by
      rw [hp.slot] at hinflight
      exact Option.map_eq_none_iff.mp hinflight
    refine hp.flight_segment htook (by rw [hnone]; rintro j m ⟨⟩) hp.since ?_ hchange
    rw [hbody, hstarts]
    refine map_sat ?_ (identityFlight_inMemory hworks ⟨hp.available, hcached⟩)
    rintro t x ⟨hlanded, hx⟩
    exact ⟨hlanded, hx.told me⟩

variable (dh) in
/-- **A call for the keypair**, with an identity in memory. -/
theorem DeviceOk.start_keypair (hp : DeviceOk P env base flight p) (laws : AesKwLaws P)
    (hkind : a.kind = .keypair) (hidentity : p.shared.session.cachedIdentity ≠ none)
    (halone : HasRow env p.shared.storage ∨ ¬ UnderWay .keypair p)
    (hchange : ¬ UnderWay .change p) :
    DeviceOk P env base flight (p.start (deviceCall P env dh) a) ∧
      Continues p (p.start (deviceCall P env dh) a) ∧
      Answers (p.start (deviceCall P env dh) a) p.calls.length a := by
  refine hp.keypair_segment (took_start P env dh p a) hkind hidentity ?_
    (halone.imp_right fun h j _ hj => h ⟨j, hj⟩) hchange
  have hknows : KeypairKnows P env Unread p.shared := ⟨hp.available, hp.agrees, trivial⟩
  cases a with
  | getOrCreateX25519Keypair => exact getOrCreateX25519Keypair_told laws hknows
  | dhX25519 remotePub => exact dhX25519_told laws hknows
  | getOrCreateDeviceIdentity me => cases hkind
  | clearDeviceIdentity => cases hkind
  | replaceDeviceIdentity secret publicB64u => cases hkind

theorem deviceCall_grounded (hkind : a.kind = .change) (ht : Grounded P env t) :
    (deviceCall P env dh a t).Sat (fun _ => True) Alone (GroundedStep P env) (fun _ _ => True) t := by
  cases a with
  | clearDeviceIdentity => exact map_sat (fun _ _ _ => trivial) (clearDeviceIdentity_grounded ht)
  | replaceDeviceIdentity secret publicB64u =>
      exact map_sat (fun _ _ _ => trivial) (replaceDeviceIdentity_grounded ht)
  | getOrCreateDeviceIdentity me => cases hkind
  | getOrCreateX25519Keypair => cases hkind
  | dhX25519 remotePub => cases hkind

variable (dh) in
/-- **A wipe or a restore** that starts while nothing is under way. -/
theorem DeviceOk.start_change (hp : DeviceOk P env base flight p) (hkind : a.kind = .change)
    (halone : ∀ kind, ¬ UnderWay kind p) :
    ∃ base', DeviceOk P env base' none (p.start (deviceCall P env dh) a) := by
  have htook := took_start P env dh p a
  have hinflight : p.shared.session.inflightIdentity = none := by
    rw [hp.slot]
    cases hflight : flight with
    | none => rfl
    | some jn => exact absurd ⟨jn.1, (hp.flying jn.1 jn.2 hflight).2⟩ (halone _)
  exact ⟨_, hp.change_segment htook hkind
    (deviceCall_grounded hkind ⟨hp.available, hp.agrees, hinflight⟩)
    fun kind j _ hj => halone kind ⟨j, hj⟩⟩

/-- **A call goes on.** -/
theorem DeviceOk.resume (hp : DeviceOk P env base flight p) (i : ℕ) (r : PlatformReply) :
    (∃ base' flight', DeviceOk P env base' flight' (p.resume i r)) ∧
      (UnderWay .change p ∨ Continues p (p.resume i r)) := by
  rcases resume_cases p i r with hidle | ⟨a, k, hi, -⟩
  · rw [hidle]
    exact ⟨⟨_, _, hp⟩, Or.inr ⟨fun d hd => ⟨hd, fun _ h => h⟩, fun _ _ _ h => h⟩⟩
  · have htook := took_resume hi r
    by_cases hchange : UnderWay .change p
    · obtain ⟨j, b, k', hj, hb⟩ := hchange
      have hpending := hp.pending j b k' hj
      cases hpending with
      | flying => cases hb
      | joined => cases hb
      | keypair _ _ hb' =>
          rw [hb] at hb'
          cases hb'
      | changing b k' hb halone hsat =>
          obtain rfl : j = i := by
            by_contra hij
            exact halone a.kind i hij ⟨a, k, hi, rfl⟩
          rw [hi] at hj
          cases hj
          exact ⟨⟨_, _, hp.change_segment htook hb (hsat r) halone⟩, Or.inl ⟨j, a, k, hi, hb⟩⟩
    · have hpending := hp.pending i a k hi
      cases hpending with
      | flying me n k hflight hsat =>
          obtain ⟨⟨flight', hok⟩, hrest⟩ := hp.flight_segment htook
            (by rw [hflight]; rintro j m ⟨⟩; rfl) (hp.flying i n hflight).1
            (hsat r _ (by rw [hp.slot, hflight]; rfl) .refl) hchange
          exact ⟨⟨_, _, hok⟩, Or.inr hrest.1⟩
      | joined me n hair hn =>
          obtain ⟨hsame, ⟨x, hx⟩, htold⟩ := joined_told hp.promised hn me
          obtain ⟨hok, hrest⟩ := hp.untouched htook hsame hair htold
            (fun k hk => by rw [hx] at hk; cases hk) hchange
          exact ⟨⟨_, _, hok⟩, Or.inr hrest.1⟩
      | keypair a k hkind hidentity hsat =>
          have halone : HasRow env p.shared.storage ∨
              ∀ j, i ≠ j → ¬ p.Pending DeviceCall.kind .keypair j := by
            by_cases hrow : HasRow env p.shared.storage
            · exact Or.inl hrow
            · exact Or.inr fun j hij hj => hij (hp.one hrow i j ⟨a, k, hi, hkind⟩ hj)
          obtain ⟨hok, hrest⟩ := hp.keypair_segment htook hkind hidentity (hsat r _ .refl) halone
            hchange
          exact ⟨⟨_, _, hok⟩, Or.inr hrest.1⟩
      | changing a k hkind => exact absurd ⟨i, a, k, hi, hkind⟩ hchange

end

end

end Oxpulse.Identity
