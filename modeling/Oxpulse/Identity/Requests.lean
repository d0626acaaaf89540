import Oxpulse.Identity.X25519

/-!
# What a request does

The triples of the storage requests and the WebCrypto operations. A call knows
something of its tab (`J`); the others keep it (`Stable`), and nobody minds what
the availability cache holds. A request keeps it, hands out what its transaction
saw, and throws only what the platform can throw there.
-/

namespace Oxpulse.Identity

open Oxpulse.Coroutine Oxpulse.Crypto

namespace Tab

def withAvailability (c : AvailabilityCache) (t : Tab) : Tab :=
  t.withSession fun s => { s with idbAvailabilityCache := some c }

@[simp] theorem withAvailability_origin (c : AvailabilityCache) (t : Tab) :
    (t.withAvailability c).origin = t.origin := rfl

@[simp] theorem withAvailability_storage (c : AvailabilityCache) (t : Tab) :
    (t.withAvailability c).storage = t.storage := rfl

/-- No failure is remembered, unless probes fail here. -/
def Available (env : Runtime) (t : Tab) : Prop :=
  env.unreliable = false → ∀ c, t.session.idbAvailabilityCache = some c → c.failure = none

end Tab

/-- What a request to the database may throw on its own account. -/
def Faults (env : Runtime) (db : Database) (e : IdentityError) : Prop :=
  (env.unreliable = true ∧ ∃ reason, e = .idbUnavailable reason) ∨
    (env.faulty db = true ∧ ∃ fault : StorageFault, e = fault.error)

/-- The database is there and its requests do not fault. -/
def Healthy (env : Runtime) (db : Database) : Prop :=
  env.unreliable = false ∧ env.faulty db = false

theorem Healthy.noFaults {env : Runtime} {db : Database} (h : Healthy env db) {e : IdentityError} :
    ¬ Faults env db e := by
  rintro (⟨hunreliable, -⟩ | ⟨hfaulty, -⟩)
  · rw [h.1] at hunreliable
    cases hunreliable
  · rw [h.2] at hfaulty
    cases hfaulty

/-- A guarantee that segments compose and that leaves the availability cache to the
probes. -/
structure Guarantee (env : Runtime) (G : Tab → Tab → Prop) : Prop where
  refl : ∀ t, G t t
  trans : ∀ a b c, G a b → G b c → G a c
  quiet : ∀ t c, (env.unreliable = false → c.failure = none) → G t (t.withAvailability c)

/-- What the others keep, whatever the availability cache comes to hold. -/
structure Stable (env : Runtime) (R : Tab → Tab → Prop) (J : Tab → Prop) : Prop where
  rely : ∀ t t', J t → R t t' → J t'
  quiet : ∀ t c, J t → (env.unreliable = false → c.failure = none) → J (t.withAvailability c)

/-- A postcondition by result: a value or an exception. -/
def Post {α : Type} (ok : α → Tab → Prop) (error : IdentityError → Tab → Prop) (t : Tab) :
    Except IdentityError α → Prop
  | .ok a => ok a t
  | .error e => error e t

@[simp] theorem post_ok {α : Type} {ok : α → Tab → Prop} {error : IdentityError → Tab → Prop}
    {t : Tab} {a : α} : Post ok error t (.ok a) ↔ ok a t := Iff.rfl

@[simp] theorem post_error {α : Type} {ok : α → Tab → Prop} {error : IdentityError → Tab → Prop}
    {t : Tab} {e : IdentityError} : Post ok error t (.error e : Except IdentityError α) ↔ error e t :=
  Iff.rfl

section

variable {P : IdentityPrimitives} {env : Runtime} {R G : Tab → Tab → Prop} {J : Tab → Prop}
  {t : Tab} {α β : Type}

/-! ## Rules -/

theorem suspend_triple (hG : Guarantee env G) (hJ : ∀ t t', J t → R t t' → J t') (ht : J t) :
    Co.Triple R G (fun t (x : Except IdentityError PlatformReply) => J t ∧ ∃ r, x = .ok r)
      (Co.suspend : TabCo PlatformReply) t :=
  ⟨trivial, hG.refl t, fun r t' _ hR => ⟨hG.refl t', hJ t t' ht hR, r, rfl⟩⟩

/-- A suspension, and what follows it. -/
theorem suspend_bind {Q : Tab → Except IdentityError β → Prop} (hG : Guarantee env G)
    (hJ : ∀ t t', J t → R t t' → J t') (ht : J t) {f : PlatformReply → TabCo β}
    (hf : ∀ r t', J t' → Co.Triple R G Q (f r) t') :
    Co.Triple R G Q (Co.suspend >>= f) t := by
  refine (suspend_triple hG hJ ht).bind hG.trans ?_ ?_
  · rintro t' r ⟨ht', -⟩
    exact hf r t' ht'
  · rintro t' e ⟨-, r, h⟩
    cases h

theorem get_bind {Q : Tab → Except IdentityError β → Prop} {f : Tab → TabCo β}
    (h : Co.Triple R G Q (f t) t) : Co.Triple R G Q (get >>= f) t :=
  h

theorem modify_bind {Q : Tab → Except IdentityError β → Prop} (hG : Guarantee env G) {f : Tab → Tab}
    {co : TabCo β} (hf : G t (f t)) (h : Co.Triple R G Q co (f t)) :
    Co.Triple R G Q (modify f >>= fun _ => co) t :=
  Co.Triple.assign_bind hG.trans hf h

theorem ofExcept_ok_bind {Q : Tab → Except IdentityError β → Prop} {a : α} {f : α → TabCo β}
    (h : Co.Triple R G Q (f a) t) : Co.Triple R G Q (Co.ofExcept (.ok a) >>= f) t :=
  h

theorem ofExcept_error_bind {Q : Tab → Except IdentityError β → Prop} {e : IdentityError}
    {f : α → TabCo β} (h : Co.Triple R G Q (throw e : TabCo β) t) :
    Co.Triple R G Q (Co.ofExcept (.error e) >>= f) t :=
  h

/-! ## Storage -/

theorem assertIDBAvailable_triple (hG : Guarantee env G) (hJ : Stable env R J)
    (havailable : ∀ t, J t → t.Available env) (ht : J t) :
    Co.Triple R G (Post (fun _ => J) fun e t =>
      J t ∧ env.unreliable = true ∧ ∃ reason, e = .idbUnavailable reason)
      (assertIDBAvailable env) t := by
  have hprobe : ∀ now t, J t → Co.Triple R G (Post (fun _ => J) fun e t =>
      J t ∧ env.unreliable = true ∧ ∃ reason, e = .idbUnavailable reason)
      (assertIDBAvailable.probe env now) t := by
    intro now t ht
    refine suspend_bind hG hJ.rely ht fun r t ht => ?_
    have hfailure : env.unreliable = false →
        (if env.unreliable then r.probe else none) = none := fun h => by rw [h]; rfl
    refine modify_bind hG
      (hG.quiet t ⟨if env.unreliable then r.probe else none, now⟩ hfailure) ?_
    have ht' : J (t.withAvailability ⟨if env.unreliable then r.probe else none, now⟩) :=
      hJ.quiet t _ ht hfailure
    cases hfailure : (if env.unreliable then r.probe else none) with
    | none =>
        rw [hfailure] at ht'
        exact Co.Triple.value hG.refl ht'
    | some reason =>
        rw [hfailure] at ht'
        refine Co.Triple.raise hG.refl ⟨ht', ?_, reason, rfl⟩
        by_contra hunreliable
        rw [if_neg hunreliable] at hfailure
        cases hfailure
  refine suspend_bind hG hJ.rely ht fun r t ht => get_bind ?_
  cases hcache : t.session.idbAvailabilityCache with
  | none => exact hprobe r.now t ht
  | some c =>
      by_cases hfresh : r.now - c.cachedAt < CACHE_TTL_MS
      · simp only [hfresh, if_true]
        cases hfailure : c.failure with
        | none => exact Co.Triple.value hG.refl ht
        | some reason =>
            refine Co.Triple.raise hG.refl ⟨ht, ?_, reason, rfl⟩
            cases hunreliable : env.unreliable with
            | true => rfl
            | false =>
                have hnone := havailable t ht hunreliable c hcache
                rw [hfailure] at hnone
                cases hnone
      · simp only [hfresh, if_false]
        exact hprobe r.now t ht

/-- **A request.** Its transaction runs in a state of `J` and leaves `ok`; it may
throw what the transaction throws there or what the platform throws. -/
theorem request_triple {db : Database} {act : Storage → Except IdentityError (α × Storage)}
    {ok : α → Tab → Prop} {error : IdentityError → Tab → Prop} (hG : Guarantee env G)
    (hJ : Stable env R J) (havailable : ∀ t, J t → t.Available env)
    (hstable : ∀ a t t', ok a t → R t t' → ok a t')
    (hok : ∀ t a storage, J t → act t.storage = .ok (a, storage) →
      G t (t.withStorage fun _ => storage) ∧ ok a (t.withStorage fun _ => storage))
    (herr : ∀ t e, J t → act t.storage = .error e → error e t)
    (hfault : ∀ t e, J t → Faults env db e → error e t) (ht : J t) :
    Co.Triple R G (Post ok error) (request env db act) t := by
  refine (assertIDBAvailable_triple hG hJ havailable ht).bind hG.trans ?_ ?_
  · rintro t _ ht
    refine suspend_bind hG hJ.rely ht fun r t ht => ?_
    cases hcase : (if env.faulty db then r.fault else none) with
    | some fault =>
        refine Co.Triple.raise hG.refl (hfault t _ ht (Or.inr ⟨?_, fault, rfl⟩))
        by_contra hfaulty
        rw [if_neg hfaulty] at hcase
        cases hcase
    | none =>
        refine get_bind ?_
        cases hact : act t.storage with
        | error e => exact ofExcept_error_bind (Co.Triple.raise hG.refl (herr t e ht hact))
        | ok result =>
            obtain ⟨a, storage⟩ := result
            obtain ⟨hGt, ht'⟩ := hok t a storage ht hact
            refine ofExcept_ok_bind (modify_bind hG hGt ?_)
            exact suspend_bind hG (hstable a) ht' fun r t ht =>
              Co.Triple.value hG.refl ht
  · rintro t e ⟨ht, hunreliable⟩
    exact hfault t e ht (Or.inl hunreliable)

/-- **A load** hands out what the entry held in a state of `J`. -/
theorem load_triple {db : Database} {entry : Storage → Option α} (hG : Guarantee env G)
    (hJ : Stable env R J) (havailable : ∀ t, J t → t.Available env) (ht : J t) :
    Co.Triple R G
      (Post (fun a t => J t ∧ ∃ t, J t ∧ a = entry t.storage) fun e t => J t ∧ Faults env db e)
      (load env db entry) t := by
  unfold load
  refine request_triple hG hJ havailable ?_ ?_ ?_ (fun t e h hfault => ⟨h, hfault⟩) ht
  · rintro a t t' ⟨h, hread⟩ hR
    exact ⟨hJ.rely t t' h hR, hread⟩
  · intro t a storage h hact
    cases hact
    exact ⟨hG.refl t, h, t, h, rfl⟩
  · intro t e _ hact
    cases hact

/-- **A load of a KEK entry**, which throws when the entry is unreadable. -/
theorem loadKey_triple {db : Database} {entry : Storage → Option StoredValue}
    (hG : Guarantee env G) (hJ : Stable env R J) (havailable : ∀ t, J t → t.Available env) (ht : J t) :
    Co.Triple R G
      (Post (fun a t => J t ∧ a ≠ some .unreadable ∧ ∃ t, J t ∧ a = entry t.storage) fun e t =>
        J t ∧ (Faults env db e ∨ e = .storage ∧ ∃ t, J t ∧ entry t.storage = some .unreadable))
      (loadKey env db entry) t := by
  unfold loadKey
  refine request_triple hG hJ havailable ?_ ?_ ?_ (fun t e h hfault => ⟨h, Or.inl hfault⟩) ht
  · rintro a t t' ⟨h, hread⟩ hR
    exact ⟨hJ.rely t t' h hR, hread⟩
  · intro t a storage h hact
    split at hact
    · cases hact
    · next hne =>
        cases hact
        exact ⟨hG.refl t, h, fun heq => hne heq, t, h, rfl⟩
  · intro t e h hact
    split at hact
    · next hentry =>
        cases hact
        exact ⟨h, Or.inr ⟨rfl, t, h, hentry⟩⟩
    · cases hact

/-- **A write** takes the state from `J` to `J'`. -/
theorem write_triple {db : Database} {update : Storage → Storage} (J' : Tab → Prop)
    (hG : Guarantee env G) (hJ : Stable env R J) (havailable : ∀ t, J t → t.Available env)
    (hJ' : ∀ t t', J' t → R t t' → J' t')
    (hupdate : ∀ t, J t → G t (t.withStorage update) ∧ J' (t.withStorage update)) (ht : J t) :
    Co.Triple R G (Post (fun _ => J') fun e t => J t ∧ Faults env db e)
      (write env db update) t := by
  unfold write
  refine request_triple hG hJ havailable (fun _ => hJ') ?_ ?_
    (fun t e h hfault => ⟨h, hfault⟩) ht
  · intro t a storage h hact
    cases hact
    exact hupdate t h
  · intro t e _ hact
    cases hact

/-- A load from a healthy database, and what follows it. -/
theorem load_bind {Q : Tab → Except IdentityError β → Prop} {db : Database}
    {entry : Storage → Option α} {f : Option α → TabCo β} (hdb : Healthy env db)
    (hG : Guarantee env G) (hJ : Stable env R J) (havailable : ∀ t, J t → t.Available env)
    (ht : J t) (hf : ∀ t t₀, J t → J t₀ → Co.Triple R G Q (f (entry t₀.storage)) t) :
    Co.Triple R G Q (load env db entry >>= f) t := by
  refine (load_triple hG hJ havailable ht).bind hG.trans ?_ ?_
  · rintro t row ⟨ht, t₀, ht₀, rfl⟩
    exact hf t t₀ ht ht₀
  · rintro t e ⟨-, hfault⟩
    exact absurd hfault hdb.noFaults

/-- A write to a healthy database, and what follows it. -/
theorem write_bind {Q : Tab → Except IdentityError β → Prop} {db : Database}
    {update : Storage → Storage} {f : Unit → TabCo β} (J' : Tab → Prop) (hdb : Healthy env db)
    (hG : Guarantee env G) (hJ : Stable env R J) (havailable : ∀ t, J t → t.Available env)
    (hJ' : ∀ t t', J' t → R t t' → J' t')
    (hupdate : ∀ t, J t → G t (t.withStorage update) ∧ J' (t.withStorage update)) (ht : J t)
    (hf : ∀ t, J' t → Co.Triple R G Q (f ()) t) :
    Co.Triple R G Q (write env db update >>= f) t := by
  refine (write_triple J' hG hJ havailable hJ' hupdate ht).bind hG.trans ?_ ?_
  · rintro t ⟨⟩ ht
    exact hf t ht
  · rintro t e ⟨-, hfault⟩
    exact absurd hfault hdb.noFaults

/-- **A save of a KEK**, which throws when the runtime cannot clone its shape. -/
theorem saveKek_triple {slot : KekSlot} {value : StoredValue} {J' : Tab → Prop}
    (hG : Guarantee env G) (hJ : Stable env R J) (havailable : ∀ t, J t → t.Available env)
    (hJ' : ∀ t t', J' t → R t t' → J' t')
    (hput : ∀ t, J t → G t (t.withStorage (slot.put value)) ∧ J' (t.withStorage (slot.put value)))
    (ht : J t) :
    Co.Triple R G
      (Post (fun _ => J') fun e t => J t ∧ (Faults env slot.db e ∨
        value.isKey = true ∧ env.structuredClone = false))
      (saveKek env slot value) t := by
  unfold saveKek saveKey
  refine request_triple hG hJ havailable (fun _ => hJ') ?_ ?_
    (fun t e h hfault => ⟨h, Or.inl hfault⟩) ht
  · intro t a storage h hact
    split at hact
    · cases hact
    · cases hact
      exact hput t h
  · intro t e h hact
    split at hact
    · next hclone => exact ⟨h, Or.inr (by simpa using hclone)⟩
    · cases hact

end

end Oxpulse.Identity
