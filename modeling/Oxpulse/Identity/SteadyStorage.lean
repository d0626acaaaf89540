import Oxpulse.Foundation.Yields
import Oxpulse.Identity.Keeps

/-!
# Where storage works

Two exceptions make a mint fall back to an identity that is kept nowhere: storage that
is not there, and a full one. Where the databases of the identity work neither is
thrown, whatever they hold, so a mint that resolves has persisted.
-/

namespace Oxpulse.Identity

open Oxpulse.Coroutine Oxpulse.Crypto

/-- The databases of the device identity are there, and their requests do not fault. -/
structure StorageWorks (env : Runtime) : Prop where
  identity : Healthy env .identity
  kek : Healthy env .kek

/-- The two exceptions that make a mint fall back to an identity that is kept nowhere. -/
inductive Degrades : IdentityError → Prop where
  | idbUnavailable (reason : IDBUnavailableReason) : Degrades (.idbUnavailable reason)
  | quotaExceeded : Degrades .quotaExceeded

/-- A result that makes nothing fall back. -/
def Undegraded {α : Type} (x : Except IdentityError α) : Prop := ∀ e, x = .error e → ¬ Degrades e

/-- As long as no failed probe is remembered, nothing falls back. -/
abbrev Steady {α : Type} (env : Runtime) (co : TabCo α) : Prop :=
  Co.Yields (Tab.Available env) Undegraded co

section

variable {P : IdentityPrimitives} {env : Runtime} {α β : Type}

/-! ## Nothing falls back -/

theorem undegraded_ok {a : α} : Undegraded (.ok a : Except IdentityError α) := by
  rintro e ⟨⟩

theorem undegraded_error {e : IdentityError} (h : ¬ Degrades e) :
    Undegraded (.error e : Except IdentityError α) := by
  rintro e' ⟨⟩
  exact h

theorem Undegraded.error {e : IdentityError} (h : Undegraded (.error e : Except IdentityError α)) :
    Undegraded (.error e : Except IdentityError β) :=
  undegraded_error (h e rfl)

theorem steady_value {a : α} : Steady env (pure a : TabCo α) := Co.yields_value undegraded_ok

theorem Steady.bind {co : TabCo α} {f : α → TabCo β} (h : Steady env co)
    (hf : ∀ a, Steady env (f a)) : Steady env (co >>= f) :=
  Co.Yields.bind h (fun a _ => hf a) fun _ he => he.error

/-- An operation on keys touches no state. -/
theorem Evaluates.yields {K : Tab → Prop} {V : Except IdentityError α → Prop} {co : TabCo α}
    (h : Evaluates V co) : Co.Yields K V co := by
  have hsat : ∀ (o : Outcome PlatformReply Tab IdentityError α) (t : Tab), K t →
      o.Sat (fun _ => True) (fun _ _ => True) (fun t t' => t' = t) (fun _ x => V x) t →
      o.Sat K (fun _ _ => True) (fun _ _ => True) (fun t x => K t ∧ V x) t := by
    intro o
    induction o with
    | ret t' a =>
        rintro t ht ⟨rfl, hV⟩
        exact ⟨trivial, ht, hV⟩
    | throw t' e =>
        rintro t ht ⟨rfl, hV⟩
        exact ⟨trivial, ht, hV⟩
    | await t' k ih =>
        rintro t ht ⟨-, rfl, hk⟩
        exact ⟨ht, trivial, fun r t' ht' _ => ih r t' t' ht' (hk r t' trivial trivial)⟩
  exact fun t ht => hsat _ t ht (h t)

theorem Evaluates.steady {V : Except IdentityError α → Prop} {co : TabCo α} (h : Evaluates V co)
    (hV : ∀ x, V x → Undegraded x) : Steady env co :=
  h.yields.mono hV

theorem assertIDBAvailable_yields (hreliable : env.unreliable = false) :
    Co.Yields (Tab.Available env) (fun x => x = .ok ()) (assertIDBAvailable env) := by
  have hprobe : ∀ now, Co.Yields (Tab.Available env) (fun x => x = .ok ())
      (assertIDBAvailable.probe env now) := by
    intro now
    refine Co.yields_suspend fun r => ?_
    have hfailure : (if env.unreliable then r.probe else none) = none := by rw [hreliable]; rfl
    simp only [hfailure]
    refine Co.yields_modify (fun t _ => ?_) (Co.yields_value rfl)
    rintro - c ⟨⟩
    rfl
  refine Co.yields_suspend fun r => Co.yields_read fun t ht => ?_
  cases hcache : t.session.idbAvailabilityCache with
  | none => exact hprobe r.now
  | some c =>
      simp only
      split
      · rw [ht hreliable c hcache]
        exact Co.yields_value rfl
      · exact hprobe r.now

theorem request_steady {db : Database} {act : Storage → Except IdentityError (α × Storage)}
    (hdb : Healthy env db) (hact : ∀ storage e, act storage = .error e → ¬ Degrades e) :
    Steady env (request env db act) := by
  refine (assertIDBAvailable_yields hdb.1).bind (fun _ _ => ?_) ?_
  · refine Co.yields_suspend fun r => ?_
    simp only [hdb.2, Bool.false_eq_true, if_false]
    refine Co.yields_read fun t ht => ?_
    cases h : act t.storage with
    | error e => exact Co.yields_throw (undegraded_error (hact _ e h))
    | ok result =>
        refine Co.yields_modify (fun t' ht' => ht') ?_
        exact Co.yields_suspend fun _ => steady_value
  · rintro e ⟨⟩

theorem write_steady {db : Database} {update : Storage → Storage} (hdb : Healthy env db) :
    Steady env (write env db update) :=
  request_steady hdb fun storage e h => by cases h

theorem loadKey_steady {db : Database} {entry : Storage → Option StoredValue}
    (hdb : Healthy env db) : Steady env (loadKey env db entry) := by
  refine request_steady hdb fun storage e h => ?_
  split at h
  · cases h
    rintro ⟨⟩
  · cases h

theorem saveKek_steady {slot : KekSlot} {value : StoredValue} (hdb : Healthy env slot.db) :
    Steady env (saveKek env slot value) := by
  unfold saveKek saveKey
  refine request_steady hdb fun storage e h => ?_
  split at h
  · cases h
    rintro ⟨⟩
  · cases h

/-! ## The wrapping key -/

theorem handle_steady {entry : KekEntry} : Steady env entry.handle := by
  refine handle_evaluates.steady ?_
  rintro x (⟨key, rfl, -⟩ | ⟨rfl, -⟩)
  · exact undegraded_ok
  · exact undegraded_error (by rintro ⟨⟩)

theorem generateWrappingKey_steady {slot : KekSlot} {canClone : Bool} (hdb : Healthy env slot.db) :
    Steady env (generateWrappingKey env slot canClone) := by
  have hgenerate : ∀ extractable, Steady env (generateAesKwKey extractable) := fun extractable =>
    generateAesKwKey_evaluates.steady fun x hx => by
      obtain ⟨raw, rfl⟩ := hx
      exact undegraded_ok
  have himport : ∀ bytes, Steady env (importAesKwRaw bytes false) := fun bytes =>
    importAesKwRaw_evaluates.steady fun x hx => by
      subst hx
      split
      · exact undegraded_ok
      · exact undegraded_error (by rintro ⟨⟩)
  unfold generateWrappingKey
  cases canClone with
  | true =>
      exact Steady.bind (hgenerate false) fun kek =>
        Steady.bind (saveKek_steady hdb) fun _ => steady_value
  | false =>
      refine Steady.bind (hgenerate true) fun kek => Co.yields_suspend fun _ => ?_
      exact Steady.bind (saveKek_steady hdb) fun _ => himport _

/-- The adoption of an entry of the old layout throws nothing of a request. -/
theorem adoptLegacyWrappingKey_steady {canClone : Bool} (hworks : StorageWorks env) :
    Steady env (adoptLegacyWrappingKey env canClone) := by
  have hcopy : ∀ entry, Steady env (copyForward env entry canClone) := by
    intro entry
    cases entry with
    | raw bytes => exact saveKek_steady hworks.kek
    | key handle =>
        unfold copyForward
        cases canClone with
        | true => exact saveKek_steady hworks.kek
        | false => exact steady_value
  refine Co.Yields.attempt_bind (loadKey_steady hworks.identity) fun x _ => ?_
  cases x with
  | error e => exact steady_value
  | ok legacy =>
      cases legacy with
      | none => exact steady_value
      | some legacy =>
          cases hclassify : classifyKekEntry legacy with
          | none =>
              simp only [hclassify]
              exact steady_value
          | some entry =>
              simp only [hclassify]
              refine Steady.bind handle_steady fun key => ?_
              exact Co.Yields.attempt_bind (hcopy entry) fun _ _ => steady_value

theorem probeStructuredClone_steady {slot : KekSlot}
    (hcache : ∀ b (t : Tab), t.Available env → (t.withSession (slot.cacheProbe b)).Available env) :
    Steady env (probeStructuredClone env slot) := by
  refine Co.yields_read fun t _ => ?_
  cases slot.structuredCloneSupported t.session with
  | some supported => exact steady_value
  | none => exact Co.yields_suspend fun _ => Co.yields_modify (hcache _) steady_value

theorem getOrCreateWrappingKey_steady (hworks : StorageWorks env) :
    Steady env (getOrCreateWrappingKey env) := by
  have hfind : ∀ canClone, Steady env
      (findWrappingKey env deviceKek (adoptLegacyWrappingKey env) canClone) := by
    intro canClone
    refine Steady.bind (loadKey_steady hworks.kek) fun existing => ?_
    cases existing with
    | some existing =>
        cases hclassify : classifyKekEntry existing with
        | some entry =>
            simp only [hclassify]
            exact handle_steady
        | none =>
            simp only [hclassify]
            exact Co.yields_throw (undegraded_error (by rintro ⟨⟩))
    | none =>
        refine Steady.bind (adoptLegacyWrappingKey_steady hworks) fun adopted => ?_
        cases adopted with
        | some adopted => exact steady_value
        | none => exact generateWrappingKey_steady hworks.kek
  refine Co.yields_read fun t _ => ?_
  cases deviceKek.cachedWrappingKey t.session with
  | some key => exact steady_value
  | none =>
      refine Steady.bind (Steady.bind (probeStructuredClone_steady fun b t ht => ht) hfind)
        fun key => ?_
      exact Co.yields_modify (fun t ht => ht) steady_value

/-! ## The mint -/

theorem orThrow_steady {e : IdentityError} {o : Option α} (he : ¬ Degrades e) :
    Steady env (Co.orThrow e o : TabCo α) := by
  refine evaluates_orThrow.steady ?_
  rintro x rfl
  cases o with
  | some a => exact undegraded_ok
  | none => exact undegraded_error he

theorem wrapSecretBytes_steady {kek : CryptoKey} {rawBytes : Bytes} :
    Steady env (wrapSecretBytes P kek rawBytes) := by
  by_cases hlength : 16 ≤ rawBytes.length ∧ rawBytes.length % 8 = 0
  · refine (wrapSecretBytes_outcome hlength).steady ?_
    rintro x rfl
    cases kek.wraps with
    | true => exact undegraded_ok
    | false => exact undegraded_error (by rintro ⟨⟩)
  · have hcond : rawBytes.length < 16 ∨ rawBytes.length % 8 ≠ 0 := by omega
    simp only [wrapSecretBytes, hcond, if_true]
    exact Co.yields_throw (undegraded_error (by rintro ⟨⟩))

theorem wrapPrivateKey_steady {privateKey : Option Bytes} {kek : CryptoKey} :
    Steady env (wrapPrivateKey P privateKey kek) := by
  cases privateKey with
  | none => exact steady_value
  | some privateKey =>
      refine wrapPkcs8_outcome.steady ?_
      rintro x rfl
      cases kek.wraps with
      | true => exact undegraded_ok
      | false => exact undegraded_error (by rintro ⟨⟩)

theorem unwrapPkcs8_steady {supported : Bool} {header wrapped : Bytes} {kek : CryptoKey} :
    Steady env (unwrapPkcs8 P env supported header wrapped kek) := by
  refine unwrapPkcs8_outcome.steady ?_
  rintro x rfl
  cases kek.genuine with
  | false => exact undegraded_error (by rintro ⟨⟩)
  | true =>
      cases supported with
      | false => exact undegraded_error (by rintro ⟨⟩)
      | true =>
          cases kek.unwraps with
          | false => exact undegraded_error (by rintro ⟨⟩)
          | true =>
              simp only [whenTaken, whenSupported, openPkcs8, if_true]
              cases P.aesKwUnwrap kek.raw wrapped with
              | none => exact undegraded_error (by rintro ⟨⟩)
              | some pkcs8 =>
                  simp only
                  cases pkcs8Secret env header pkcs8 with
                  | none => exact undegraded_error (by rintro ⟨⟩)
                  | some secret => exact undegraded_ok

theorem runtimeHandles_steady {identity : DeviceIdentity} {wrapped : Bytes} {kek : CryptoKey} :
    Steady env (runtimeHandles P env identity wrapped kek) := by
  have hprivate : Steady env
      (some <$> unwrapPkcs8 P env env.ed25519 ED25519_PKCS8_PREFIX wrapped kek) := by
    rw [map_eq_pure_bind]
    exact Steady.bind unwrapPkcs8_steady fun _ => steady_value
  have hpublic : ∀ priv : Option Bytes, Steady env (do
      let publicKey ← Co.attempt (do
        let bytes ← Co.orThrow .data (fromBase64url identity.publicKeyB64)
        importPublicKey env.ed25519 bytes)
      return { identity with publicKey := publicKey.toOption, privateKey := priv } :
      TabCo DeviceIdentity) := fun priv =>
    Co.Yields.attempt_bind (Evaluates.yields importPublicKey_any) fun _ _ => steady_value
  unfold runtimeHandles
  cases identity.publicKey with
  | some bytes =>
      cases identity.privateKey with
      | none => exact Steady.bind steady_value fun _ => steady_value
      | some secret => exact Steady.bind hprivate fun _ => steady_value
  | none =>
      cases identity.privateKey with
      | none => exact Steady.bind steady_value hpublic
      | some secret => exact Steady.bind hprivate hpublic

theorem persistIdentity_steady {identity : DeviceIdentity} (hworks : StorageWorks env) :
    Steady env (persistIdentity P env identity) := by
  refine Steady.bind (getOrCreateWrappingKey_steady hworks) fun key => ?_
  refine Steady.bind (orThrow_steady (by rintro ⟨⟩)) fun seed => ?_
  refine Steady.bind wrapSecretBytes_steady fun wrappedRawSeed => ?_
  refine Steady.bind wrapPrivateKey_steady fun wrapped => ?_
  exact Steady.bind (write_steady hworks.identity) fun _ => runtimeHandles_steady

/-- **A mint persists**, when it does not throw. -/
theorem mintIdentityWithStorageFallback_persists (hworks : StorageWorks env) :
    Co.Yields (Tab.Available env) (fun x => ∀ minted, x = .ok minted → minted.persisted = true)
      (mintIdentityWithStorageFallback P env) := by
  have hgenerate : Steady env (generateDeviceIdentity P env) :=
    generateDeviceIdentity_evaluates.steady fun x hx => by
      obtain ⟨seed, d, rfl, -⟩ := hx
      exact undegraded_ok
  refine Co.Yields.attempt_bind (Steady.bind hgenerate fun _ => persistIdentity_steady hworks)
    fun x hx => ?_
  cases x with
  | ok identity =>
      refine Co.yields_value ?_
      rintro minted ⟨⟩
      rfl
  | error e =>
      cases e
      case idbUnavailable reason => exact absurd (.idbUnavailable reason) (hx _ rfl)
      case quotaExceeded => exact absurd .quotaExceeded (hx _ rfl)
      all_goals
        refine Co.yields_throw ?_
        rintro minted ⟨⟩

end

end Oxpulse.Identity
