import Oxpulse.Foundation.Preserves
import Oxpulse.Identity.X25519

/-!
# The self-signature of an X25519 key

`verifyX25519SelfSig` copies the peer's key into a buffer with room for 32 bytes.
A longer key does not fit and throws before the `try`; a shorter one is verified
with zeros behind it. So the check accepts exactly the bound key where the key has
32 bytes (`acceptsExactly_iff`), and only there.

The keys this package makes have 32 bytes. A pair that `getOrCreateX25519Identity`
hands out was bound in the call or is in the memo, and the memo holds only what
such a call put there (`x25519Identities_accepted`).
-/

namespace Oxpulse.Identity

open Oxpulse.Coroutine Oxpulse.Crypto

/-! ## The signed buffer -/

/-- The key with zeros up to 32 bytes. -/
def padded (x25519Pub : Bytes) : Bytes :=
  x25519Pub ++ List.replicate (32 - x25519Pub.length) 0

theorem pkbindBytes_eq (x25519Pub : Bytes) : pkbindBytes x25519Pub =
    if x25519Pub.length ≤ 32 then .ok (PKBIND_PREFIX ++ padded x25519Pub)
    else .error (.error "offset is out of bounds") := by
  have hhead : setBytes PKBIND_PREFIX 0 (List.replicate (PKBIND_PREFIX.length + 32) 0) =
      .ok (PKBIND_PREFIX ++ List.replicate 32 0) := by
    unfold setBytes
    rw [if_pos (by rw [List.length_replicate]; omega), List.take_zero, List.nil_append,
      List.drop_replicate]
    congr 3
    omega
  unfold pkbindBytes
  rw [hhead]
  show setBytes x25519Pub PKBIND_PREFIX.length (PKBIND_PREFIX ++ List.replicate 32 0) = _
  unfold setBytes
  rw [List.length_append, List.length_replicate]
  by_cases h : x25519Pub.length ≤ 32
  · rw [if_pos (by omega), if_pos h, List.take_left, List.append_assoc, List.drop_append,
      List.drop_eq_nil_of_le (by omega), List.nil_append, List.drop_replicate, padded]
    congr 5
    omega
  · rw [if_neg (by omega), if_neg h]

theorem padded_of_length {x25519Pub : Bytes} (h : x25519Pub.length = 32) :
    padded x25519Pub = x25519Pub := by
  rw [padded, h, Nat.sub_self, List.replicate_zero, List.append_nil]

theorem length_padded {x25519Pub : Bytes} (h : x25519Pub.length ≤ 32) :
    (padded x25519Pub).length = 32 := by
  rw [padded, List.length_append, List.length_replicate]
  omega

/-! ## The check -/

section Check

variable (verify : Bytes → Bytes → Bytes → Except IdentityError Bool)

/-- A strict signature of the message under the public key. -/
def StrictlySigns (sig msg pub : Bytes) : Prop := verify sig msg pub = .ok true

/-- The library: what is signed verifies under the key of the seed, a signature
verifies for one message, and X25519 public keys have 32 bytes. -/
structure SelfSigLaws (P : IdentityPrimitives) : Prop where
  signed : ∀ msg (seed : Key32),
    StrictlySigns verify (P.ed25519Sign msg seed.bytes) msg (P.ed25519PublicKey seed).bytes
  single : ∀ sig msg msg' pub, StrictlySigns verify sig msg pub →
    StrictlySigns verify sig msg' pub → msg = msg'
  size : ∀ scalar : Key32, (P.x25519PublicKey scalar.bytes).length = 32

/-- The check returns a boolean, and it is true exactly for a signature over the
prefix and the key. -/
def AcceptsExactly (x25519Pub selfSig ed25519Pub : Bytes) : Prop :=
  ∃ accepted, verifyX25519SelfSig verify x25519Pub selfSig ed25519Pub = .ok accepted ∧
    (accepted = true ↔ StrictlySigns verify selfSig (PKBIND_PREFIX ++ x25519Pub) ed25519Pub)

variable {P : IdentityPrimitives} {x25519Pub x25519Pub' : Bytes}

theorem verifyX25519SelfSig_of_le (selfSig ed25519Pub : Bytes) (h : x25519Pub.length ≤ 32) :
    ∃ accepted, verifyX25519SelfSig verify x25519Pub selfSig ed25519Pub = .ok accepted ∧
      (accepted = true ↔
        StrictlySigns verify selfSig (PKBIND_PREFIX ++ padded x25519Pub) ed25519Pub) := by
  unfold verifyX25519SelfSig StrictlySigns
  rw [pkbindBytes_eq, if_pos h]
  cases hverify : verify selfSig (PKBIND_PREFIX ++ padded x25519Pub) ed25519Pub with
  | ok accepted => exact ⟨accepted, by simp [bind, Except.bind, hverify, pure, Except.pure], by simp⟩
  | error e => exact ⟨false, by simp [bind, Except.bind, hverify, pure, Except.pure], by simp⟩

variable {verify} {selfSig ed25519Pub : Bytes}

theorem verifyX25519SelfSig_of_lt (h : 32 < x25519Pub.length) :
    verifyX25519SelfSig verify x25519Pub selfSig ed25519Pub =
      .error (.error "offset is out of bounds") := by
  unfold verifyX25519SelfSig
  rw [pkbindBytes_eq, if_neg (Nat.not_le.mpr h)]
  rfl

/-- What the check accepts: the signature over the padded key. -/
theorem accepted_iff : verifyX25519SelfSig verify x25519Pub selfSig ed25519Pub = .ok true ↔
    x25519Pub.length ≤ 32 ∧
      StrictlySigns verify selfSig (PKBIND_PREFIX ++ padded x25519Pub) ed25519Pub := by
  rcases Nat.lt_or_ge 32 x25519Pub.length with hlt | hle
  · rw [verifyX25519SelfSig_of_lt hlt]
    constructor
    · intro h
      cases h
    · rintro ⟨hle, -⟩
      exact absurd hle (Nat.not_le.mpr hlt)
  · obtain ⟨accepted, heq, hiff⟩ :=
      verifyX25519SelfSig_of_le verify selfSig ed25519Pub hle
    rw [heq, Except.ok.injEq, hiff, and_iff_right hle]

/-- A short key is not the key that is verified. -/
theorem padded_ne (h : x25519Pub.length < 32) : PKBIND_PREFIX ++ padded x25519Pub ≠
    PKBIND_PREFIX ++ x25519Pub := by
  intro heq
  have hlength := congrArg List.length (List.append_cancel_left heq)
  rw [length_padded (Nat.le_of_lt h)] at hlength
  omega

/-- **When the check accepts exactly the bound key.** -/
theorem acceptsExactly_iff (hlaws : SelfSigLaws verify P) :
    AcceptsExactly verify x25519Pub selfSig ed25519Pub ↔
      x25519Pub.length = 32 ∨ x25519Pub.length < 32 ∧
        ¬ StrictlySigns verify selfSig (PKBIND_PREFIX ++ x25519Pub) ed25519Pub ∧
        ¬ StrictlySigns verify selfSig (PKBIND_PREFIX ++ padded x25519Pub) ed25519Pub := by
  unfold AcceptsExactly
  rcases Nat.lt_trichotomy x25519Pub.length 32 with hlt | heq | hgt
  · obtain ⟨accepted, hrun, hiff⟩ := verifyX25519SelfSig_of_le verify selfSig ed25519Pub
      (Nat.le_of_lt hlt)
    have hsingle := fun hpadded hkey =>
      padded_ne hlt (hlaws.single selfSig _ _ ed25519Pub hpadded hkey)
    constructor
    · rintro ⟨accepted', hrun', hiff'⟩
      obtain rfl : accepted = accepted' := Except.ok.inj (hrun.symm.trans hrun')
      refine Or.inr ⟨hlt, fun hkey => ?_, fun hpadded => ?_⟩
      · exact hsingle (hiff.mp (hiff'.mpr hkey)) hkey
      · exact hsingle hpadded (hiff'.mp (hiff.mpr hpadded))
    · rintro (heq | ⟨-, hkey, hpadded⟩)
      · omega
      · exact ⟨accepted, hrun, fun h => absurd (hiff.mp h) hpadded, fun h => absurd h hkey⟩
  · obtain ⟨accepted, hrun, hiff⟩ := verifyX25519SelfSig_of_le verify selfSig ed25519Pub
      (Nat.le_of_eq heq)
    rw [padded_of_length heq] at hiff
    exact ⟨fun _ => Or.inl heq, fun _ => ⟨accepted, hrun, hiff⟩⟩
  · constructor
    · rintro ⟨accepted, hrun, -⟩
      rw [verifyX25519SelfSig_of_lt hgt] at hrun
      cases hrun
    · rintro (heq | ⟨hlt, -⟩)
      · omega
      · omega

/-- A key that is bound as it is verified. -/
def boundKey (P : IdentityPrimitives) (x25519Pub : Bytes) : Bytes :=
  P.ed25519Sign (PKBIND_PREFIX ++ padded x25519Pub) (List.replicate 32 0)

theorem boundKey_signs (hlaws : SelfSigLaws verify P) (x25519Pub : Bytes) :
    StrictlySigns verify (boundKey P x25519Pub) (PKBIND_PREFIX ++ padded x25519Pub)
      (P.ed25519PublicKey ⟨List.replicate 32 0, rfl⟩).bytes :=
  hlaws.signed _ ⟨List.replicate 32 0, rfl⟩

/-- **Which keys the check is right for**: those of 32 bytes. -/
theorem acceptsExactly_key_iff (hlaws : SelfSigLaws verify P) :
    (∀ selfSig ed25519Pub, AcceptsExactly verify x25519Pub selfSig ed25519Pub) ↔
      x25519Pub.length = 32 := by
  constructor
  · intro h
    rcases (acceptsExactly_iff hlaws).mp (h (boundKey P x25519Pub) _) with heq | ⟨-, -, hnot⟩
    · exact heq
    · exact absurd (boundKey_signs hlaws x25519Pub) hnot
  · exact fun heq _ _ => (acceptsExactly_iff hlaws).mpr (Or.inl heq)

/-- **Which two keys are never accepted alike**: those that differ with their
zeros. -/
theorem accepted_once_iff (hlaws : SelfSigLaws verify P) :
    (∀ selfSig ed25519Pub,
      verifyX25519SelfSig verify x25519Pub selfSig ed25519Pub = .ok true →
      verifyX25519SelfSig verify x25519Pub' selfSig ed25519Pub = .ok true →
      x25519Pub = x25519Pub') ↔
    (x25519Pub.length ≤ 32 → x25519Pub'.length ≤ 32 → padded x25519Pub = padded x25519Pub' →
      x25519Pub = x25519Pub') := by
  constructor
  · intro h hle hle' hpadded
    refine h (boundKey P x25519Pub) _ (accepted_iff.mpr ⟨hle, boundKey_signs hlaws x25519Pub⟩)
      (accepted_iff.mpr ⟨hle', ?_⟩)
    rw [← hpadded]
    exact boundKey_signs hlaws x25519Pub
  · intro h selfSig ed25519Pub haccepted haccepted'
    obtain ⟨hle, hsigns⟩ := accepted_iff.mp haccepted
    obtain ⟨hle', hsigns'⟩ := accepted_iff.mp haccepted'
    exact h hle hle' (List.append_cancel_left (hlaws.single _ _ _ _ hsigns hsigns'))

end Check

/-! ## What leaves the memo alone -/

/-- What is known does not depend on more than the memo. -/
def MemoOnly (K : Tab → Prop) : Prop :=
  ∀ t t', t'.session.x25519Cache = t.session.x25519Cache → K t → K t'

section Memo

variable {P : IdentityPrimitives} {env : Runtime} {K : Tab → Prop} {α : Type}

open Co (Preserves)

theorem preserves_assign (hK : MemoOnly K) {f : Tab → Tab}
    (hf : ∀ t, (f t).session.x25519Cache = t.session.x25519Cache) :
    Preserves K (modify f : TabCo PUnit) :=
  Co.preserves_modify fun t ht => hK t (f t) (hf t) ht

theorem preserves_assign_bind (hK : MemoOnly K) {f : Tab → Tab} {co : PUnit → TabCo α}
    (hf : ∀ t, (f t).session.x25519Cache = t.session.x25519Cache)
    (h : ∀ u, Preserves K (co u)) : Preserves K (modify f >>= co) :=
  (preserves_assign hK hf).bind h

theorem preserves_assertIDBAvailable (hK : MemoOnly K) : Preserves K (assertIDBAvailable env) := by
  have hprobe : ∀ now, Preserves K (assertIDBAvailable.probe env now) := by
    intro now
    refine Co.preserves_suspend.bind fun r => ?_
    refine preserves_assign_bind hK (fun _ => rfl) fun _ => ?_
    split
    · exact Co.preserves_throw _
    · exact Co.preserves_value _
  refine Co.preserves_suspend.bind fun r => Co.preserves_read fun t => ?_
  split
  · split
    · split
      · exact Co.preserves_throw _
      · exact Co.preserves_value _
    · exact hprobe _
  · exact hprobe _

theorem preserves_request (hK : MemoOnly K) (db : Database)
    (act : Storage → Except IdentityError (α × Storage)) : Preserves K (request env db act) := by
  refine (preserves_assertIDBAvailable hK).bind fun _ => Co.preserves_suspend.bind fun r => ?_
  split
  · exact Co.preserves_throw _
  · refine Co.preserves_read fun t => (Co.preserves_ofExcept _).bind fun x => ?_
    obtain ⟨a, storage⟩ := x
    exact preserves_assign_bind hK (fun _ => rfl) fun _ =>
      Co.preserves_suspend.bind fun _ => Co.preserves_value a

theorem preserves_importAesKwRaw (bytes : Bytes) (extractable : Bool) :
    Preserves K (importAesKwRaw bytes extractable) :=
  Co.preserves_suspend.bind fun _ =>
    Co.preserves_ite (Co.preserves_value _) (Co.preserves_throw _)

theorem preserves_handle (entry : KekEntry) : Preserves K entry.handle := by
  cases entry with
  | raw bytes => exact preserves_importAesKwRaw bytes false
  | key kek => exact Co.preserves_value kek

theorem preserves_generateAesKwKey (extractable : Bool) :
    Preserves K (generateAesKwKey extractable) :=
  Co.preserves_suspend.bind fun _ => Co.preserves_value _

theorem preserves_saveKek (hK : MemoOnly K) (slot : KekSlot) (value : StoredValue) :
    Preserves K (saveKek env slot value) := by
  unfold saveKek saveKey
  exact preserves_request hK _ _

theorem preserves_generateWrappingKey (hK : MemoOnly K) (slot : KekSlot) (canClone : Bool) :
    Preserves K (generateWrappingKey env slot canClone) := by
  unfold generateWrappingKey
  split
  · exact (preserves_generateAesKwKey false).bind fun kek =>
      (preserves_saveKek hK slot _).bind fun _ => Co.preserves_value kek
  · exact (preserves_generateAesKwKey true).bind fun kek => Co.preserves_suspend.bind fun _ =>
      (preserves_saveKek hK slot _).bind fun _ => preserves_importAesKwRaw _ _

theorem preserves_adoptLegacyWrappingKey (hK : MemoOnly K) (canClone : Bool) :
    Preserves K (adoptLegacyWrappingKey env canClone) := by
  have hcopy : ∀ entry, Preserves K (copyForward env entry canClone) := by
    intro entry
    cases entry with
    | raw bytes => exact preserves_saveKek hK _ _
    | key kek => exact Co.preserves_ite (preserves_saveKek hK _ _) (Co.preserves_value _)
  refine (preserves_request hK _ _).attempt.bind fun loaded => ?_
  split
  · exact Co.preserves_value none
  · exact Co.preserves_value none
  · split
    · exact Co.preserves_value none
    · exact (preserves_handle _).bind fun key => (hcopy _).attempt.bind fun _ =>
        Co.preserves_value (some key)

theorem preserves_getOrCreateWrappingKey (hK : MemoOnly K) :
    Preserves K (getOrCreateWrappingKey env) := by
  have hprobe : Preserves K (probeStructuredClone env deviceKek) := by
    refine Co.preserves_read fun t => ?_
    split
    · exact Co.preserves_value _
    · exact Co.preserves_suspend.bind fun _ =>
        preserves_assign_bind hK (fun _ => rfl) fun _ => Co.preserves_value _
  have hfind : ∀ canClone, Preserves K
      (findWrappingKey env deviceKek (adoptLegacyWrappingKey env) canClone) := by
    intro canClone
    refine (preserves_request hK _ _).bind fun loaded => ?_
    split
    · split
      · exact preserves_handle _
      · exact Co.preserves_throw _
    · refine (preserves_adoptLegacyWrappingKey hK canClone).bind fun adopted => ?_
      split
      · exact Co.preserves_value _
      · exact preserves_generateWrappingKey hK _ _
  refine Co.preserves_read fun t => ?_
  split
  · exact Co.preserves_value _
  · exact (hprobe.bind hfind).bind fun kek =>
      preserves_assign_bind hK (fun _ => rfl) fun _ => Co.preserves_value kek

theorem preserves_wrapSecretBytes (kek : CryptoKey) (rawBytes : Bytes) :
    Preserves K (wrapSecretBytes P kek rawBytes) :=
  Co.preserves_ite (Co.preserves_throw _) (Co.preserves_suspend.bind fun _ =>
    Co.preserves_suspend.bind fun _ =>
      Co.preserves_ite (Co.preserves_value _) (Co.preserves_throw _))

theorem preserves_unwrapSecretBytes (kek : CryptoKey) (wrapped : Bytes) :
    Preserves K (unwrapSecretBytes P kek wrapped) := by
  refine Co.preserves_suspend.bind fun _ => Co.preserves_ite ?_ (Co.preserves_throw _)
  split
  · exact Co.preserves_suspend.bind fun _ => Co.preserves_value _
  · exact Co.preserves_throw _

theorem preserves_loadOrMintSealed (hK : MemoOnly K) (owner : List Char) (epochAtEntry : ℕ) :
    Preserves K (loadOrMintSealed P env owner epochAtEntry) := by
  have hcache : ∀ priv, Preserves K (cacheSealed owner epochAtEntry priv) := fun _ =>
    preserves_assign hK fun _ => rfl
  have hmint : ∀ kek, Preserves K (mintSealed P env owner epochAtEntry kek) := by
    intro kek
    refine (Co.preserves_suspend.bind fun _ => Co.preserves_value _).bind fun priv => ?_
    refine (preserves_wrapSecretBytes kek priv.bytes).bind fun wrapped => ?_
    refine Co.preserves_read fun t => ?_
    dsimp only
    split
    · exact Co.preserves_value _
    · split
      · exact Co.preserves_value _
      · exact (preserves_request hK _ _).bind fun _ => (hcache _).bind fun _ =>
          Co.preserves_value _
  refine (preserves_getOrCreateWrappingKey hK).bind fun kek => ?_
  refine (preserves_request hK _ _).bind fun existing => ?_
  split
  · exact (preserves_unwrapSecretBytes kek _).bind fun priv => (hcache priv).bind fun _ =>
      Co.preserves_value priv
  · exact hmint kek

theorem preserves_withIdentityLock (hK : MemoOnly K) (me : Agent) {fn : TabCo α}
    (hfn : Preserves K fn) : Preserves K (withIdentityLock env me fn) := by
  unfold withIdentityLock
  split
  · refine Co.preserves_suspend.bind fun _ => Co.preserves_read fun t => ?_
    split
    · exact Co.preserves_throw _
    · exact preserves_assign_bind hK (fun _ => rfl) fun _ => hfn.attempt.bind fun result =>
        Co.preserves_suspend.bind fun _ => preserves_assign_bind hK (fun _ => rfl) fun _ =>
          Co.preserves_ofExcept result
  · exact hfn

/-- **The sealed scalar is resolved without the memo.** -/
theorem preserves_getOrCreateSealedX25519Secret (hK : MemoOnly K) (me : Agent)
    (owner : List Char) : Preserves K (getOrCreateSealedX25519Secret P env me owner) := by
  have hmint : Preserves K (sealedX25519Mint P env owner) := by
    refine Co.preserves_read fun t => ?_
    dsimp only
    split
    · exact Co.preserves_value _
    · exact preserves_loadOrMintSealed hK owner _
  have hinner : Preserves K (sealedX25519Inner P env owner) := by
    refine hmint.attempt.bind fun result => ?_
    split
    · exact Co.preserves_value _
    · exact Co.preserves_throw _
    · exact Co.preserves_throw _
    · exact Co.preserves_throw _
  have hflight : ∀ entry, Preserves K (sealedFlight P env me owner entry) := fun entry =>
    preserves_assign_bind hK (fun _ => rfl) fun _ =>
      (preserves_withIdentityLock hK me hinner).attempt.bind fun result =>
        Co.preserves_suspend.bind fun _ => preserves_assign_bind hK (fun _ => rfl) fun _ =>
          Co.preserves_ofExcept result
  refine Co.preserves_read fun t => ?_
  dsimp only
  split
  · exact Co.preserves_value _
  · split
    · refine Co.preserves_suspend.bind fun _ => Co.preserves_read fun t => ?_
      split
      · exact Co.preserves_ofExcept _
      · exact Co.preserves_throw _
    · exact hflight _

end Memo

/-! ## Pairs of identities -/

/-- The pair binds its key to the seed of the identity. -/
def Bound (P : IdentityPrimitives) (identity : DeviceIdentity) (id : X25519Identity) : Prop :=
  ∃ priv seed, identity.privateKeySeed = some seed ∧ bindX25519 P priv seed = .ok id

/-- The memo holds pairs of the objects they stand for. -/
def MemoBound (P : IdentityPrimitives) (objects : ℕ → DeviceIdentity) (t : Tab) : Prop :=
  ∀ object epoch id, t.session.x25519Cache.get? object = some (epoch, id) →
    Bound P (objects object) id

/-- No segment writes the memo. -/
def LeavesMemo {α : Type} (co : TabCo α) : Prop :=
  ∀ t, Co.Triple (fun _ _ => True)
    (fun t t' => t'.session.x25519Cache = t.session.x25519Cache) (fun _ _ => True) co t

/-- A call in the tab: of `getOrCreateX25519Identity` for an object, or of other
code, which does not know of the memo. -/
inductive TabCall : Type where
  | x25519Identity (me : Agent) (object : ℕ)
  | other (co : TabCo Unit)

def TabCall.body (P : IdentityPrimitives) (env : Runtime) (objects : ℕ → DeviceIdentity) :
    TabCall → TabCo (Option X25519Identity)
  | .x25519Identity me object => do
      let id ← getOrCreateX25519Identity P env me object (objects object)
      return some id
  | .other co => do
      co
      return none

section Pairs

variable {P : IdentityPrimitives} {env : Runtime} {objects : ℕ → DeviceIdentity}
  {verify : Bytes → Bytes → Bytes → Except IdentityError Bool}

theorem memoOnly_memoBound : MemoOnly (MemoBound P objects) := by
  intro t t' hcache ht object epoch id hget
  rw [hcache] at hget
  exact ht object epoch id hget

theorem nobleKey_ok {bytes : Bytes} {key : Key32} (h : nobleKey bytes = .ok key) :
    key.bytes = bytes := by
  unfold nobleKey toKey32 at h
  by_cases hsize : bytes.length = 32
  · rw [dif_pos hsize] at h
    cases h
    rfl
  · rw [dif_neg hsize] at h
    cases h

/-- A key of the library fits into the buffer. -/
theorem pkbindBytes_key (hlaws : SelfSigLaws verify P) (scalar : Key32) :
    pkbindBytes (P.x25519PublicKey scalar.bytes) =
      .ok (PKBIND_PREFIX ++ padded (P.x25519PublicKey scalar.bytes)) := by
  rw [pkbindBytes_eq, if_pos (Nat.le_of_eq (hlaws.size scalar))]

/-- **A bound pair is accepted** under the public key of its seed. -/
theorem verify_bindX25519 (hlaws : SelfSigLaws verify P) {priv seed : Bytes}
    {id : X25519Identity} (h : bindX25519 P priv seed = .ok id) :
    ∃ key : Key32, key.bytes = seed ∧
      verifyX25519SelfSig verify id.pub id.selfSig (P.ed25519PublicKey key).bytes = .ok true := by
  unfold bindX25519 at h
  cases hscalar : nobleKey priv with
  | error e =>
      rw [hscalar] at h
      cases h
  | ok scalar =>
      rw [hscalar] at h
      cases hseed : nobleKey seed with
      | error e =>
          rw [hseed] at h
          change (pkbindBytes _ >>= fun _ => _) = _ at h
          rw [pkbindBytes_key hlaws] at h
          cases h
      | ok key =>
          rw [hseed] at h
          change (pkbindBytes _ >>= fun _ => _) = _ at h
          rw [pkbindBytes_key hlaws] at h
          cases h
          exact ⟨key, nobleKey_ok hseed,
            accepted_iff.mpr ⟨Nat.le_of_eq (hlaws.size scalar), hlaws.signed _ key⟩⟩

theorem verify_generateX25519Identity (hlaws : SelfSigLaws verify P) {secretKey : Key32}
    {ed25519PrivKey : Bytes} {id : X25519Identity}
    (h : generateX25519Identity P secretKey ed25519PrivKey = .ok id) :
    ∃ key : Key32, key.bytes = ed25519PrivKey ∧
      verifyX25519SelfSig verify id.pub id.selfSig (P.ed25519PublicKey key).bytes = .ok true := by
  unfold generateX25519Identity at h
  dsimp only at h
  rw [pkbindBytes_key hlaws] at h
  cases hseed : nobleKey ed25519PrivKey with
  | error e =>
      rw [hseed] at h
      cases h
  | ok key =>
      rw [hseed] at h
      cases h
      exact ⟨key, nobleKey_ok hseed,
        accepted_iff.mpr ⟨Nat.le_of_eq (hlaws.size secretKey), hlaws.signed _ key⟩⟩

theorem memoisedX25519_bound {t : Tab} (ht : MemoBound P objects t) {object : ℕ}
    {id : X25519Identity} (h : memoisedX25519 t.session object = some id) :
    Bound P (objects object) id := by
  unfold memoisedX25519 at h
  split at h
  next epoch id' hget =>
    split at h
    · cases h
      exact ht object epoch id hget
    · cases h
  next => cases h

/-- What a call puts into the memo keeps it bound. -/
theorem memoBound_cache {t : Tab} (ht : MemoBound P objects t) {object epochAtEntry : ℕ}
    {id : X25519Identity} (hid : Bound P (objects object) id) :
    MemoBound P objects (t.withSession fun s =>
      if s.identityEpochCounter = epochAtEntry then
        { s with x25519Cache := s.x25519Cache.set object (epochAtEntry, id) }
      else s) := by
  intro object' epoch id' hget
  rw [Tab.withSession_session] at hget
  split at hget
  next =>
    by_cases hobject : object = object'
    · subst hobject
      dsimp only at hget
      rw [InsMap.get?_set_self] at hget
      cases hget
      exact hid
    · dsimp only at hget
      rw [InsMap.get?_set_ne _ hobject] at hget
      exact ht object' epoch id' hget
  next => exact ht object' epoch id' hget

theorem get_apply {α : Type} {f : Tab → TabCo α} {t : Tab} : (get >>= f) t = f t t := rfl

/-- **One call**: it hands out a bound pair and memoises only such. -/
theorem getOrCreateX25519Identity_bound (me : Agent) (object : ℕ) {t : Tab}
    (ht : MemoBound P objects t) :
    (getOrCreateX25519Identity P env me object (objects object) t).Sat (MemoBound P objects)
      (fun _ _ => True) (fun _ _ => True)
      (fun t x => MemoBound P objects t ∧ ∀ id, x = .ok id → Bound P (objects object) id) t := by
  have hfailed : ∀ {t : Tab} {e : IdentityError}, MemoBound P objects t → MemoBound P objects t ∧
      ∀ id, (Except.error e : Except IdentityError X25519Identity) = .ok id →
        Bound P (objects object) id :=
    fun ht => ⟨ht, fun _ h => nomatch h⟩
  unfold getOrCreateX25519Identity
  rw [get_apply]
  cases hmemo : memoisedX25519 t.session object with
  | some id =>
      refine ⟨trivial, ht, fun id' h => ?_⟩
      cases h
      exact memoisedX25519_bound ht hmemo
  | none =>
      cases hseed : (objects object).privateKeySeed with
      | none => exact ⟨trivial, hfailed ht⟩
      | some seed =>
          have hpreserves : Co.Preserves (MemoBound P objects)
              (getOrCreateSealedX25519Secret P env me (objects object).publicKeyB64) :=
            preserves_getOrCreateSealedX25519Secret memoOnly_memoBound me _
          have hsealed := hpreserves.await.sat ht
          refine hsealed.bind (fun _ _ h => h) (fun _ _ _ _ _ => trivial) (fun t' priv ht' => ?_)
            fun _ _ ht' => hfailed ht'
          cases hbind : bindX25519 P priv seed with
          | error e => exact ⟨trivial, hfailed ht'⟩
          | ok id =>
              have hbound : Bound P (objects object) id := ⟨priv, seed, hseed, hbind⟩
              refine ⟨trivial, ?_, fun id' h => ?_⟩
              · exact memoBound_cache ht' hbound
              · cases h
                exact hbound

/-- What a settled call says of its pair. -/
def SettledBound (P : IdentityPrimitives) (objects : ℕ → DeviceIdentity) (a : TabCall)
    (x : Except IdentityError (Option X25519Identity)) : Prop :=
  ∀ me object id, a = .x25519Identity me object → x = .ok (some id) → Bound P (objects object) id

theorem tabCall_bound {a : TabCall} (hother : ∀ co, a = .other co → LeavesMemo co) {t : Tab}
    (ht : MemoBound P objects t) :
    (a.body P env objects t).Sat (MemoBound P objects) (fun _ _ => True) (fun _ _ => True)
      (fun t x => MemoBound P objects t ∧ SettledBound P objects a x) t := by
  cases a with
  | x25519Identity me object =>
      refine (getOrCreateX25519Identity_bound me object ht).bind (fun _ _ h => h)
        (fun _ _ _ _ _ => trivial) (fun t' id h => ?_) fun t' e h => ⟨h.1, fun _ _ _ _ h => ?_⟩
      · refine ⟨trivial, h.1, ?_⟩
        rintro _ _ id' ⟨⟩ ⟨⟩
        exact h.2 _ rfl
      · cases h
  | other co =>
      have hstays : (co t).Stays (MemoBound P objects) :=
        Outcome.Sat.stays (fun t t' ht hcache => memoOnly_memoBound t t' hcache ht) ht
          (hother co rfl t)
      refine (hstays.sat t).bind (fun _ _ h => h) (fun _ _ _ _ _ => trivial)
        (fun t' _ ht' => ?_) fun t' e ht' => ⟨ht', fun _ _ _ h => ?_⟩
      · exact ⟨trivial, ht', fun _ _ _ h => nomatch h⟩
      · cases h

/-- **Every pair of a run is bound** to the identity it was asked for. -/
theorem run_bound {t : Tab} (ht : t.session.x25519Cache = InsMap.empty)
    {ms : List (Move TabCall PlatformReply)}
    (hother : ∀ co, Move.start (TabCall.other co) ∈ ms → LeavesMemo co) {i object : ℕ}
    {me : Agent} {id : X25519Identity}
    (hcall : ((Pool.fresh t).exec (TabCall.body P env objects) ms).calls[i]? =
      some ⟨.x25519Identity me object, .settled (.ok (some id))⟩) :
    Bound P (objects object) id := by
  have hmemo : MemoBound P objects t := by
    intro object epoch id hget
    rw [ht] at hget
    cases hget
  have hcalls : ∀ pre a post, ms = pre ++ .start a :: post →
      MemoBound P objects ((Pool.fresh t).exec (TabCall.body P env objects) pre).shared →
      (a.body P env objects ((Pool.fresh t).exec (TabCall.body P env objects) pre).shared).Sat
        (MemoBound P objects) (fun _ _ => True) (fun _ _ => True)
        (fun t x => MemoBound P objects t ∧ SettledBound P objects a x)
        ((Pool.fresh t).exec (TabCall.body P env objects) pre).shared :=
    fun pre a post heq hpre => tabCall_bound (fun co ha => hother co (by rw [heq, ha]; simp)) hpre
  have hkept := Pool.exec_kept (I := MemoBound P objects)
    (Q := fun _ a t x => MemoBound P objects t ∧ SettledBound P objects a x)
    (fun _ => trivial) (fun _ _ _ _ _ => trivial) (fun _ _ _ _ h => h.1) hmemo ms hcalls
  obtain ⟨t', ⟨-, hbound⟩, -⟩ := hkept.2 i _ _ hcall
  exact hbound me object id rfl rfl

end Pairs

/-! ## What the check accepts -/

/-- **What the check of a self-signature accepts.** It is right about a key exactly
where the key has 32 bytes, and it keeps two keys apart unless they differ in their
last zeros only; the pairs of this package are accepted under the key of the seed they
were signed with. -/
theorem verifyX25519SelfSig_exact {P : IdentityPrimitives}
    {verify : Bytes → Bytes → Bytes → Except IdentityError Bool} (hlaws : SelfSigLaws verify P) :
    (∀ x25519Pub selfSig ed25519Pub, AcceptsExactly verify x25519Pub selfSig ed25519Pub ↔
      x25519Pub.length = 32 ∨ x25519Pub.length < 32 ∧
        ¬ StrictlySigns verify selfSig (PKBIND_PREFIX ++ x25519Pub) ed25519Pub ∧
        ¬ StrictlySigns verify selfSig (PKBIND_PREFIX ++ padded x25519Pub) ed25519Pub) ∧
    (∀ x25519Pub, (∀ selfSig ed25519Pub, AcceptsExactly verify x25519Pub selfSig ed25519Pub) ↔
      x25519Pub.length = 32) ∧
    (∀ x25519Pub x25519Pub', (∀ selfSig ed25519Pub,
        verifyX25519SelfSig verify x25519Pub selfSig ed25519Pub = .ok true →
        verifyX25519SelfSig verify x25519Pub' selfSig ed25519Pub = .ok true →
        x25519Pub = x25519Pub') ↔
      (x25519Pub.length ≤ 32 → x25519Pub'.length ≤ 32 →
        padded x25519Pub = padded x25519Pub' → x25519Pub = x25519Pub')) ∧
    (∀ secretKey ed25519PrivKey id, generateX25519Identity P secretKey ed25519PrivKey = .ok id →
      ∃ key : Key32, key.bytes = ed25519PrivKey ∧
        verifyX25519SelfSig verify id.pub id.selfSig (P.ed25519PublicKey key).bytes = .ok true) ∧
    ∀ (env : Runtime) (objects : ℕ → DeviceIdentity) (t : Tab)
      (ms : List (Move TabCall PlatformReply)), t.session.x25519Cache = InsMap.empty →
      (∀ co, Move.start (TabCall.other co) ∈ ms → LeavesMemo co) →
      ∀ (i : ℕ) (me : Agent) (object : ℕ) (id : X25519Identity),
      ((Pool.fresh t).exec (TabCall.body P env objects) ms).calls[i]? =
        some ⟨.x25519Identity me object, .settled (.ok (some id))⟩ →
      ∃ key : Key32, (objects object).privateKeySeed = some key.bytes ∧
        verifyX25519SelfSig verify id.pub id.selfSig (P.ed25519PublicKey key).bytes = .ok true := by
  refine ⟨fun _ _ _ => acceptsExactly_iff hlaws, fun _ => acceptsExactly_key_iff hlaws,
    fun _ _ => accepted_once_iff hlaws, fun _ _ _ h => verify_generateX25519Identity hlaws h, ?_⟩
  intro env objects t ms ht hother i me object id hcall
  obtain ⟨priv, seed, hseed, hbind⟩ := run_bound ht hother hcall
  obtain ⟨key, rfl, haccepted⟩ := verify_bindX25519 hlaws hbind
  exact ⟨key, hseed, haccepted⟩

/-- A sample signature holds the message and the seed. -/
def sampleVerify (sig msg pub : Bytes) : Except IdentityError Bool :=
  .ok (sig = msg ++ pub.map (· - 1))

theorem sampleVerify_laws : SelfSigLaws sampleVerify samplePrimitives where
  signed msg seed := by
    have hseed : (samplePrimitives.ed25519PublicKey seed).bytes.map (· - 1) = seed.bytes := by
      show (seed.bytes.map (· + 1)).map (· - 1) = seed.bytes
      rw [List.map_map]
      refine (List.map_congr_left fun b _ => ?_).trans (List.map_id _)
      exact UInt8.add_sub_cancel b 1
    unfold StrictlySigns sampleVerify
    rw [hseed]
    exact congrArg Except.ok (decide_eq_true rfl)
  single sig msg msg' pub h h' := by
    have hsig := of_decide_eq_true (Except.ok.inj h)
    have hsig' := of_decide_eq_true (Except.ok.inj h')
    exact List.append_cancel_right (hsig.symm.trans hsig')
  size scalar := (List.length_map _).trans scalar.size

/-- A tab that has the sealed scalar of its identity in memory. -/
def sealedTab : Tab where
  origin := ⟨Storage.empty, none⟩
  session := { Session.fresh with cachedSealedX25519 := some ⟨['o'], 0, List.replicate 32 4⟩ }

def sealedOwner : DeviceIdentity := ⟨['o'], none, none, some (List.replicate 32 7)⟩

def sealedReply : PlatformReply := ⟨0, sampleKey 1, none, none⟩

/-- The pair of `sealedOwner`. -/
def sealedPair : X25519Identity :=
  ⟨List.replicate 32 4, List.replicate 32 5,
    PKBIND_PREFIX ++ List.replicate 32 5 ++ List.replicate 32 7⟩

theorem verifyX25519SelfSig_exact_sample :
    ((∀ selfSig ed25519Pub, AcceptsExactly sampleVerify [9] selfSig ed25519Pub) ↔
      ([9] : Bytes).length = 32) ∧
    (∃ key : Key32, key.bytes = List.replicate 32 7 ∧
      verifyX25519SelfSig sampleVerify sealedPair.pub sealedPair.selfSig
        (samplePrimitives.ed25519PublicKey key).bytes = .ok true) ∧
    ∃ key : Key32, sealedOwner.privateKeySeed = some key.bytes ∧
      verifyX25519SelfSig sampleVerify sealedPair.pub sealedPair.selfSig
        (samplePrimitives.ed25519PublicKey key).bytes = .ok true := by
  have h := verifyX25519SelfSig_exact sampleVerify_laws
  have hgenerated : generateX25519Identity samplePrimitives (sampleKey 4) (List.replicate 32 7) =
      .ok sealedPair := by
    decide +kernel
  refine ⟨h.2.1 [9], h.2.2.2.1 (sampleKey 4) (List.replicate 32 7) sealedPair hgenerated,
    h.2.2.2.2 ⟨true, true, .dropping 0, .notSupported, true, true, false, fun _ => false⟩
      (fun _ => sealedOwner) sealedTab [.start (.x25519Identity ⟨0, 0⟩ 0), .resume 0 sealedReply]
      rfl ?_ 0 ⟨0, 0⟩ 0 sealedPair (Pool.exec_resolved rfl (by decide +kernel))⟩
  intro co hco
  simp at hco

/-- A key of 33 bytes makes the check throw, and a key is accepted for another one
that has a zero behind it. -/
theorem verifyX25519SelfSig_lengths :
    verifyX25519SelfSig sampleVerify (List.replicate 33 9) [] [] =
      .error (.error "offset is out of bounds") ∧
    verifyX25519SelfSig sampleVerify [9] (boundKey samplePrimitives [9]) (List.replicate 32 1) =
      .ok true ∧
    verifyX25519SelfSig sampleVerify [9, 0] (boundKey samplePrimitives [9])
      (List.replicate 32 1) = .ok true := by
  decide +kernel

end Oxpulse.Identity
