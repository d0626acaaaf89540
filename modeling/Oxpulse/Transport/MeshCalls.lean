import Oxpulse.Transport.MeshSteps

/-!
# Every call is a chain of atoms

`Runs` is the rely-guarantee triple of a coroutine that call `n` runs: each
segment is a chain of its atoms, and the postcondition speaks of its flight,
which nobody else moves, and of its result. One lemma for each function of
`MeshEvents`; `handle_chains` puts them together.
-/

namespace Oxpulse.Transport

open Oxpulse.Coroutine Oxpulse.Crypto

/-- The coroutine, run as call `n` from `m`. -/
def Runs {α : Type} (P : Primitives) (n : ℕ) (e : Event)
    (Φ : Option Flight → Except JsError α → Prop) (co : MeshCo α) (m : Mesh) : Prop :=
  Co.Triple (Rely n) (Chain P n e) (fun m x => Φ (m.flight n) x) co m

section Runs

variable {P : Primitives} {n : ℕ} {e : Event} {α β : Type} {m : Mesh}
  {Φ : Option Flight → Except JsError α → Prop} {Ψ : Option Flight → Except JsError β → Prop}

theorem chain_trans (a b c : Mesh) (h : Chain P n e a b) (h' : Chain P n e b c) :
    Chain P n e a c :=
  h.trans h'

theorem Runs.value {a : α} (h : Φ (m.flight n) (.ok a)) : Runs P n e Φ (pure a) m :=
  Co.Triple.value (fun _ => .refl) h

theorem Runs.raise {err : JsError} (h : Φ (m.flight n) (.error err)) :
    Runs P n e Φ (throw err) m :=
  Co.Triple.raise (fun _ => .refl) h

theorem Runs.ofExcept {x : Except JsError α} (h : Φ (m.flight n) x) :
    Runs P n e Φ (Co.ofExcept x) m :=
  Co.Triple.ofExcept (fun _ => .refl) h

theorem Runs.assign {Φ : Option Flight → Except JsError PUnit → Prop} {f : Mesh → Mesh}
    (hf : Chain P n e m (f m)) (h : Φ ((f m).flight n) (.ok ⟨⟩)) :
    Runs P n e Φ (modify f) m :=
  Co.Triple.assign hf h

theorem Runs.read {f : Mesh → MeshCo α} (h : Runs P n e Φ (f m) m) :
    Runs P n e Φ (get >>= f) m :=
  h

theorem Runs.mono {Φ' : Option Flight → Except JsError α → Prop} {co : MeshCo α}
    (h : Runs P n e Φ co m) (hΦ : ∀ φ x, Φ φ x → Φ' φ x) : Runs P n e Φ' co m :=
  Co.Triple.mono h fun _ _ hQ => hΦ _ _ hQ

theorem Runs.bind {co : MeshCo α} {f : α → MeshCo β} (hco : Runs P n e Φ co m)
    (hok : ∀ m' a, Φ (m'.flight n) (.ok a) → Runs P n e Ψ (f a) m')
    (herr : ∀ φ err, Φ φ (.error err) → Ψ φ (.error err)) : Runs P n e Ψ (co >>= f) m :=
  Co.Triple.bind chain_trans hco hok fun _ _ h => herr _ _ h

theorem Runs.assign_bind {f : Mesh → Mesh} {co : PUnit → MeshCo α} (hf : Chain P n e m (f m))
    (h : Runs P n e Φ (co ⟨⟩) (f m)) : Runs P n e Φ (modify f >>= co) m :=
  Co.Triple.assign_bind chain_trans hf h

theorem Runs.await {co : MeshCo α} (h : Runs P n e Φ co m) : Runs P n e Φ (Co.await co) m := by
  refine Co.Triple.await (fun _ => .refl) ?_ h
  intro m' m'' x hQ hR
  rw [hR]
  exact hQ

theorem Runs.attempt_bind {co : MeshCo α} {f : Except JsError α → MeshCo β}
    (hco : Runs P n e Φ co m) (hf : ∀ m' x, Φ (m'.flight n) x → Runs P n e Ψ (f x) m') :
    Runs P n e Ψ (Co.attempt co >>= f) m :=
  Co.Triple.attempt_bind chain_trans hco hf

/-- `await call(...)` of a function that only returns its reply. -/
theorem Runs.reply {x : Except JsError α} (h : Φ (m.flight n) x) :
    Runs P n e Φ (Co.await (Co.ofExcept x)) m :=
  (Runs.ofExcept h).await

/-! ## Calls on shared objects -/

/-- A call on a component: its segments are atoms while the flight is `f`, which
it leaves only with its last one. -/
theorem Runs.zoom {σ : Type} {get : Mesh → σ} {put : σ → Mesh → Mesh} {f : Flight}
    {U : σ → Prop} {G : σ → σ → Prop} {Φ : Option Flight → Except JsError α → Prop}
    {co : Co Unit σ JsError α}
    (hatom : ∀ m s, m.flight n = some f → G (get m) s → Atom P n e m (put s m))
    (hget : ∀ m, U (get m)) (hput : ∀ m s, U s → (put s m).flight n = m.flight n)
    (hdone : ∀ m s x, m.flight n = some f → G (get m) s → Φ ((put s m).flight n) x)
    (hf : m.flight n = some f)
    (hco : (co (get m)).Sat U (fun _ _ => True) G (fun _ _ => True) (get m)) :
    Runs P n e Φ (Co.zoom get put co) m := by
  have hstable : ∀ m m' : Mesh, m.flight n = some f → Rely n m m' → m'.flight n = some f :=
    fun _ _ h hR => Eq.trans hR h
  refine Outcome.Sat.assume (U := fun m : Mesh => m.flight n = some f) hstable ?_
  refine Outcome.Sat.zoom ?_ ?_ ?_ ?_ ⟨trivial, hf⟩ hco
  · exact fun m s hm _ hU => ⟨trivial, (hput m s hU).trans hm.2⟩
  · exact fun _ _ m' _ _ _ _ => ⟨hget m', trivial⟩
  · exact fun m s hm hG => .single (hatom m s hm.2 hG)
  · exact fun m s x hm hG _ => hdone m s x hm.2 hG

theorem putView_of_fresh {ref : ℕ} {deviceId : DeviceId} {v : HandshakeView} (h : Fresh v)
    (m : Mesh) : m.putView n ref deviceId v = m.setView ref v := by
  unfold Mesh.putView
  rw [show v.derived = false from h]
  rfl

/-- A handshake call on the object of the flight: a last segment may derive the
session. -/
theorem Runs.onCrypto {f : Flight} {ref : ℕ} {deviceId : DeviceId} {T : FrameType → Prop}
    {G H : HandshakeView → HandshakeView → Prop} {Φ : Option Flight → Prop}
    {co : Co Unit HandshakeView JsError α}
    (hatom : ∀ m v, m.flight n = some f → G (m.view ref deviceId) v →
      Writes deviceId T (m.view ref deviceId) v → H (m.view ref deviceId) v →
      Atom P n e m (m.putView n ref deviceId v) ∧ Φ ((m.putView n ref deviceId v).flight n))
    (hf : m.flight n = some f)
    (hstages : Stages G (co (m.view ref deviceId)) (m.view ref deviceId))
    (hwrites : Segments (Writes deviceId T) (co (m.view ref deviceId)) (m.view ref deviceId))
    (hseen : Segments H (co (m.view ref deviceId)) (m.view ref deviceId)) :
    Runs P n e (fun φ (_ : Except JsError α) => Φ φ)
      (Oxpulse.Transport.onCrypto n ref deviceId co) m := by
  have hboth : (co (m.view ref deviceId)).Sat Fresh (fun _ _ => True)
      (fun v v' => G v v' ∧ Writes deviceId T v v' ∧ H v v') (fun _ _ => True)
      (m.view ref deviceId) := by
    simpa only [and_true] using hstages.and (hwrites.and hseen)
  refine Runs.zoom (U := Fresh) ?_ (fun _ => rfl) ?_ ?_ hf hboth
  · exact fun m v hm hG => (hatom m v hm hG.1 hG.2.1 hG.2.2).1
  · intro m v hv
    rw [putView_of_fresh hv]
    rfl
  · exact fun m v _ hm hG => (hatom m v hm hG.1 hG.2.1 hG.2.2).2

/-- A call on a session object. -/
theorem Runs.onSession {f : Flight} {ref : ℕ} (k : ℕ) (s : RatchetSession)
    (hsession : f = .receiving ref ∨ ∃ p deviceId, f = .sending p ref deviceId)
    (co : Co Unit RatchetSession JsError α) (hf : m.flight n = some f) :
    Runs P n e (fun φ (_ : Except JsError α) => φ = some f)
      (Oxpulse.Transport.onSession ref k s co) m := by
  have hflight : ∀ (m : Mesh) s', (m.setSession ref k s').flight n = m.flight n := by
    intro m s'
    obtain ⟨_, _, _, heq⟩ := setSession_onlyObjects ref k s' m
    rw [heq]
    rfl
  refine Runs.zoom (U := fun _ => True) (G := fun _ _ => True) (fun m s' hm _ => ?_)
    (fun _ => trivial) (fun m s' _ => hflight m s') (fun m s' _ hm _ => (hflight m s').trans hm) hf
    (Outcome.sat_true _ _)
  apply Atom.setSession
  rw [hm]
  rcases hsession with rfl | ⟨p, deviceId, rfl⟩
  · exact Or.inl rfl
  · exact Or.inr ⟨p, deviceId, rfl⟩

end Runs

section Calls

variable {P : Primitives} {n : ℕ} {e : Event} {m : Mesh}

/-! ## The scan callback -/

theorem runs_getLocalIdentity {id : IdentityReplies} {φ : Option Flight}
    (he : e.identity = some id) (hf : m.flight n = φ) :
    Runs P n e (fun φ' _ => φ' = φ) (getLocalIdentity id) m := by
  refine Runs.read ?_
  cases m.localIdentityProvider with
  | some provider => exact Runs.value hf
  | none =>
      refine Runs.bind (Φ := fun φ' x => φ' = φ ∧ x = id.publicKey) (Runs.reply ⟨hf, rfl⟩) ?_ ?_
      · rintro m₁ publicKey ⟨hf₁, hpub⟩
        refine Runs.bind (Φ := fun φ' x => φ' = φ ∧ x = id.x25519PublicKey)
          (Runs.reply ⟨hf₁, rfl⟩) ?_ ?_
        · rintro m₂ x25519PublicKey ⟨hf₂, hx⟩
          have hprovider : id.provider =
              .ok ⟨.ok publicKey, .ok x25519PublicKey, id.dhX25519⟩ := by
            unfold IdentityReplies.provider
            rw [← hpub, ← hx]
            rfl
          exact Runs.assign_bind (.single (.identity e id _ m₂ he hprovider)) (Runs.value hf₂)
        · exact fun _ _ h => h.1
      · exact fun _ _ h => h.1

theorem runs_negotiateMtu {φ : Option Flight} (getMtu : Except JsError ℤ)
    (hf : m.flight n = φ) :
    Runs P n e (fun φ' x => φ' = φ ∧ x = .ok (clampMtu getMtu)) (negotiateMtu getMtu) m := by
  refine Runs.attempt_bind (Φ := fun φ' x => φ' = φ ∧ x = getMtu) (Runs.reply ⟨hf, rfl⟩) ?_
  rintro m' x ⟨hf', rfl⟩
  exact Runs.value ⟨hf', rfl⟩

section Sighting

variable {s : Mesh.PeerSighting} {c : ConnectReplies} {id : IdentityReplies}
  {hr : HandshakeReplies}

/-- The `try` block failed in one of its native calls. -/
def ConnectFailed (s : Mesh.PeerSighting) (c : ConnectReplies) (φ : Option Flight) : Prop :=
  ¬ c.Succeeds ∧ (φ = some (.connecting s.deviceId) ∨ φ = some (.linked s.deviceId))

theorem runs_connect (hf : m.flight n = some (.connecting s.deviceId)) :
    Runs P n (.sighting s c id hr) (fun φ x => (∃ err, x = .error err ∧ ConnectFailed s c φ) ∨
        (x = .ok () ∧ φ = some (.linked s.deviceId) ∧
          c.connect = .ok () ∧ c.discoverServices = .ok ()))
      (connect n s.deviceId c) m := by
  refine Runs.bind (Φ := fun φ x => φ = some (.connecting s.deviceId) ∧ x = c.connect)
    (Runs.reply ⟨hf, rfl⟩) ?_ ?_
  · rintro m₁ u ⟨hf₁, hconnect⟩
    refine Runs.assign_bind (.single (.linkUp s c id hr m₁ hf₁ hconnect.symm)) ?_
    refine Runs.mono (Φ := fun φ x => φ = some (.linked s.deviceId) ∧ x = c.discoverServices)
      (Runs.reply ⟨flight_launch_self, rfl⟩) ?_
    rintro φ x ⟨hφ, hx⟩
    cases x with
    | ok u => exact Or.inr ⟨rfl, hφ, hconnect.symm, hx.symm⟩
    | error err =>
        refine Or.inl ⟨err, rfl, fun h => ?_, Or.inr hφ⟩
        rw [h.2.1] at hx
        cases hx
  · rintro φ err ⟨hφ, hx⟩
    refine Or.inl ⟨err, rfl, fun h => ?_, Or.inl hφ⟩
    rw [h.1] at hx
    cases hx

theorem runs_connectPeer (hf : m.flight n = some (.connecting s.deviceId)) :
    Runs P n (.sighting s c id hr) (fun φ x => (∃ err, x = .error err ∧ ConnectFailed s c φ) ∨
        (x = .ok () ∧ φ = some (.opening s.deviceId)))
      (connectPeer n s c) m := by
  refine Runs.bind (runs_connect hf).await ?_ ?_
  · rintro m₁ u (⟨_, hx, -⟩ | ⟨-, hf₁, hconnect, hdiscover⟩)
    · cases hx
    refine Runs.bind (runs_negotiateMtu c.getMtu hf₁).await ?_ ?_
    · rintro m₂ mtu ⟨hf₂, hmtu⟩
      cases hmtu
      refine Runs.assign_bind (.single (.setMtu s c id hr m₂ hf₂)) ?_
      refine Runs.bind (Φ := fun φ x => φ = some (.linked s.deviceId) ∧ x = c.startNotifications)
        (Runs.reply ⟨hf₂, rfl⟩).await ?_ ?_
      · rintro m₃ u ⟨hf₃, hnotify⟩
        have hsucceeds : c.Succeeds := ⟨hconnect, hdiscover, hnotify.symm⟩
        exact Runs.assign (.single (.connectedOutbound s c id hr m₃ hf₃ hsucceeds))
          (Or.inr ⟨rfl, flight_launch_self⟩)
      · rintro φ err ⟨hφ, hx⟩
        refine Or.inl ⟨err, rfl, fun h => ?_, Or.inr hφ⟩
        rw [h.2.2] at hx
        cases hx
    · rintro φ err ⟨-, hx⟩
      cases hx
  · rintro φ err (h | ⟨hx, -⟩)
    · exact Or.inl h
    · cases hx

/-- `initiateHandshake` has created its object, or not. -/
def Initiating (deviceId : DeviceId) (φ : Option Flight) : Prop :=
  φ = some (.opening deviceId) ∨ ∃ ref role, φ = some (.opened ref deviceId role)

theorem runs_greet {ref : ℕ} {deviceId : DeviceId} {role : Role} (hr : HandshakeReplies)
    (hf : m.flight n = some (.opened ref deviceId role)) :
    Runs P n e (fun φ _ => φ = some (.opened ref deviceId role))
      (match role with
        | .initiator => onCrypto n ref deviceId (sendMsg1 P deviceId hr)
        | .responder => pure ()) m := by
  cases role with
  | responder => exact Runs.value hf
  | initiator =>
      refine Runs.onCrypto (fun m' v hm hworks hwrites hunseen => ?_) hf (sendMsg1_stages hr rfl)
        (sendMsg1_writes hr _) (sendMsg1_unseen hr _)
      rw [putView_of_fresh hworks.1]
      exact ⟨.sendsMsg1 e ref deviceId v m' hm hworks hwrites hunseen, hm⟩

theorem runs_openHandshake (identity : DeviceIdentityProvider)
    (hf : m.flight n = some (.opening s.deviceId)) :
    Runs P n (.sighting s c id hr) (fun φ _ => Initiating s.deviceId φ)
      (openHandshake P n s.deviceId s.peerId hr identity) m := by
  refine Runs.read ?_
  cases hpeer : m.peerId with
  | none => exact Runs.value (Or.inl hf)
  | some ourPeerId =>
      dsimp only
      by_cases hconn : m.connectedDevices.has s.deviceId = true
      · rw [if_pos hconn]
        have hopen : Chain P n (.sighting s c id hr) m _ :=
          .single (.opened s c id hr m identity ourPeerId hf hpeer hconn)
        have hopened := flight_launch_self (n := n)
          (f := .opened m.objects.length s.deviceId (Mesh.roleFor ourPeerId s.peerId))
          (m := m.create s.deviceId
            (.new P (Mesh.roleFor ourPeerId s.peerId) identity (hex s.peerId) m.now))
        generalize Mesh.roleFor ourPeerId s.peerId = role at hopen hopened ⊢
        have hrest := runs_greet (P := P) (e := .sighting s c id hr) hr hopened
        have hΦ : ∀ φ (_ : Except JsError Unit),
            φ = some (.opened m.objects.length s.deviceId role) → Initiating s.deviceId φ :=
          fun φ _ hφ => Or.inr ⟨_, _, hφ⟩
        exact Outcome.Sat.precede (fun _ h => hopen.trans h) (hrest.mono hΦ)
      · rw [if_neg hconn]
        exact Runs.value (Or.inl hf)

theorem runs_initiateHandshake (hf : m.flight n = some (.opening s.deviceId)) :
    Runs P n (.sighting s c id hr) (fun φ _ => Initiating s.deviceId φ)
      (initiateHandshake P n s.deviceId s.peerId id hr) m := by
  refine Runs.bind (runs_getLocalIdentity rfl hf).await ?_ ?_
  · exact fun m' identity hf' => runs_openHandshake identity hf'
  · exact fun φ err hφ => Or.inl hφ

theorem runs_startHandshake (hf : m.flight n = some (.opening s.deviceId)) :
    Runs P n (.sighting s c id hr) (fun φ _ => Initiating s.deviceId φ)
      (startHandshake P n s id hr) m := by
  refine Runs.attempt_bind (runs_initiateHandshake hf).await fun m' x hφ => ?_
  cases x with
  | error err =>
      refine Runs.assign (.single (.failHandshake _ _ m' rfl (.initiating s c id hr m'))) ?_
      obtain ⟨_, _, _, heq⟩ := failHandshake_onlyObjects (m'.cryptoStates.get? s.deviceId) m'
      rw [heq]
      exact hφ
  | ok u => exact Runs.value hφ

/-- The scan callback, once it has passed its checks. -/
theorem runs_sighting (hf : m.flight n = some (.connecting s.deviceId)) :
    Runs P n (.sighting s c id hr)
      (fun φ _ => ConnectFailed s c φ ∨ Initiating s.deviceId φ)
      (do
        match ← Co.attempt (connectPeer n s c) with
        | .error _ => modify (Mesh.armBackoff s.deviceId)
        | .ok _ => startHandshake P n s id hr) m := by
  refine Runs.attempt_bind (runs_connectPeer hf) ?_
  rintro m' x (⟨err, rfl, hfailed⟩ | ⟨rfl, hf'⟩)
  · exact Runs.assign (.single (.armBackoff s c id hr m' hfailed.1)) (Or.inl hfailed)
  · exact Runs.mono (runs_startHandshake hf') fun φ _ hφ => Or.inr hφ

end Sighting

/-! ## Incoming chunks -/

section Chunk

variable {deviceId : DeviceId} {chunk : Bytes} {id : IdentityReplies} {hr : HandshakeReplies}
  {f : HandshakeFrame} {ref : ℕ}

/-- `advanceHandshake` is under way. -/
def Engaged (deviceId : DeviceId) (φ : Option Flight) : Prop :=
  ∃ ref, φ = some (.advancing ref deviceId) ∨ φ = some (.concluded ref deviceId) ∨
    φ = some (.refusing ref deviceId)

theorem Engaged.ends {φ : Option Flight} (h : Engaged deviceId φ) : Ends e φ := by
  obtain ⟨ref, rfl | rfl | rfl⟩ := h
  · trivial
  · trivial
  · trivial

theorem EngagedWith.engaged {φ : Option Flight} (h : EngagedWith ref deviceId φ) :
    Engaged deviceId φ :=
  ⟨ref, h⟩

theorem runs_advanceHandshake
    (hf : m.flight n = some (if RefusedOnSight (m.object ref).handshake f.payload then
      .refusing ref deviceId else .advancing ref deviceId)) :
    Runs P n e (fun φ _ => EngagedWith ref deviceId φ)
      (onCrypto n ref deviceId (advanceHandshake P deviceId f)) m := by
  by_cases hrefused : RefusedOnSight (m.object ref).handshake f.payload
  · rw [if_pos hrefused] at hf
    refine Runs.onCrypto (fun m' v hm hrefuses _ hbranches => ?_) hf
      (refused_stages f rfl hrefused) (advanceHandshake_writes f _) (advanceHandshake_branches f _)
    rw [putView_of_fresh hrefuses.derived]
    exact ⟨.refuses e ref deviceId v m' hm hrefuses hbranches, Or.inr (Or.inr hm)⟩
  · rw [if_neg hrefused] at hf
    refine Runs.onCrypto (fun m' v hm hadvances hwrites hbranches => ?_) hf
      (advanceHandshake_stages f rfl) (advanceHandshake_writes f _) (advanceHandshake_branches f _)
    rcases hadvances with hworks | ⟨hderived, hderives⟩
    · rw [putView_of_fresh hworks.1]
      exact ⟨.advances e ref deviceId v m' hm hworks hwrites hbranches, Or.inl hm⟩
    · have hput : m'.putView n ref deviceId v =
          (m'.setView ref v).launch n (.concluded ref deviceId) := by
        unfold Mesh.putView
        rw [hderived]
        rfl
      rw [hput]
      exact ⟨.concludes e ref deviceId v m' hm hderives hwrites hbranches,
        Or.inr (Or.inl flight_launch_self)⟩

theorem runs_advance (he : e.identity.isSome)
    (hf : m.flight n = some (if RefusedOnSight (m.object ref).handshake f.payload then
      .refusing ref deviceId else .advancing ref deviceId)) :
    Runs P n e (fun φ _ => Engaged deviceId φ)
      (do
        match ← Co.attempt (Co.await (onCrypto n ref deviceId (advanceHandshake P deviceId f))) with
        | .error _ => modify (Mesh.failHandshake (some ref))
        | .ok _ => pure ()) m := by
  refine Runs.attempt_bind (runs_advanceHandshake hf).await fun m' x hφ => ?_
  cases x with
  | error err =>
      refine Runs.assign (.single (.failHandshake e _ m' he (.advancing e ref deviceId m' hφ))) ?_
      obtain ⟨_, _, _, heq⟩ := failHandshake_onlyObjects (some ref) m'
      rw [heq]
      exact hφ.engaged
  | ok u => exact Runs.value hφ.engaged

/-- The responder bootstrap waits for the identity, or has created its object. -/
def Bootstrapping (deviceId : DeviceId) (φ : Option Flight) : Prop :=
  φ = some (.bootstrapping deviceId) ∨ Engaged deviceId φ

theorem runs_bootstrap (peerIdHex : PeerIdHex) (role : Role) (identity : DeviceIdentityProvider)
    (hf : m.flight n = some (.bootstrapping deviceId)) :
    Runs P n (.chunk deviceId chunk id hr) (fun φ _ => Bootstrapping deviceId φ)
      (bootstrap P n deviceId peerIdHex role f identity) m := by
  refine Runs.read ?_
  by_cases hconn : m.connectedDevices.has deviceId = true
  · rw [if_pos hconn]
    by_cases hhas : m.cryptoStates.has deviceId = true
    · rw [if_pos hhas]
      exact Runs.value (Or.inl hf)
    · rw [if_neg hhas]
      have hcreate : Chain P n (.chunk deviceId chunk id hr) m _ :=
        .single (.bootstrapped deviceId chunk id hr m identity role peerIdHex f.payload hf hconn
          (Bool.eq_false_iff.mpr hhas))
      have hrest := runs_advance (P := P) (e := .chunk deviceId chunk id hr) (f := f) rfl
        (m := (m.create deviceId (.new P role identity peerIdHex m.now)).engage n
          m.objects.length deviceId f.payload) flight_launch_self
      have hΦ : ∀ φ (_ : Except JsError Unit), Engaged deviceId φ → Bootstrapping deviceId φ :=
        fun φ _ hφ => Or.inr hφ
      exact Outcome.Sat.precede (fun _ h => hcreate.trans h) (hrest.mono hΦ)
  · rw [if_neg hconn]
    exact Runs.value (Or.inl hf)

theorem runs_bootstrapResponder (peerIdHex : PeerIdHex) (role : Role)
    (hf : m.flight n = some (.bootstrapping deviceId)) :
    Runs P n (.chunk deviceId chunk id hr) (fun φ _ => Bootstrapping deviceId φ)
      (do
        match ← Co.attempt (Co.await (getLocalIdentity id)) with
        | .error _ => modify (Mesh.failHandshake none)
        | .ok identity => bootstrap P n deviceId peerIdHex role f identity) m := by
  refine Runs.attempt_bind (runs_getLocalIdentity rfl hf).await fun m' x hφ => ?_
  cases x with
  | error err =>
      exact Runs.assign (.single (.failHandshake _ none m' rfl
        (.bootstrapping _ deviceId m' hφ))) (Or.inl hφ)
  | ok identity => exact runs_bootstrap peerIdHex role identity hφ

theorem runs_receiveData (payload : Bytes) (k : ℕ) (s : RatchetSession)
    (hf : m.flight n = some (.receiving ref)) :
    Runs P n e (fun φ _ => φ = some (.receiving ref))
      (do
        match ← Co.attempt (Co.await (onSession ref k s
            (RatchetSession.decrypt P payload []))) with
        | .error err => modify (decryptFailed err)
        | .ok plaintext => modify (deliver ref plaintext)) m := by
  refine Runs.attempt_bind (Runs.onSession k s (Or.inl rfl) _ hf).await fun m' x hφ => ?_
  cases x with
  | error err => exact Runs.assign (.single (.decryptFailed e ref err m' hφ)) hφ
  | ok plaintext => exact Runs.assign (.single (.deliver e ref plaintext m' hφ)) hφ

end Chunk

/-! ## Sending -/

section Send

variable {p : PeerIdHex} {ref : ℕ} {deviceId : DeviceId}

theorem runs_sendChunks (writeRx : ℕ → Except JsError Unit) (chunks : List Bytes) :
    ∀ (i : ℕ) (m : Mesh), m.flight n = some (.sending p ref deviceId) →
      Runs P n e (fun φ _ => φ = some (.sending p ref deviceId))
        (sendChunks n p ref deviceId writeRx chunks i) m := by
  induction chunks with
  | nil => exact fun i m hf => Runs.value hf
  | cons chunk chunks ih =>
      intro i m hf
      refine Runs.bind (Φ := fun φ _ => φ = some (.sending p ref deviceId)) ?_ ?_ ?_
      · exact Runs.assign_bind (.single (.sent e ⟨n, p, ref, deviceId, chunk⟩ m rfl hf))
          (Runs.reply hf)
      · exact fun m' _ hf' => ih (i + 1) m' hf'
      · exact fun _ _ hφ => hφ

theorem runs_sendFrame (frame : Bytes) (writeRx : ℕ → Except JsError Unit) (k mtu : ℕ)
    (s : RatchetSession) (hf : m.flight n = some (.sending p ref deviceId)) :
    Runs P n e (fun φ _ => φ = some (.sending p ref deviceId))
      (do
        let ciphertext ← Co.await (onSession ref k s (RatchetSession.encrypt P frame []))
        let chunks ← Co.ofExcept (chunkFrame ciphertext mtu FrameType.SessionData)
        sendChunks n p ref deviceId writeRx chunks 0) m := by
  refine Runs.bind (Runs.onSession k s (Or.inr ⟨p, deviceId, rfl⟩) _ hf).await ?_ ?_
  · intro m₁ ciphertext hf₁
    refine Runs.bind (Φ := fun φ _ => φ = some (.sending p ref deviceId)) (Runs.ofExcept hf₁) ?_ ?_
    · exact fun m₂ chunks hf₂ => runs_sendChunks writeRx chunks 0 m₂ hf₂
    · exact fun _ _ hφ => hφ
  · exact fun _ _ hφ => hφ

end Send

/-! ## Start, stop and rotation -/

theorem runs_switchOn {x : Except JsError Unit} {on : Mesh → Mesh} {φ : Option Flight}
    (hon : x = .ok () → Chain P n e m (on m) ∧ (on m).flight n = φ)
    (hoff : ∀ err, x = .error err → m.flight n = φ) :
    Runs P n e (fun φ' y => φ' = φ ∧ y = x) (switchOn x on) m := by
  cases x with
  | ok u =>
      obtain ⟨hchain, hflight⟩ := hon rfl
      exact Runs.assign_bind hchain (Runs.reply ⟨hflight, rfl⟩)
  | error err => exact Runs.assign_bind .refl (Runs.reply ⟨hoff err rfl, rfl⟩)

theorem runs_switchOff {x : Except JsError Unit} {off : Mesh → Mesh} {φ φ' : Option Flight}
    (hf : m.flight n = φ)
    (hoff : ∀ m, m.flight n = φ → Chain P n e m (off m) ∧ (off m).flight n = φ') :
    Runs P n e (fun ψ y => (∃ err, y = .error err ∧ ψ = φ) ∨ (y = .ok ⟨⟩ ∧ ψ = φ'))
      (switchOff x off) m := by
  refine Runs.bind (Φ := fun ψ y => ψ = φ ∧ y = x) (Runs.reply ⟨hf, rfl⟩) ?_ ?_
  · rintro m' u ⟨hf', -⟩
    obtain ⟨hchain, hflight⟩ := hoff m' hf'
    exact Runs.assign hchain (Or.inr ⟨rfl, hflight⟩)
  · exact fun _ err hφ => Or.inl ⟨err, rfl, hφ.1⟩

section Start

variable {r : StartReplies}

/-- `startMesh` failed in one of its native calls. -/
def StartFailed (r : StartReplies) (φ : Option Flight) : Prop :=
  φ = some (.starting false none) ∨ (¬ r.Succeeds ∧ ∃ handle, φ = some (.starting true handle))

theorem runs_startAdvertising (hf : m.flight n = some (.starting false none)) :
    Runs P n (.startMesh r) (fun φ x => (∃ err, x = .error err ∧ StartFailed r φ) ∨
        (x = .ok () ∧ φ = some (.starting true none)))
      (startAdvertising r.peerId r.startGattServer r.startAdvertising
        (Mesh.launch n (.starting true none))) m := by
  unfold startAdvertising
  split
  · exact Runs.raise (Or.inl ⟨_, rfl, Or.inl hf⟩)
  · cases hgatt : r.startGattServer with
    | error err =>
        refine Runs.bind (Φ := fun φ x => φ = some (.starting false none) ∧ x = .error err)
          (runs_switchOn (fun h => nomatch h) (fun _ _ => hf)) ?_ ?_
        · rintro m' u ⟨-, hx⟩
          cases hx
        · exact fun φ err' hφ => Or.inl ⟨err', rfl, Or.inl hφ.1⟩
    | ok u =>
        refine Runs.bind (Φ := fun φ x => φ = some (.starting true none) ∧ x = .ok ())
          (runs_switchOn (fun _ => ⟨.single (.begins r m hf hgatt), flight_launch_self⟩)
            (fun _ h => nomatch h)) ?_ ?_
        · rintro m' u ⟨hf', -⟩
          refine Runs.mono (runs_switchOn
            (fun _ => ⟨.single (.advertises r m' hf'), hf'⟩) (fun _ _ => hf')) ?_
          rintro φ x ⟨hφ, hx⟩
          cases x with
          | ok u => exact Or.inr ⟨rfl, hφ⟩
          | error err =>
              refine Or.inl ⟨err, rfl, Or.inr ⟨fun h => ?_, none, hφ⟩⟩
              rw [h.startAdvertising] at hx
              cases hx
        · rintro φ err ⟨-, hx⟩
          cases hx

theorem runs_startScan (hf : m.flight n = some (.starting true none)) :
    Runs P n (.startMesh r) (fun φ x => φ = some (.starting true none) ∧
        ∀ err, x = .error err → ¬ r.Succeeds)
      (startScan r) m := by
  have hinit : Runs P n (.startMesh r) (fun φ x => φ = some (.starting true none) ∧
      ∀ err, x = .error err → ¬ r.Succeeds)
      (do
        let m ← get
        if m.initialized then pure ()
        else do
          Co.await (Co.ofExcept r.bleInitialize)
          modify fun m => { m with initialized := true }) m := by
    refine Runs.read ?_
    split
    · exact Runs.value ⟨hf, fun _ h => nomatch h⟩
    · refine Runs.bind
        (Φ := fun φ x => φ = some (.starting true none) ∧ x = r.bleInitialize)
        (Runs.reply ⟨hf, rfl⟩) ?_ ?_
      · rintro m' u ⟨hf', -⟩
        exact Runs.assign (.single (.initializes r m' hf')) ⟨hf', fun _ h => nomatch h⟩
      · rintro φ err ⟨hφ, hx⟩
        refine ⟨hφ, fun _ _ h => ?_⟩
        rw [h.bleInitialize] at hx
        cases hx
  refine Runs.bind hinit.await ?_ ?_
  · rintro m' u ⟨hf', -⟩
    refine Runs.mono (runs_switchOn
      (fun _ => ⟨.single (.scans r m' hf'), hf'⟩) (fun _ _ => hf')) ?_
    rintro φ x ⟨hφ, rfl⟩
    refine ⟨hφ, fun err herr h => ?_⟩
    rw [h.requestLEScan] at herr
    cases herr
  · exact fun φ err hφ => ⟨hφ.1, fun _ _ => hφ.2 err rfl⟩

theorem runs_addListener {x : Except JsError Unit} (hx : r.Succeeds → x = .ok ())
    (hf : m.flight n = some (.starting true none)) :
    Runs P n (.startMesh r) (fun φ y => (∃ err, y = .error err ∧ StartFailed r φ) ∨
        (y = .ok ⟨⟩ ∧ φ = some (.starting true none)))
      (addListener n x) m := by
  refine Runs.read ?_
  cases x with
  | error err =>
      refine Runs.bind (Φ := fun φ y => φ = some (.starting true none) ∧ y = .error err)
        (runs_switchOn (fun h => nomatch h) (fun _ _ => hf)) ?_ ?_
      · rintro m' u ⟨-, hy⟩
        cases hy
      · exact fun φ err' hφ => Or.inl ⟨err', rfl, Or.inr ⟨(fun h => nomatch hx h), none, hφ.1⟩⟩
  | ok u =>
      refine Runs.bind (Φ := fun φ y =>
          φ = some (.starting true (some m.native.handles)) ∧ y = .ok ())
        (runs_switchOn (fun _ => ⟨.single (.listens r m hf), flight_launch_self⟩)
          (fun _ h => nomatch h)) ?_ ?_
      · rintro m' u ⟨hf', -⟩
        exact Runs.assign (.single (.pushesRemover r _ m' hf')) (Or.inr ⟨rfl, flight_launch_self⟩)
      · rintro φ err ⟨-, hy⟩
        cases hy

theorem runs_startAll (hf : m.flight n = some (.starting false none)) :
    Runs P n (.startMesh r) (fun φ x => (∃ err, x = .error err ∧ StartFailed r φ) ∨
        (x = .ok ⟨⟩ ∧ φ = some .started)) (startAll n r) m := by
  refine Runs.assign_bind (.single (.setPeerId r m hf)) ?_
  have hf₀ : ({ m with peerId := some r.peerId } : Mesh).flight n = some (.starting false none) :=
    hf
  refine Runs.bind (runs_startAdvertising hf₀).await ?_ ?_
  · rintro m₁ u (⟨_, hx, -⟩ | ⟨-, hf₁⟩)
    · cases hx
    refine Runs.bind (runs_startScan hf₁).await ?_ ?_
    · rintro m₂ u ⟨hf₂, -⟩
      refine Runs.bind (runs_addListener (fun h => h.addRxListener) hf₂) ?_ ?_
      · rintro m₃ u (⟨_, hx, -⟩ | ⟨-, hf₃⟩)
        · cases hx
        refine Runs.bind (runs_addListener (fun h => h.addConnectionListener) hf₃) ?_ ?_
        · rintro m₄ u (⟨_, hx, -⟩ | ⟨-, hf₄⟩)
          · cases hx
          exact Runs.assign (.single (.runs r m₄ hf₄)) (Or.inr ⟨rfl, flight_launch_self⟩)
        · rintro φ err (⟨err', hx, hφ⟩ | ⟨hx, -⟩)
          · exact Or.inl ⟨err, rfl, hφ⟩
          · cases hx
      · rintro φ err (⟨err', hx, hφ⟩ | ⟨hx, -⟩)
        · exact Or.inl ⟨err, rfl, hφ⟩
        · cases hx
    · exact fun φ err hφ => Or.inl ⟨err, rfl, Or.inr ⟨hφ.2 err rfl, none, hφ.1⟩⟩
  · rintro φ err (⟨err', hx, hφ⟩ | ⟨hx, -⟩)
    · exact Or.inl ⟨err, rfl, hφ⟩
    · cases hx

/-- `startMesh`, once it has passed its guard. -/
theorem runs_startMesh (hf : m.flight n = some (.starting false none)) :
    Runs P n (.startMesh r) (fun φ _ => StartFailed r φ ∨ φ = some .started)
      (do
        match ← Co.attempt (startAll n r) with
        | .error e => do
            modify fun m => { m with error := some (classifyMeshError e) }
            throw e
        | .ok _ => pure ()) m := by
  refine Runs.attempt_bind (runs_startAll hf) ?_
  rintro m' x (⟨err, rfl, hfailed⟩ | ⟨rfl, hf'⟩)
  · exact Runs.assign_bind (.single (.startFails r _ m')) (Runs.raise (Or.inl hfailed))
  · exact Runs.value (Or.inr hf')

end Start

theorem runs_stopAdvertising (x y : Except JsError Unit) (staged : Mesh → Mesh)
    {φ φ₁ φ₂ : Option Flight} (hf : m.flight n = φ)
    (hadvertising : ∀ m, m.flight n = φ → Chain P n e m (staged (m.setAdvertising false)) ∧
      (staged (m.setAdvertising false)).flight n = φ₁)
    (hgatt : ∀ m, m.flight n = φ₁ → Chain P n e m (staged (m.setGattServer false)) ∧
      (staged (m.setGattServer false)).flight n = φ₂) :
    Runs P n e (fun ψ z => (∃ err, z = .error err ∧ (ψ = φ ∨ ψ = φ₁)) ∨ (z = .ok ⟨⟩ ∧ ψ = φ₂))
      (stopAdvertising x y staged) m := by
  refine Runs.bind (runs_switchOff hf hadvertising) ?_ ?_
  · rintro m' u (⟨_, hx, -⟩ | ⟨-, hf'⟩)
    · cases hx
    refine Runs.mono (runs_switchOff hf' hgatt) ?_
    rintro ψ z (⟨err, hz, hψ⟩ | h)
    · exact Or.inl ⟨err, hz, Or.inr hψ⟩
    · exact Or.inr h
  · rintro ψ err (⟨_, hx, hψ⟩ | ⟨hx, -⟩)
    · exact Or.inl ⟨err, rfl, Or.inl hψ⟩
    · cases hx

/-- The MAC rotation never throws. -/
theorem runs_rotate {peerId : Bytes} {r : RotateReplies} (hf : m.flight n = some .rotating) :
    Runs P n (.rotate peerId r) (fun φ _ => φ = some .rotating)
      (do
        let _ ← Co.attempt (do
          Co.await (stopAdvertising r.stopAdvertising r.stopGattServer id)
          Co.await (startAdvertising peerId r.startGattServer r.startAdvertising id))
        pure ()) m := by
  have hstart : ∀ m, m.flight n = some .rotating →
      Runs P n (.rotate peerId r) (fun φ _ => φ = some .rotating)
        (startAdvertising peerId r.startGattServer r.startAdvertising id) m := by
    intro m hf
    unfold startAdvertising
    split
    · exact Runs.raise hf
    · refine Runs.bind (runs_switchOn
        (fun _ => ⟨.single (.setGattServer peerId r true m hf), hf⟩) (fun _ _ => hf)) ?_ ?_
      · rintro m' u ⟨hf', -⟩
        exact Runs.mono (runs_switchOn
          (fun _ => ⟨.single (.setAdvertising peerId r true m' hf'), hf'⟩) (fun _ _ => hf'))
          fun φ _ hφ => hφ.1
      · exact fun φ _ hφ => hφ.1
  have hstop := runs_stopAdvertising (P := P) (e := .rotate peerId r) r.stopAdvertising
    r.stopGattServer id hf
    (fun m hf => ⟨.single (.setAdvertising peerId r false m hf), hf⟩)
    (fun m hf => ⟨.single (.setGattServer peerId r false m hf), hf⟩)
  refine Runs.attempt_bind (Φ := fun φ _ => φ = some .rotating) ?_ fun m' _ hφ => Runs.value hφ
  refine Runs.bind hstop.await ?_ ?_
  · rintro m' u (⟨_, hx, -⟩ | ⟨-, hf'⟩)
    · cases hx
    exact (hstart m' hf').await
  · rintro φ err (⟨_, -, hφ | hφ⟩ | ⟨hx, -⟩)
    · exact hφ
    · exact hφ
    · cases hx

section Stop

variable {r : StopReplies}

theorem runs_awaitAll {φ : Option Flight} :
    ∀ (k : ℕ) (m : Mesh), m.flight n = φ →
      Runs P n e (fun φ' (_ : Except JsError Unit) => φ' = φ) (awaitAll k) m
  | 0, _, hf => Runs.value hf
  | k + 1, m, hf => by
      refine Runs.bind (Φ := fun φ' _ => φ' = φ) ?_ (fun m' _ hf' => runs_awaitAll k m' hf')
        fun _ _ hφ => hφ
      exact ⟨trivial, .refl, fun _ m' _ hR => ⟨.refl, Eq.trans hR hf⟩⟩

/-- The loop ends at the end of the array. -/
theorem removeListeners_sat :
    ∀ (rounds i : ℕ) (m : Mesh), m.flight n = some (.sweeping i none) →
      (removeListeners n r.remove rounds i m).Sat (fun _ => True) (Rely n)
        (Chain P n (.stopMesh r))
        (fun m x => (∃ err, x = .error err ∧ ∃ i, m.flight n = some (.sweeping i none)) ∨
          ∃ i, m.flight n = some (.sweeping i none) ∧ m.listenerRemovers[i]? = none) m
  | 0, i, m, hf => ⟨.refl, Or.inl ⟨_, rfl, i, hf⟩⟩
  | rounds + 1, i, m, hf => by
      unfold removeListeners
      simp only [Co.bind_apply, Co.get_apply, Outcome.bind]
      cases hi : m.listenerRemovers[i]? with
      | none => exact ⟨.refl, Or.inr ⟨i, hf, hi⟩⟩
      | some handle =>
          have hnext : ∀ m' : Mesh, Rely n (m.launch n (.sweeping i (some handle))) m' →
              Chain P n (.stopMesh r) m' ((if (r.remove i).isOk then m'.unlisten handle else m').launch
                n (.sweeping (i + 1) none)) :=
            fun m' hR => .single (.removed r i handle m' (Eq.trans hR flight_launch_self))
          have hloop := fun m' : Mesh => removeListeners_sat rounds (i + 1)
            ((if (r.remove i).isOk then m'.unlisten handle else m').launch n
              (.sweeping (i + 1) none)) flight_launch_self
          cases hrem : r.remove i with
          | ok u =>
              rw [hrem] at hnext hloop
              exact ⟨trivial, .single (.removes r i handle m hf hi), fun _ m' _ hR =>
                (hloop m').precede fun _ h => (hnext m' hR).trans h⟩
          | error err =>
              rw [hrem] at hnext hloop
              exact ⟨trivial, .single (.removes r i handle m hf hi), fun _ m' _ hR =>
                (hloop m').precede fun _ h => (hnext m' hR).trans h⟩

/-- `stopMesh` is under way. -/
def Stopping (φ : Option Flight) : Prop :=
  (∃ k, φ = some (.stopping k)) ∨ ∃ i, φ = some (.sweeping i none)

/-- What `stopMesh` leaves: once it has resolved, its flags are down. -/
def StopPost (n : ℕ) (m : Mesh) (x : Except JsError PUnit) : Prop :=
  Stopping (m.flight n) ∧ (x = .ok ⟨⟩ → m.advertising = false ∧ m.scanning = false)

theorem sweep_sat (hf : m.flight n = some (.sweeping 0 none)) :
    ((do
        removeListeners n r.remove r.rounds 0
        modify Mesh.clear : MeshCo PUnit) m).Sat (fun _ => True) (Rely n) (Chain P n (.stopMesh r))
      (StopPost n) m := by
  refine Outcome.Sat.bind (fun _ _ h => h) (fun _ _ _ h h' => h.trans h') ?_ ?_
    (removeListeners_sat r.rounds 0 m hf)
  · rintro m₂ u (⟨_, hx, -⟩ | ⟨i, hf₂, hend⟩)
    · cases hx
    · exact ⟨.single (.clears r i m₂ hf₂ hend), Or.inr ⟨i, hf₂⟩, fun _ => ⟨rfl, rfl⟩⟩
  · rintro m₂ err (⟨_, -, i, hf₂⟩ | ⟨i, hf₂, -⟩)
    · exact ⟨Or.inr ⟨i, hf₂⟩, fun h => nomatch h⟩
    · exact ⟨Or.inr ⟨i, hf₂⟩, fun h => nomatch h⟩

theorem stopLoops_sat (hf : m.flight n = some (.stopping 4)) :
    ((do
        awaitAll (2 * r.devices)
        modify fun m => m.disconnectAll.launch n (.sweeping 0 none)
        removeListeners n r.remove r.rounds 0
        modify Mesh.clear : MeshCo PUnit) m).Sat (fun _ => True) (Rely n) (Chain P n (.stopMesh r))
      (StopPost n) m := by
  refine Outcome.Sat.bind (fun _ _ h => h) (fun _ _ _ h h' => h.trans h') ?_ ?_
    (runs_awaitAll (2 * r.devices) m hf)
  · intro m₁ u hf₁
    exact Outcome.Sat.precede (fun _ h => .head (.disconnects r m₁ hf₁) h)
      (sweep_sat flight_launch_self)
  · exact fun m₁ err hf₁ => ⟨Or.inl ⟨4, hf₁⟩, fun h => nomatch h⟩

theorem runs_silence (hf : m.flight n = some (.stopping 1)) :
    Runs P n (.stopMesh r) (fun φ x => (∃ err, x = .error err ∧
          (φ = some (.stopping 1) ∨ φ = some (.stopping 2))) ∨
        (x = .ok ⟨⟩ ∧ φ = some (.stopping 3)))
      (stopAdvertising r.stopAdvertising r.stopGattServer (Mesh.stage n)) m := by
  refine runs_stopAdvertising _ _ _ hf (fun m hm => ?_) (fun m hm => ?_)
  · have hstage : (m.setAdvertising false).stage n =
        (m.setAdvertising false).launch n (.stopping 2) := stage_stopping hm
    rw [hstage]
    exact ⟨.single (.advertisingOff r m hm), flight_launch_self⟩
  · have hstage : (m.setGattServer false).stage n =
        (m.setGattServer false).launch n (.stopping 3) := stage_stopping hm
    rw [hstage]
    exact ⟨.single (.gattServerOff r m hm), flight_launch_self⟩

theorem runs_stopScan (hf : m.flight n = some (.stopping 0)) :
    Runs P n (.stopMesh r) (fun φ x => (∃ err, x = .error err ∧ φ = some (.stopping 0)) ∨
        (x = .ok ⟨⟩ ∧ φ = some (.stopping 1)))
      (switchOff r.stopLEScan fun m => (m.setScan false).stage n) m := by
  refine runs_switchOff hf fun m hm => ?_
  have hstage : (m.setScan false).stage n = (m.setScan false).launch n (.stopping 1) :=
    stage_stopping hm
  rw [hstage]
  exact ⟨.single (.scanOff r m hm), flight_launch_self⟩

theorem stopMesh_sat (hf : m.flight n = some (.stopping 0)) :
    ((do
        Co.await (switchOff r.stopLEScan fun m => (m.setScan false).stage n)
        Co.await (stopAdvertising r.stopAdvertising r.stopGattServer (Mesh.stage n))
        modify fun m => m.stopTimers.stage n
        awaitAll (2 * r.devices)
        modify fun m => m.disconnectAll.launch n (.sweeping 0 none)
        removeListeners n r.remove r.rounds 0
        modify Mesh.clear : MeshCo PUnit) m).Sat (fun _ => True) (Rely n) (Chain P n (.stopMesh r))
      (StopPost n) m := by
  refine Outcome.Sat.bind (fun _ _ h => h) (fun _ _ _ h h' => h.trans h') ?_ ?_ (runs_stopScan hf).await
  · rintro m₁ u (⟨_, hx, -⟩ | ⟨-, hf₁⟩)
    · cases hx
    refine Outcome.Sat.bind (fun _ _ h => h) (fun _ _ _ h h' => h.trans h') ?_ ?_
      (runs_silence hf₁).await
    · rintro m₂ u (⟨_, hx, -⟩ | ⟨-, hf₂⟩)
      · cases hx
      have htimers : m₂.stopTimers.stage n = m₂.stopTimers.launch n (.stopping 4) :=
        stage_stopping hf₂
      have hatom : Chain P n (.stopMesh r) m₂ (m₂.stopTimers.stage n) := by
        rw [htimers]
        exact .single (.timersOff r m₂ hf₂)
      have hf₃ : (m₂.stopTimers.stage n).flight n = some (.stopping 4) := by
        rw [htimers]
        exact flight_launch_self
      exact Outcome.Sat.precede (fun _ h => hatom.trans h) (stopLoops_sat hf₃)
    · rintro m₂ err (⟨_, -, hf₂ | hf₂⟩ | ⟨hx, -⟩)
      · exact ⟨Or.inl ⟨1, hf₂⟩, fun h => nomatch h⟩
      · exact ⟨Or.inl ⟨2, hf₂⟩, fun h => nomatch h⟩
      · cases hx
  · rintro m₁ err (⟨_, -, hf₁⟩ | ⟨hx, -⟩)
    · exact ⟨Or.inl ⟨0, hf₁⟩, fun h => nomatch h⟩
    · cases hx

end Stop

/-! ## Every event -/

/-- What a settled call leaves: no flight; a `stopMesh` that resolved leaves its
flags down. -/
def Settles (n : ℕ) (e : Event) (m : Mesh) (x : Except JsError Unit) : Prop :=
  m.flight n = none ∧
    ∀ r, e = .stopMesh r → x = .ok () → m.advertising = false ∧ m.scanning = false

/-- What a call leaves before it lands. -/
def MayLand (n : ℕ) (e : Event) (m : Mesh) (x : Except JsError Unit) : Prop :=
  Ends e (m.flight n) ∧
    ∀ r, e = .stopMesh r → x = .ok () → m.advertising = false ∧ m.scanning = false

theorem landing_sat {co : MeshCo Unit} {m₀ : Mesh}
    (h : (co m).Sat (fun _ => True) (Rely n) (Chain P n e) (MayLand n e) m₀) :
    (landing n co m).Sat (fun _ => True) (Rely n) (Chain P n e) (Settles n e) m₀ := by
  have hland : ∀ m x, MayLand n e m x → Chain P n e m (m.land n) ∧ Settles n e (m.land n) x :=
    fun m x hm => ⟨.single (.lands e m hm.1), flight_land_self, hm.2⟩
  have hattempt : ((co m).attempt).Sat (fun _ => True) (Rely n) (Chain P n e)
      (fun m x => ∃ y, x = .ok y ∧ MayLand n e m y) m₀ :=
    h.attempt fun m x hm => ⟨x, rfl, hm⟩
  refine Outcome.Sat.bind (fun _ _ h => h) (fun _ _ _ h h' => h.trans h') ?_ ?_ hattempt
  · rintro m' x ⟨y, hy, hm⟩
    cases hy
    cases x with
    | ok u => exact hland m' _ hm
    | error err => exact hland m' _ hm
  · rintro m' err ⟨y, hy, -⟩
    cases hy

theorem Runs.mayLand {co : MeshCo Unit} {Φ : Option Flight → Except JsError Unit → Prop}
    (h : Runs P n e Φ co m) (hends : ∀ φ x, Φ φ x → Ends e φ)
    (hstop : ∀ r, e ≠ .stopMesh r) :
    (co m).Sat (fun _ => True) (Rely n) (Chain P n e) (MayLand n e) m :=
  Outcome.Sat.mono (fun _ _ hG => hG)
    (fun _ x hm => ⟨hends _ x hm, fun r he => absurd he (hstop r)⟩) h

/-- A call that does nothing more. -/
theorem mayLand_ret {x : Except JsError Unit} (hf : m.flight n = none) (hstop : ∀ r, e ≠ .stopMesh r) :
    MayLand n e m x :=
  ⟨by rw [hf]; trivial, fun r he => absurd he (hstop r)⟩

end Calls

/-! ### Entries -/

section Entries

variable {P : Primitives} {m : Mesh}

/-- The event enters and may then land. -/
def Performs (P : Primitives) (e : Event) (m : Mesh) : Prop :=
  ∃ m₀, Enters e m m₀ ∧ (respond P m.calls e m.number).Sat (fun _ => True) (Rely m.calls)
    (Chain P m.calls e) (MayLand m.calls e) m₀

theorem startMesh_performs (r : StartReplies) (hf : m.flight m.calls = none) :
    Performs P (.startMesh r) m := by
  by_cases hrunning : (m.number.advertising || m.number.scanning) = true
  · refine ⟨m.number, .ignored _ m, ?_⟩
    show (startMesh m.calls r m.number).Sat _ _ _ _ _
    unfold startMesh
    simp only [Co.bind_apply, Co.get_apply, Outcome.bind, Co.ite_apply]
    rw [if_pos hrunning]
    exact ⟨.refl, mayLand_ret hf fun _ h => by cases h⟩
  · have hidle := Bool.eq_false_iff.mpr hrunning
    rw [Bool.or_eq_false_iff] at hidle
    refine ⟨_, .takes _ m _ (.startMesh r m hidle.1 hidle.2), ?_⟩
    show (startMesh m.calls r m.number).Sat _ _ _ _ _
    unfold startMesh
    simp only [Co.bind_apply, Co.get_apply, Outcome.bind, Co.ite_apply]
    rw [if_neg hrunning]
    refine (runs_startMesh flight_launch_self).mayLand ?_ fun _ h => by cases h
    rintro φ x ((rfl | ⟨hfailed, handle, rfl⟩) | rfl)
    · trivial
    · exact ⟨r, rfl, hfailed⟩
    · trivial

theorem stopMesh_performs (r : StopReplies) : Performs P (.stopMesh r) m := by
  refine ⟨_, .takes _ m _ (.stopMesh r m), ?_⟩
  refine Outcome.Sat.mono (fun _ _ hG => hG) ?_ (stopMesh_sat flight_launch_self)
  rintro m' x ⟨hstopping, hflags⟩
  refine ⟨?_, fun _ _ hx => hflags hx⟩
  rcases hstopping with ⟨k, hf⟩ | ⟨i, hf⟩
  · rw [hf]
    trivial
  · rw [hf]
    trivial

theorem rotate_performs (peerId : Bytes) (r : RotateReplies) :
    Performs P (.rotate peerId r) m := by
  refine ⟨_, .takes _ m _ (.rotate peerId r m), ?_⟩
  refine (runs_rotate flight_launch_self).mayLand ?_ fun _ h => nomatch h
  rintro φ x rfl
  trivial

/-- What follows the checks of the scan callback. -/
theorem onSighting_attempt {s : Mesh.PeerSighting} (c : ConnectReplies) (id : IdentityReplies)
    (hr : HandshakeReplies) (n : ℕ) (h : m.Connects s.deviceId) :
    onSighting P n s c id hr m =
      ((do
        match ← Co.attempt (connectPeer n s c) with
        | .error _ => modify (Mesh.armBackoff s.deviceId)
        | .ok _ => startHandshake P n s id hr) : MeshCo Unit)
        (m.launch n (.connecting s.deviceId)) := by
  have hfree : ¬ m.connectedDevices.has s.deviceId = true := Bool.eq_false_iff.mp h.free
  have hlimit : ¬ m.connectedDevices.size ≥ MAX_BLE_CONNECTIONS := Nat.not_le.mpr h.limit
  have hbackoff : ¬ m.now < (m.backoff.get? s.deviceId).getD 0 := Nat.not_lt.mpr h.backoff
  unfold onSighting
  simp only [Co.bind_apply, Co.get_apply, Outcome.bind, Co.ite_apply]
  rw [if_neg hfree, if_neg hlimit, if_neg hbackoff]
  rfl

/-- A sighting that does not pass them does nothing. -/
theorem onSighting_ignored {s : Mesh.PeerSighting} (c : ConnectReplies) (id : IdentityReplies)
    (hr : HandshakeReplies) (n : ℕ) (h : ¬ m.Connects s.deviceId) :
    onSighting P n s c id hr m = .ret m () := by
  unfold onSighting
  simp only [Co.bind_apply, Co.get_apply, Outcome.bind, Co.ite_apply]
  split_ifs with hhas hlimit hbackoff
  · rfl
  · rfl
  · rfl
  · exact absurd ⟨Bool.eq_false_iff.mpr hhas, Nat.not_le.mp hlimit, Nat.not_lt.mp hbackoff⟩ h

theorem sighting_performs (s : Mesh.PeerSighting) (c : ConnectReplies) (id : IdentityReplies)
    (hr : HandshakeReplies) (hf : m.flight m.calls = none) :
    Performs P (.sighting s c id hr) m := by
  have hskip : ∀ co : MeshCo Unit, co m.number = .ret m.number () →
      (co m.number).Sat (fun _ => True) (Rely m.calls) (Chain P m.calls (.sighting s c id hr))
        (MayLand m.calls (.sighting s c id hr)) m.number := by
    intro co hco
    rw [hco]
    exact ⟨.refl, mayLand_ret hf fun _ h => nomatch h⟩
  by_cases hconnects : m.Connects s.deviceId
  · refine ⟨_, .takes _ m _ (.sighting s c id hr m hconnects), ?_⟩
    show (onSighting P m.calls s c id hr m.number).Sat _ _ _ _ _
    have hnumber : m.number.Connects s.deviceId :=
      ⟨hconnects.free, hconnects.limit, hconnects.backoff⟩
    rw [onSighting_attempt c id hr m.calls hnumber]
    refine (runs_sighting flight_launch_self).mayLand ?_ fun _ h => nomatch h
    rintro φ x (⟨hfailed, rfl | rfl⟩ | (rfl | ⟨_, _, rfl⟩))
    · trivial
    · exact ⟨s, c, id, hr, rfl, hfailed⟩
    · trivial
    · trivial
  · refine ⟨m.number, .ignored _ m, hskip _ ?_⟩
    exact onSighting_ignored c id hr m.calls fun hnumber =>
      hconnects ⟨hnumber.free, hnumber.limit, hnumber.backoff⟩

theorem sendFrame_performs (p : PeerIdHex) (frame : Bytes) (writeRx : ℕ → Except JsError Unit)
    (hf : m.flight m.calls = none) : Performs P (.sendFrame p frame writeRx) m := by
  have htarget : m.number.sendTarget p = m.sendTarget p := rfl
  cases ht : m.sendTarget p with
  | error err =>
      refine ⟨m.number, .ignored _ m, ?_⟩
      show (sendFrame P m.calls p frame writeRx m.number).Sat _ _ _ _ _
      unfold sendFrame
      simp only [Co.bind_apply, Co.get_apply, Outcome.bind]
      rw [htarget, ht]
      exact ⟨.refl, mayLand_ret hf fun _ h => by cases h⟩
  | ok t =>
      refine ⟨_, .takes _ m _ (.sendFrame p frame writeRx m t ht), ?_⟩
      show (sendFrame P m.calls p frame writeRx m.number).Sat _ _ _ _ _
      unfold sendFrame
      simp only [Co.bind_apply, Co.get_apply, Outcome.bind]
      rw [htarget, ht]
      refine (runs_sendFrame frame writeRx _ _ t.session flight_launch_self).mayLand ?_
        fun _ h => by cases h
      rintro φ x rfl
      trivial

theorem routeFrame_performs {deviceId : DeviceId} {chunk : Bytes} (id : IdentityReplies)
    (hr : HandshakeReplies) {frame : ReassembledFrame}
    (hframe : (m.reassemble deviceId chunk).2 = some frame) (hf : m.flight m.calls = none) :
    ∃ m₀, Enters (.chunk deviceId chunk id hr) m m₀ ∧
      (routeFrame P m.calls deviceId frame id hr
        (m.number.setReassembler deviceId (m.reassemble deviceId chunk).1)).Sat (fun _ => True)
        (Rely m.calls) (Chain P m.calls (.chunk deviceId chunk id hr))
        (MayLand m.calls (.chunk deviceId chunk id hr)) m₀ := by
  have hstop : ∀ r, Event.chunk deviceId chunk id hr ≠ .stopMesh r := fun _ h => nomatch h
  have hroute : ∀ f, Routes deviceId frame m f → Enters (.chunk deviceId chunk id hr) m
      ((m.number.setReassembler deviceId (m.reassemble deviceId chunk).1).launch m.calls f) :=
    fun f => .routes deviceId chunk id hr m frame f hframe
  generalize hm₁ : m.number.setReassembler deviceId (m.reassemble deviceId chunk).1 = m₁
  have hignore : Enters (.chunk deviceId chunk id hr) m m₁ :=
    hm₁ ▸ .reassembles deviceId chunk id hr m
  have hret : (.ret m₁ () : Outcome Unit Mesh JsError Unit).Sat (fun _ => True) (Rely m.calls)
      (Chain P m.calls (.chunk deviceId chunk id hr))
      (MayLand m.calls (.chunk deviceId chunk id hr)) m₁ :=
    ⟨.refl, mayLand_ret (hm₁ ▸ hf) hstop⟩
  have hstates : m₁.cryptoStates = m.cryptoStates := by rw [← hm₁]; rfl
  have hobject : ∀ ref, m₁.object ref = m.object ref := by intro ref; rw [← hm₁]; rfl
  have hpeer : m₁.peerId = m.peerId := by rw [← hm₁]; rfl
  unfold routeFrame
  simp only [Co.bind_apply, Co.get_apply, Outcome.bind, hstates]
  rw [hm₁] at hroute
  cases hcs : m.cryptoStates.get? deviceId with
  | none =>
      simp only [Co.ite_apply]
      by_cases htype : frame.frameType = FrameType.SessionData
      · rw [if_pos htype]
        exact ⟨m₁, hignore, hret⟩
      · rw [if_neg htype]
        unfold bootstrapResponder
        simp only [Co.bind_apply, Co.get_apply, Outcome.bind, hpeer]
        cases hid : m.peerId with
        | none => exact ⟨m₁, hignore, hret⟩
        | some ourPeerId =>
            refine ⟨_, hroute _ (.bootstrapping ourPeerId hid hcs htype), ?_⟩
            refine (runs_bootstrapResponder _ _ flight_launch_self).mayLand ?_ hstop
            rintro φ x (rfl | hφ)
            · trivial
            · exact hφ.ends
  | some ref =>
      simp only [Co.ite_apply]
      by_cases htype : frame.frameType = FrameType.SessionData
      · rw [if_pos htype]
        unfold receiveData
        simp only [Co.bind_apply, Co.get_apply, Outcome.bind, hobject]
        cases hverdict : (m.object ref).verdict with
        | pending => exact ⟨m₁, hignore, hret⟩
        | rejected => exact ⟨m₁, hignore, hret⟩
        | accepted =>
            cases hsession : (m.object ref).session with
            | none => exact ⟨m₁, hignore, hret⟩
            | some s =>
                refine ⟨_, hroute _ (.receiving ref s hcs htype hverdict hsession), ?_⟩
                refine (runs_receiveData frame.payload _ s flight_launch_self).mayLand ?_ hstop
                rintro φ x rfl
                trivial
      · rw [if_neg htype]
        have hengage : Routes deviceId frame m
            (if RefusedOnSight (m₁.object ref).handshake frame.payload then
              .refusing ref deviceId else .advancing ref deviceId) := by
          rw [hobject]
          by_cases hrefused : RefusedOnSight (m.object ref).handshake frame.payload
          · rw [if_pos hrefused]
            exact .refusing ref hcs htype hrefused
          · rw [if_neg hrefused]
            exact .advancing ref hcs htype hrefused
        refine ⟨_, hroute _ hengage, ?_⟩
        refine (runs_advance rfl (m := m₁.engage m.calls ref deviceId frame.payload)
          flight_launch_self).mayLand ?_ hstop
        exact fun φ x hφ => hφ.ends

theorem chunk_performs (deviceId : DeviceId) (chunk : Bytes) (id : IdentityReplies)
    (hr : HandshakeReplies) (hf : m.flight m.calls = none) :
    Performs P (.chunk deviceId chunk id hr) m := by
  have hreassemble : ((m.number.reassemblers.get? deviceId).getD .new).receive chunk =
      m.reassemble deviceId chunk := rfl
  cases hframe : (m.reassemble deviceId chunk).2 with
  | none =>
      refine ⟨_, .reassembles deviceId chunk id hr m, ?_⟩
      show (handleIncomingChunk P m.calls deviceId chunk id hr m.number).Sat _ _ _ _ _
      unfold handleIncomingChunk
      simp only [Co.bind_apply, Co.get_apply, Outcome.bind, hreassemble]
      rw [hframe]
      exact ⟨.refl, mayLand_ret hf fun _ h => by cases h⟩
  | some frame =>
      obtain ⟨m₀, henters, hsat⟩ := routeFrame_performs id hr hframe hf
      refine ⟨m₀, henters, ?_⟩
      show (handleIncomingChunk P m.calls deviceId chunk id hr m.number).Sat _ _ _ _ _
      unfold handleIncomingChunk
      simp only [Co.bind_apply, Co.get_apply, Outcome.bind, hreassemble]
      rw [hframe]
      exact hsat

/-- An event that is over in one segment. -/
theorem instant_performs {e : Event} {m' : Mesh} (henters : Enters e m m')
    (hret : respond P m.calls e m.number = .ret m' ()) (hflights : m'.flights = m.flights)
    (hf : m.flight m.calls = none) (hstop : ∀ r, e ≠ .stopMesh r) : Performs P e m := by
  refine ⟨m', henters, ?_⟩
  rw [hret]
  exact ⟨.refl, mayLand_ret ((flight_of_flights hflights).trans hf) hstop⟩

/-- Every event enters and may then land. -/
theorem performs (e : Event) (hf : m.flight m.calls = none) : Performs P e m := by
  cases e with
  | startMesh r => exact startMesh_performs r hf
  | stopMesh r => exact stopMesh_performs r
  | rotate peerId r => exact rotate_performs peerId r
  | sighting s c id hr => exact sighting_performs s c id hr hf
  | chunk deviceId chunk id hr => exact chunk_performs deviceId chunk id hr hf
  | sendFrame p frame writeRx => exact sendFrame_performs p frame writeRx hf
  | lateLink deviceId =>
      exact instant_performs (.lateLink deviceId m) rfl rfl hf fun _ h => nomatch h
  | disconnected deviceId =>
      exact instant_performs (.disconnected deviceId m) rfl flights_disconnected hf
        fun _ h => nomatch h
  | connection deviceId connected =>
      cases connected with
      | true =>
          exact instant_performs (.connected deviceId m) rfl flights_connectedInbound hf
            fun _ h => nomatch h
      | false =>
          exact instant_performs (.dropped deviceId m) rfl flights_disconnected hf
            fun _ h => nomatch h
  | gcTick => exact instant_performs (.gc m) rfl rfl hf fun _ h => nomatch h
  | timeoutTick =>
      exact instant_performs (.timeouts m) rfl
        (checkHandshakeTimeouts_onlyObjects m.number).flights hf fun _ h => nomatch h
  | clock ms => exact instant_performs (.clock ms m) rfl rfl hf fun _ h => nomatch h
  | acceptPeer p =>
      exact instant_performs (.accepts p m) rfl (acceptPeer_onlyObjects p m.number).flights hf
        fun _ h => nomatch h
  | rejectPeer p =>
      exact instant_performs (.rejects p m) rfl (rejectPeer_onlyObjects p m.number).flights hf
        fun _ h => nomatch h

/-- Every event is an entry and chains of atoms, and lands. -/
theorem handle_chains (e : Event) (hf : m.flight m.calls = none) :
    ∃ m₀, Enters e m m₀ ∧ (handle P e m).Sat (fun _ => True) (Rely m.calls) (Chain P m.calls e)
      (Settles m.calls e) m₀ := by
  obtain ⟨m₀, henters, hsat⟩ := performs (P := P) e hf
  exact ⟨m₀, henters, landing_sat hsat⟩

end Entries

end Oxpulse.Transport
