import Oxpulse.Transport.MeshCalls

/-!
# The pace of a scan callback

A chain of atoms forgets where a call suspends. One fact about that is needed:
the scan callback creates its `CryptoState` in a segment of its own, which begins
at `await getLocalIdentity()` with the entry of `connectedDevices` written. While
the `try` block is under way its segments register nothing (`Paced`).
-/

namespace Oxpulse.Transport

open Oxpulse.Coroutine Oxpulse.Crypto

/-- The scan callback's `try` block is under way. -/
def Waiting (n : ℕ) (m : Mesh) : Prop := ((m.flight n).bind Flight.attempt).isSome

def SameStates (m m' : Mesh) : Prop := m'.cryptoStates = m.cryptoStates

/-- While the `try` block is under way, a segment registers nothing. -/
def Waits (n : ℕ) (m m' : Mesh) : Prop := Waiting n m → SameStates m m'

/-- What a segment of call `n` keeps besides: the scan callback waits. -/
def Paced (n : ℕ) : Event → Mesh → Mesh → Prop
  | .sighting _ _ _ _, m, m' => Waits n m m'
  | _, _, _ => True

section Pace

variable {P : Primitives} {n : ℕ} {e : Event} {α : Type} {m m' m'' : Mesh}

theorem SameStates.refl (m : Mesh) : SameStates m m := rfl

theorem SameStates.trans (h : SameStates m m') (h' : SameStates m' m'') : SameStates m m'' :=
  Eq.trans h' h

theorem sameStates_trans (a b c : Mesh) (h : SameStates a b) (h' : SameStates b c) :
    SameStates a c :=
  h.trans h'

theorem SameStates.waits (h : SameStates m m') : Waits n m m' := fun _ => h

theorem not_waiting_of_flight {f : Flight} (hf : m.flight n = some f) (hattempt : f.attempt = none) :
    ¬ Waiting n m := by
  intro h
  unfold Waiting at h
  rw [hf, Option.bind_some, hattempt] at h
  cases h

theorem Rely.waiting (h : Rely n m m') : Waiting n m' ↔ Waiting n m := by
  unfold Waiting
  rw [show m'.flight n = m.flight n from h]

/-- Past the `try` block there is no way back. -/
theorem Flight.Next.attempt {k k' : ℕ} {φ φ' : Option Flight} (h : Flight.Next k k' φ φ')
    (hφ : (φ'.bind Flight.attempt).isSome) : (φ.bind Flight.attempt).isSome := by
  cases h with
  | same => exact hφ
  | linked => rfl
  | _ => cases hφ

theorem Chain.not_waiting (h : Chain P n e m m') (hm : ¬ Waiting n m) : ¬ Waiting n m' := by
  induction h with
  | refl => exact hm
  | tail _ hatom ih => exact fun hwaiting => ih (hatom.next.attempt hwaiting)

/-! ## The `try` block -/

theorem same_reply {x : Except JsError α} {φ : Option Flight} (hf : m.flight n = φ) :
    Co.Triple (Rely n) SameStates (fun m _ => m.flight n = φ)
      (Co.await (Co.ofExcept x) : MeshCo α) m := by
  refine Co.Triple.await SameStates.refl ?_ (Co.Triple.ofExcept SameStates.refl hf)
  exact fun m₁ m₂ _ h hR => Eq.trans hR h

theorem same_any {Q : Mesh → Except JsError α → Prop} {co : MeshCo α}
    (h : Co.Triple (Rely n) SameStates Q co m) :
    Co.Triple (Rely n) SameStates (fun _ _ => True) (Co.await co) m :=
  Co.Triple.await SameStates.refl (fun _ _ _ _ _ => trivial) (h.mono fun _ _ _ => trivial)

theorem same_connect (deviceId : DeviceId) (c : ConnectReplies) :
    Co.Triple (Rely n) SameStates (fun _ _ => True) (connect n deviceId c) m := by
  refine Co.Triple.bind sameStates_trans (same_reply rfl) (fun m₁ _ _ => ?_) fun _ _ _ => trivial
  refine Co.Triple.assign_bind sameStates_trans rfl ?_
  exact (same_reply rfl).mono fun _ _ _ => trivial

theorem same_negotiateMtu (getMtu : Except JsError ℤ) :
    Co.Triple (Rely n) SameStates (fun _ _ => True) (negotiateMtu getMtu) m :=
  Co.Triple.attempt_bind sameStates_trans (same_reply rfl)
    fun m' _ _ => Co.Triple.value (s := m') SameStates.refl trivial

/-- The `try` block registers nothing. -/
theorem same_connectPeer (s : Mesh.PeerSighting) (c : ConnectReplies) :
    Co.Triple (Rely n) SameStates
      (fun m x => ∀ u, x = .ok u → m.flight n = some (.opening s.deviceId))
      (connectPeer n s c) m := by
  refine Co.Triple.bind sameStates_trans (same_any (same_connect s.deviceId c))
    (fun m₁ _ _ => ?_) fun _ _ _ _ h => nomatch h
  refine Co.Triple.bind sameStates_trans (same_any (same_negotiateMtu c.getMtu))
    (fun m₂ mtu _ => ?_) fun _ _ _ _ h => nomatch h
  refine Co.Triple.assign_bind sameStates_trans rfl ?_
  refine Co.Triple.bind sameStates_trans (same_any (same_reply rfl))
    (fun m₃ _ _ => ?_) fun _ _ _ _ h => nomatch h
  refine Co.Triple.assign_bind sameStates_trans rfl ?_
  exact Co.Triple.assign rfl fun _ _ => flight_launch_self

theorem same_getLocalIdentity {φ : Option Flight} (id : IdentityReplies) (hf : m.flight n = φ) :
    Co.Triple (Rely n) SameStates (fun m _ => m.flight n = φ) (getLocalIdentity id) m := by
  show Outcome.Sat _ _ _ _ _ _
  unfold getLocalIdentity
  simp only [Co.bind_apply, Co.get_apply, Outcome.bind]
  cases m.localIdentityProvider with
  | some provider => exact Co.Triple.value SameStates.refl hf
  | none =>
      refine Co.Triple.bind sameStates_trans (same_reply hf) (fun m₁ _ hf₁ => ?_) fun _ _ h => h
      refine Co.Triple.bind sameStates_trans (same_reply hf₁) (fun m₂ _ hf₂ => ?_) fun _ _ h => h
      refine Co.Triple.assign_bind sameStates_trans rfl ?_
      exact Co.Triple.value SameStates.refl hf₂

/-! ## The handshake -/

/-- A call that is past the `try` block stays so. -/
theorem sat_past {Q : Mesh → Except JsError α → Prop} :
    ∀ (o : Outcome Unit Mesh JsError α) {m : Mesh}, ¬ Waiting n m →
      o.Sat (fun _ => True) (Rely n) (Chain P n e) Q m →
      o.Sat (fun _ => True) (Rely n) (Waits n) (fun m _ => ¬ Waiting n m) m
  | .ret _ _, _, hm, ⟨hG, _⟩ => ⟨fun h => absurd h hm, Chain.not_waiting hG hm⟩
  | .throw _ _, _, hm, ⟨hG, _⟩ => ⟨fun h => absurd h hm, Chain.not_waiting hG hm⟩
  | .await s k, _, hm, ⟨_, hG, hk⟩ => by
      refine ⟨trivial, fun h => absurd h hm, fun r s' _ hR => ?_⟩
      have hs' : ¬ Waiting n s' := fun h => Chain.not_waiting hG hm (hR.waiting.mp h)
      exact sat_past (k r s') hs' (hk r s' trivial hR)

variable {s : Mesh.PeerSighting} {c : ConnectReplies} {id : IdentityReplies}
  {hr : HandshakeReplies}

/-- `openHandshake` runs in a segment of its own, which begins after the `try`
block. The first segment may have begun in `m`. -/
theorem initiateHandshake_waits (c : ConnectReplies) {m₁ : Mesh}
    (hf : m₁.flight n = some (.opening s.deviceId))
    (hsame : SameStates m m₁) :
    (initiateHandshake P n s.deviceId s.peerId id hr m₁).Sat (fun _ => True) (Rely n) (Waits n)
      (fun m _ => ¬ Waiting n m) m := by
  have hidentity : (getLocalIdentity id m₁).Sat (fun _ => True) (Rely n) (Waits n)
      (fun m _ => m.flight n = some (.opening s.deviceId)) m :=
    (Outcome.Sat.precede (fun _ h => hsame.trans h) (same_getLocalIdentity id hf)).mono
      (fun _ _ h => h.waits) fun _ _ h => h
  have hstable : ∀ (m₁ m₂ : Mesh) (_ : Except JsError DeviceIdentityProvider),
      m₁.flight n = some (.opening s.deviceId) → True → Rely n m₁ m₂ →
        m₂.flight n = some (.opening s.deviceId) :=
    fun _ _ _ h _ hR => Eq.trans hR h
  refine hidentity.later_bind (fun m => (SameStates.refl m).waits) (fun _ _ _ => trivial)
    hstable ?_ ?_
  · intro m₂ identity hf₂
    have hopen : Runs P n (.sighting s c id hr) _ _ m₂ := runs_openHandshake identity hf₂
    exact sat_past _ (not_waiting_of_flight hf₂ rfl) hopen
  · exact fun m₂ err hf₂ => not_waiting_of_flight hf₂ rfl

theorem startHandshake_waits (c : ConnectReplies) {m₁ : Mesh}
    (hf : m₁.flight n = some (.opening s.deviceId))
    (hsame : SameStates m m₁) :
    (startHandshake P n s id hr m₁).Sat (fun _ => True) (Rely n) (Waits n) (fun _ _ => True) m := by
  refine Outcome.Sat.await_bind (fun m => (SameStates.refl m).waits) (fun _ _ _ => trivial)
    (fun _ _ _ h _ hR hwaiting => h (hR.waiting.mp hwaiting)) ?_
    (initiateHandshake_waits c hf hsame)
  intro m₂ x _
  cases x with
  | ok u => exact ⟨(SameStates.refl m₂).waits, trivial⟩
  | error err =>
      have hsame₂ : SameStates m₂ (m₂.failHandshake (m₂.cryptoStates.get? s.deviceId)) := by
        obtain ⟨_, _, _, heq⟩ := failHandshake_onlyObjects (m₂.cryptoStates.get? s.deviceId) m₂
        rw [heq]
        rfl
      exact ⟨hsame₂.waits, trivial⟩

theorem onSighting_waits {m₁ : Mesh} (hsame : SameStates m m₁) :
    (onSighting P n s c id hr m₁).Sat (fun _ => True) (Rely n) (Waits n) (fun _ _ => True) m := by
  by_cases hconnects : m₁.Connects s.deviceId
  · rw [onSighting_attempt c id hr n hconnects]
    have hconnect : ((connectPeer n s c (m₁.launch n (.connecting s.deviceId))).attempt).Sat
        (fun _ => True) (Rely n) SameStates (fun m x => ∃ y, x = .ok y ∧
          ∀ u, y = .ok u → m.flight n = some (.opening s.deviceId)) m := by
      have hblock := same_connectPeer (n := n) (m := m₁.launch n (.connecting s.deviceId)) s c
      refine Outcome.Sat.attempt (fun _ x h => ⟨x, rfl, h⟩) (Outcome.Sat.precede ?_ hblock)
      exact fun _ h => hsame.trans h
    refine hconnect.proceed (fun _ _ h => SameStates.waits h) ?_ ?_
    · rintro m₂ m₃ x hsame₂ ⟨y, hy, hf⟩
      cases hy
      cases x with
      | error err => exact ⟨SameStates.waits hsame₂, trivial⟩
      | ok u => exact startHandshake_waits c (hf u rfl) hsame₂
    · rintro m₂ err ⟨y, hy, -⟩
      cases hy
  · rw [onSighting_ignored c id hr n hconnects]
    exact ⟨hsame.waits, trivial⟩

/-- Whether it lands or not, the scan callback waits. -/
theorem handle_paced (e : Event) (m : Mesh) {m₀ : Mesh} (henters : Enters e m m₀) :
    (handle P e m).Sat (fun _ => True) (Rely m.calls) (Paced m.calls e) (fun _ _ => True) m₀ := by
  cases e with
  | sighting s c id hr =>
      have hsame : SameStates m₀ m.number := by
        cases henters with
        | ignored => rfl
        | takes => rfl
      have hrespond : ((respond P m.calls (.sighting s c id hr) m.number).attempt).Sat
          (fun _ => True) (Rely m.calls) (Waits m.calls) (fun _ x => ∃ y, x = .ok y) m₀ :=
        (onSighting_waits hsame).attempt fun _ x _ => ⟨x, rfl⟩
      have hland : ∀ m₁ m₂ : Mesh, Waits m.calls m₁ m₂ → Waits m.calls m₁ (m₂.land m.calls) :=
        fun _ _ h hwaiting => h hwaiting
      refine hrespond.proceed (fun _ _ h => h) ?_ ?_
      · intro m₁ m₂ x h _
        cases x with
        | ok u => exact ⟨hland m₁ m₂ h, trivial⟩
        | error err => exact ⟨hland m₁ m₂ h, trivial⟩
      · rintro m₁ err ⟨y, hy⟩
        cases hy
  | _ => exact (Outcome.sat_true _ _).rely (fun _ _ _ => trivial)

end Pace

/-- A segment: a chain of atoms that keeps the pace. -/
structure Segment (P : Primitives) (n : ℕ) (e : Event) (m m' : Mesh) : Prop where
  chain : Chain P n e m m'
  paced : Paced n e m m'

/-- **Every event is an entry and segments**, and lands. -/
theorem handle_opens {P : Primitives} {m : Mesh} (e : Event) (hf : m.flight m.calls = none) :
    Pool.Opens (fun _ => Enters) (Segment P) Rely Settles (handle P) m.calls e m := by
  obtain ⟨m₀, henters, hsat⟩ := handle_chains (P := P) e hf
  have hboth := hsat.and (handle_paced e m henters)
  simp only [and_self, and_true] at hboth
  exact ⟨m₀, henters, hboth.mono (fun _ _ h => ⟨h.1, h.2⟩) fun _ _ h => h⟩

end Oxpulse.Transport
