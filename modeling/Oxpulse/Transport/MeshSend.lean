import Oxpulse.Transport.MeshObjects

/-!
# Whom `sendFrame` encrypts to

`sendFrame` takes the address of the peer from the registry and the session from
the `CryptoState` that is registered for the address. The two maps have
different lifetimes: the registry remembers the address of a peer for two
minutes, and the `CryptoState` is the one of whoever connects from there.
-/

namespace Oxpulse.Transport

open Oxpulse.Coroutine Oxpulse.Crypto

/-- The address the registry has for the peer. -/
def Mesh.registeredMac (peerIdHex : PeerIdHex) (m : Mesh) : Option DeviceId :=
  Mesh.truthy ((m.registry.list.find? fun p => p.idHex == peerIdHex).map Peer.mac)

/-- The address that the registry has for the peer does not hold an accepted
session of another peer. -/
def Mesh.Addressed (peerIdHex : PeerIdHex) (m : Mesh) : Prop :=
  ∀ mac ref, m.registeredMac peerIdHex = some mac → m.cryptoStates.get? mac = some ref →
    Usable ref m → (m.object ref).peerIdHex = peerIdHex

section Target

variable {p : PeerIdHex} {m : Mesh} {deviceId : DeviceId}

/-- The address comes from the registry, or it is one of a `CryptoState` with the
id. -/
theorem resolveDevice_cases (h : Mesh.truthy (m.resolveDevice p) = some deviceId) :
    m.registeredMac p = some deviceId ∨
      m.registeredMac p = none ∧ ∃ ref, m.cryptoStates.get? deviceId = some ref ∧
        (m.object ref).peerIdHex = p := by
  unfold Mesh.resolveDevice at h
  unfold Mesh.registeredMac
  generalize (m.registry.list.find? fun p' => p'.idHex == p).map Peer.mac = mac at h ⊢
  have hmatching : ∀ e, e ∈ (m.cryptoStates.entries.filter
      fun e => (m.object e.2).peerIdHex == p) →
      m.cryptoStates.get? e.1 = some e.2 ∧ (m.object e.2).peerIdHex = p := by
    intro e he
    obtain ⟨hmem, hid⟩ := List.mem_filter.mp he
    exact ⟨InsMap.get?_eq_some.mpr hmem, eq_of_beq hid⟩
  have htruthy : ∀ d : Option DeviceId, Mesh.truthy d = some deviceId → d = some deviceId := by
    intro d hd
    exact (Option.filter_eq_some_iff.mp hd).1
  generalize m.cryptoStates.entries.filter (fun e => (m.object e.2).peerIdHex == p) = matching
    at h hmatching
  cases hmac : Mesh.truthy mac with
  | some mac' =>
      simp only [hmac] at h
      exact Or.inl (htruthy _ h)
  | none =>
      right
      refine ⟨rfl, ?_⟩
      simp only [hmac] at h
      cases hfind : matching.find? fun e => m.connectedDevices.has e.1 with
      | some e =>
          simp only [hfind] at h
          have heq : e.1 = deviceId := Option.some.inj (htruthy _ h)
          obtain ⟨hget, hid⟩ := hmatching e (List.mem_of_find?_eq_some hfind)
          exact ⟨e.2, heq ▸ hget, hid⟩
      | none =>
          simp only [hfind] at h
          cases mac with
          | some mac' =>
              rw [Option.some_or] at h
              rw [hmac] at h
              cases h
          | none =>
              rw [Option.none_or] at h
              cases matching with
              | nil => cases h
              | cons e matching =>
                  have heq : e.1 = deviceId := Option.some.inj (htruthy _ h)
                  obtain ⟨hget, hid⟩ := hmatching e List.mem_cons_self
                  exact ⟨e.2, heq ▸ hget, hid⟩

theorem sendTarget_device {t : Mesh.SendTarget} (h : m.sendTarget p = .ok t) :
    Mesh.truthy (m.resolveDevice p) = some t.deviceId := by
  unfold Mesh.sendTarget at h
  split at h
  next => cases h
  next deviceId hdevice =>
    split at h
    next => cases h
    next ref hget =>
      split at h
      next => cases h; exact hdevice
      next => cases h

/-- **The target is an object of the peer** exactly if the registry's address is
the peer's. -/
theorem sendTarget_names {t : Mesh.SendTarget} (h : m.sendTarget p = .ok t) :
    (m.object t.ref).peerIdHex = p ↔ m.Addressed p := by
  obtain ⟨hget, husable⟩ := sendTarget_usable h
  constructor
  · intro hid mac ref hmac hreg _
    rcases resolveDevice_cases (sendTarget_device h) with hdevice | ⟨hnone, -⟩
    · rw [hmac] at hdevice
      cases hdevice
      rw [hget] at hreg
      cases hreg
      exact hid
    · rw [hmac] at hnone
      cases hnone
  · intro haddressed
    rcases resolveDevice_cases (sendTarget_device h) with hdevice | ⟨-, ref, hreg, hid⟩
    · exact haddressed _ _ hdevice hget husable
    · rw [hget] at hreg
      cases hreg
      exact hid

end Target

/-! ## Over a run -/

/-- What `sendFrame` is called with: when it starts, the registry's address for
the peer is not occupied by another accepted one. -/
def AddressedSends : Event → Mesh → Prop
  | .sendFrame p _ _, m => m.Addressed p
  | _, _ => True

/-- The object a frame is encrypted with has the peer id the call names. -/
structure Named (m : Mesh) : Prop where
  live : Live m
  sending : ∀ i p ref deviceId, m.flight i = some (.sending p ref deviceId) →
    (m.object ref).peerIdHex = p
  sent : ∀ entry ∈ m.sent, (m.object entry.ref).peerIdHex = entry.peerIdHex

section Named

variable {P : Primitives} {n : ℕ} {e : Event} {m m' : Mesh}

theorem Lifts.named {A : PeerIdHex → Prop} (h : Lifts (Persists A) m m') {ref : ℕ} {p : PeerIdHex}
    (href : ref < m.objects.length) (hp : (m.object ref).peerIdHex = p) :
    (m'.object ref).peerIdHex = p :=
  (h.old ref href).peerIdHex.trans hp

theorem Atom.named (h : Atom P n e m m') (hm : Named m) : Named m' where
  live := h.live hm.live
  sending := by
    intro i p ref deviceId hf
    have hsending : ∀ j, m.flight j = some (.sending p ref deviceId) →
        (m'.object ref).peerIdHex = p := fun j hj =>
      h.alters.persists.named (hm.live.held j _ ref hj rfl) (hm.sending j p ref deviceId hj)
    rcases h.flights hf with hold | ⟨rfl, hnext⟩
    · exact hsending i hold
    · rcases hnext.object with hsame | ⟨hnone, -⟩
      · exact hsending i hsame
      · exact absurd rfl (hnone ref)
  sent := by
    intro entry hmem
    have hnamed : entry.ref < m.objects.length → (m.object entry.ref).peerIdHex = entry.peerIdHex →
        (m'.object entry.ref).peerIdHex = entry.peerIdHex := h.alters.persists.named
    rcases h.sent_cases with hsame | ⟨entry', happend, -, hf⟩
    · rw [hsame] at hmem
      exact hnamed (hm.live.sent entry hmem).lt (hm.sent entry hmem)
    · rw [happend, List.mem_append, List.mem_singleton] at hmem
      rcases hmem with hold | rfl
      · exact hnamed (hm.live.sent entry hold).lt (hm.sent entry hold)
      · exact hnamed (hm.live.held n _ _ hf rfl) (hm.sending n _ _ _ hf)

theorem Enters.named (h : Enters e m m') (haddressed : AddressedSends e m) (hm : Named m) :
    Named m' where
  live := h.live hm.live
  sending := by
    intro i p ref deviceId hf
    rcases h.flights hf with hold | ⟨-, hbegins⟩
    · exact h.persists.named (hm.live.held i _ ref hold rfl) (hm.sending i p ref deviceId hold)
    · cases hbegins with
      | takes _ _ _ htakes =>
          cases htakes with
          | sendFrame _ frame writeRx _ t ht =>
              have hnames := (sendTarget_names ht).mpr haddressed
              exact h.persists.named (sendTarget_usable ht).2.lt hnames
      | routes _ _ _ _ _ _ _ _ hroutes => cases hroutes
  sent := by
    intro entry hmem
    rw [h.logs.1] at hmem
    exact h.persists.named (hm.live.sent entry hmem).lt (hm.sent entry hmem)

theorem Pristine.named (hm : Pristine m) : Named m where
  live := hm.live
  sending := fun i p ref deviceId h => by
    rw [hm.flight i] at h
    cases h
  sent := fun entry h => by
    rw [hm.sent] at h
    exact absurd h List.not_mem_nil

theorem meshRun_named (hm : Pristine m) {ms : List (Move Event Unit)}
    (h : Meets P m AddressedSends ms) : Named (meshRun P m ms).shared :=
  h.keeps hm.counted hm.named (fun _ _ _ henters => henters.named) fun _ _ _ _ hatom => hatom.named

end Named

/-- **`sendFrame` encrypts to the peer it names.** In a run in which every
`sendFrame` is called while the registry's address for the peer is not occupied
by another accepted one, each chunk is encrypted with the session of a
`CryptoState` of that peer, whose handshake was complete and which an
`acceptPeer` for that peer accepted. Where the address is occupied, the session
is the other peer's. -/
theorem sent_chunks_name_their_peer (P : Primitives) (tofu : TofuStore) (now : ℕ)
    (ms : List (Move Event Unit))
    (h : Meets P (.initial tofu now) AddressedSends ms) :
    (∀ entry ∈ (meshRun P (.initial tofu now) ms).shared.sent,
      ((meshRun P (.initial tofu now) ms).shared.object entry.ref).peerIdHex = entry.peerIdHex ∧
      (∃ pre, pre <+: ms ∧
        ((meshRun P (.initial tofu now) pre).shared.object entry.ref).handshake.isComplete = true) ∧
      AcceptedBy P (.initial tofu now) ms entry.ref entry.peerIdHex) ∧
    ∀ p (t : Mesh.SendTarget), (meshRun P (.initial tofu now) ms).shared.sendTarget p = .ok t →
      (((meshRun P (.initial tofu now) ms).shared.object t.ref).peerIdHex = p ↔
        (meshRun P (.initial tofu now) ms).shared.Addressed p) := by
  have hpristine := pristine_initial tofu now
  have hnamed := meshRun_named (P := P) hpristine h
  refine ⟨fun entry hmem => ?_, fun p t ht => sendTarget_names ht⟩
  have husable := hnamed.live.sent entry hmem
  have hid := hnamed.sent entry hmem
  refine ⟨hid, meshRun_completed hpristine ms husable.session, ?_⟩
  have haccepted := meshRun_accepted (P := P) hpristine ms husable.verdict
  rw [hid] at haccepted
  exact haccepted

/-! ### A run with one peer, and one with an address that is used again -/

/-- The test of `AddressedSends`. -/
def addressesSend : Event → Mesh → Bool
  | .sendFrame p _ _, m =>
      match m.registeredMac p with
      | none => true
      | some mac =>
          match m.cryptoStates.get? mac with
          | none => true
          | some ref => decide ((m.object ref).peerIdHex = p)
  | _, _ => true

theorem addressesSend_sound (e : Event) (m : Mesh) (h : addressesSend e m = true) :
    AddressedSends e m := by
  cases e with
  | sendFrame p frame writeRx =>
      intro mac ref hmac hget _
      unfold addressesSend at h
      simp only [hmac, hget] at h
      exact of_decide_eq_true h
  | _ => trivial

/-- Peer 2 is sighted, shakes hands and is accepted; a frame is sent to it. -/
def sendsToPeer : List (Move Event Unit) :=
  alone 0 (.startMesh sampleStart) 12 ++ alone 1 (sightingOf 2 "A") 40 ++
    arrives "A" 40 2 (chunksOf sampleMsg2 FrameType.HandshakeMsg2) ++
    [.start (.acceptPeer "0202020202020202")] ++
    alone 9 (.sendFrame "0202020202020202" [1, 2, 3] fun _ => .ok ()) 20

theorem sends_to_peer :
    let m := (meshRun .sample (.initial .empty 0) sendsToPeer).shared
    m.sent ≠ [] ∧ ∀ entry ∈ m.sent, (m.object entry.ref).peerIdHex = entry.peerIdHex := by
  have hlegal : Meets .sample (.initial .empty 0) AddressedSends sendsToPeer :=
    .of_tests addressesSend_sound (by decide +kernel)
  refine ⟨by decide +kernel, fun entry hmem => ?_⟩
  exact ((sent_chunks_name_their_peer .sample .empty 0 sendsToPeer hlegal).1 entry hmem).1

/-- Peer 3 is sighted at an address and leaves; peer 2 is sighted there, shakes
hands and is accepted; a frame is sent to peer 3. -/
def reusedAddress : List (Move Event Unit) :=
  alone 0 (.startMesh sampleStart) 12 ++ alone 1 (sightingOf 3 "A") 40 ++
    [.start (.disconnected "A")] ++ alone 3 (sightingOf 2 "A") 40 ++
    arrives "A" 40 4 (chunksOf sampleMsg2 FrameType.HandshakeMsg2) ++
    [.start (.acceptPeer "0202020202020202")] ++
    alone 11 (.sendFrame "0303030303030303" [1, 2, 3] fun _ => .ok ()) 20

/-- The frame for peer 3 is encrypted with the session of peer 2. -/
theorem reused_address_gets_the_frame :
    let m := (meshRun .sample (.initial .empty 0) reusedAddress).shared
    m.sent.map (fun entry => (entry.peerIdHex, (m.object entry.ref).peerIdHex)) =
      [("0303030303030303", "0202020202020202")] := by
  decide +kernel

end Oxpulse.Transport
