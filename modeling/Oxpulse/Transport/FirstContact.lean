import Oxpulse.Transport.OneInitiator
import Oxpulse.Transport.PeerDecision
import Oxpulse.Transport.RegistryRuns
import Oxpulse.Transport.ShakingHands

/-!
# First contact

Two devices see each other and connect. However the chunks of the handshake come in, both
end up with a session of one pair and show one SAS, and each has the Ed25519 key of the
other (`first_contact`). When both have accepted, each gets the frames that the other sends
(`frames_arrive`).
-/

namespace Oxpulse.Transport

open Oxpulse.Coroutine Oxpulse.Crypto FrameReassembler NoiseXxHandshake TwoDevices

/-! ## A sighting -/

/-- A call for a sighting, and how all that it awaits settles. -/
structure Sighted : Type where
  peer : Mesh.PeerSighting
  connect : ConnectReplies
  id : IdentityReplies
  hr : HandshakeReplies

def Sighted.event (t : Sighted) : Event := .sighting t.peer t.connect t.id t.hr

/-- The way to the device, with this object. -/
def Sighted.route (t : Sighted) (ref : ℕ) : Route :=
  ⟨t.peer.deviceId, hex t.peer.peerId, ref, clampMtu t.connect.getMtu⟩

/-- The mesh runs under this id, and connects to a device that it has not met. -/
structure Sees (identity : DeviceIdentityProvider) (own : Bytes) (t : Sighted) (m : Mesh) :
    Prop where
  peerId : m.peerId = some own
  address : t.peer.deviceId ≠ ""
  connects : m.Connects t.peer.deviceId
  succeeds : t.connect.Succeeds
  identity : m.identity t.id = .ok identity
  writeRx : ∀ i, t.hr.writeRx i = .ok ()
  stranger : m.findPeer (hex t.peer.peerId) = none
  idle : (m.reassemblers.get? t.peer.deviceId).getD .new = .new

section Sighting

variable {P : Primitives} {identity : DeviceIdentityProvider} {own : Bytes} {t : Sighted}
  {m m' : Mesh} {hs : NoiseXxHandshake} {chunks : List Bytes} {cs : CryptoState} {d : DeviceId}

/-- The object that is created for a stranger is the one that its id leads to. -/
theorem findPeer_create (hown : OwnObjects m) (hobjects : m'.objects = m.objects ++ [cs])
    (hstates : m'.cryptoStates = m.cryptoStates.set d m.objects.length)
    (hstranger : m.findPeer cs.peerIdHex = none) :
    m'.findPeer cs.peerIdHex = some m.objects.length := by
  have hnew : m'.object m.objects.length = cs := object_of_append_new hobjects
  have hentry : (d, m.objects.length) ∈ m'.cryptoStates.entries := by
    apply InsMap.get?_eq_some.mp
    rw [hstates]
    exact InsMap.get?_set_self _ _ _
  unfold Mesh.findPeer InsMap.values at hstranger ⊢
  cases hfind : (m'.cryptoStates.entries.map Prod.snd).find?
      fun ref => (m'.object ref).peerIdHex == cs.peerIdHex with
  | none =>
      have hne := List.find?_eq_none.mp hfind _ (List.mem_map.mpr ⟨_, hentry, rfl⟩)
      rw [hnew] at hne
      exact absurd (beq_self_eq_true cs.peerIdHex) hne
  | some ref =>
      have hid := List.find?_some hfind
      obtain ⟨⟨d', ref'⟩, hmem, rfl⟩ := List.mem_map.mp (List.mem_of_find?_eq_some hfind)
      have hget : m'.cryptoStates.get? d' = some ref' := InsMap.get?_eq_some.mpr hmem
      rw [hstates, InsMap.get?_set] at hget
      split at hget
      · exact hget.symm
      · -- An object that was there has another id.
        have hlt := hown.registered d' ref' hget
        have hne := List.find?_eq_none.mp hstranger ref'
          (List.mem_map.mpr ⟨_, InsMap.get?_eq_some.mp hget, rfl⟩)
        dsimp only at hid
        rw [object_of_append_old hobjects hlt] at hid
        exact absurd hid hne

/-- **A sighting** leaves the side with a handshake that has begun. -/
theorem Sees.serve (peer : Bytes) (h : Sees identity own t m) (hown : OwnObjects m)
    (hkeyed : m.registry.Keyed)
    (hfirst : FirstMessage P identity (clampMtu t.connect.getMtu) t.hr
      (Mesh.roleFor own t.peer.peerId) hs chunks)
    (hrole : hs.role = Mesh.roleFor own t.peer.peerId) (hincomplete : hs.isComplete = false) :
    Shakes P (t.route m.objects.length) hs peer (m.serve P t.event) ∧
      (t.route m.objects.length).reassembler (m.serve P t.event) = .new ∧
      (m.serve P t.event).written = m.written ++ chunks.map (Prod.mk t.peer.deviceId) := by
  obtain ⟨calls, flights, native, hserve⟩ := serve_sighting h.peerId h.connects h.succeeds h.identity
    hfirst
  unfold Sighted.event
  let cs : CryptoState := { CryptoState.new P (Mesh.roleFor own t.peer.peerId) identity
    (hex t.peer.peerId) m.now with handshake := hs }
  have hobjects : (m.serve P (.sighting t.peer t.connect t.id t.hr)).objects = m.objects ++ [cs] := by
    rw [hserve]
  have hstates : (m.serve P (.sighting t.peer t.connect t.id t.hr)).cryptoStates =
      m.cryptoStates.set t.peer.deviceId m.objects.length := by
    rw [hserve]
  have hobject : (m.serve P (.sighting t.peer t.connect t.id t.hr)).object m.objects.length = cs :=
    object_of_append_new hobjects
  refine ⟨⟨⟨?_, ?_, ?_, ?_, ?_, ?_⟩, ?_⟩, ?_, ?_⟩
  · show Mesh.registeredMac (hex t.peer.peerId) _ = some t.peer.deviceId
    rw [hserve]
    unfold Mesh.registeredMac
    show Mesh.truthy (((m.registry.upsert m.now t.peer.peerId t.peer.deviceId
      (some t.peer.rssi)).list.find? fun p => p.idHex == hex t.peer.peerId).map Peer.mac) = _
    rw [hkeyed.mac_upsert]
    unfold Mesh.truthy
    simp [h.address]
  · have hfound := findPeer_create hown hobjects hstates h.stranger
    exact hfound
  · rw [hstates]
    exact InsMap.get?_set_self _ _ _
  · rw [hobjects, List.length_append]
    exact Nat.lt_succ_self _
  · exact congrArg CryptoState.peerIdHex hobject
  · rw [hserve]
    exact InsMap.get?_set_self m.mtuCache _ _
  · rw [show (t.route m.objects.length).ref = m.objects.length from rfl, hobject]
    refine ⟨rfl, hrole.symm, rfl, fun hcomplete => ?_⟩
    rw [hincomplete] at hcomplete
    cases hcomplete
  · unfold Route.reassembler
    rw [hserve]
    exact h.idle
  · rw [hserve]

end Sighting

/-! ## Both sides -/

/-- Two devices that run, have not met, and can connect to each other. The smaller id is
the initiator's. -/
structure Strangers (P : Primitives) (identity : Direction → DeviceIdentityProvider)
    (own : Direction → Bytes) (t : Direction → Sighted) (w : TwoDevices) : Prop where
  reached : ∀ side, Reached P (w.mesh side)
  sees : ∀ side, Sees (identity side) (own side) (t side) (w.mesh side)
  peers : ∀ side, (t side).peer.peerId = own side.opposite
  length : (own .initiator).length = (own .responder).length
  lt : own .initiator < own .responder
  least : ∀ side, 80 ≤ clampMtu (t side).connect.getMtu
  silent : ∀ side, w.toward side = []

/-- A call on each side, on this one first. -/
def onBoth (e : Direction → Event) (first : Direction) : List Turn :=
  [.call first (e first), .call first.opposite (e first.opposite)]

/-- The addresses that the sides sight each other at. -/
def addresses (t : Direction → Sighted) (side : Direction) : DeviceId := (t side).peer.deviceId

/-- The ways that the sightings open. -/
def routes (t : Direction → Sighted) (w : TwoDevices) (side : Direction) : Route :=
  (t side).route (w.mesh side).objects.length

section Both

variable {P : Primitives} {identity : Direction → DeviceIdentityProvider}
  {ed xSecret own : Direction → Bytes} {t : Direction → Sighted} {w : TwoDevices}
  {e : Direction → Event}

/-- What a call on each side does, in either order. -/
theorem run_onBoth (addr : Direction → DeviceId) (chunks : Direction → List Bytes)
    (hwritten : ∀ side, ((w.mesh side).serve P (e side)).written =
      (w.mesh side).written ++ (chunks side).map (Prod.mk (addr side))) (first : Direction) :
    (∀ side, (w.run P addr (onBoth e first)).mesh side = (w.mesh side).serve P (e side)) ∧
      ∀ side, (w.run P addr (onBoth e first)).toward side.opposite =
        w.toward side.opposite ++ chunks side := by
  let w₁ := w.serve P addr first (e first)
  have hrun : w.run P addr (onBoth e first) = w₁.serve P addr first.opposite (e first.opposite) := rfl
  have hmesh : w₁.mesh first.opposite = w.mesh first.opposite := mesh_serve_other first _ _ _
  have hmesh' := mesh_serve_other (P := P) first.opposite (e first.opposite) w₁ addr
  have hsecond := hwritten first.opposite
  rw [← hmesh] at hsecond
  have htoward' := toward_serve_other addr hsecond
  rw [opposite_opposite] at hmesh' htoward'
  rw [hrun]
  constructor
  · refine forall_sides first ?_ ?_
    · rw [hmesh']
      exact mesh_serve_self first _ _ _
    · rw [mesh_serve_self, hmesh]
  · refine forall_sides first ?_ ?_
    · rw [toward_serve_self]
      exact toward_serve_other addr (hwritten first)
    · rw [opposite_opposite, htoward']
      exact congrArg (· ++ _) (toward_serve_self first _ _ _)

theorem Strangers.role (h : Strangers P identity own t w) (side : Direction) :
    Mesh.roleFor (own side) (t side).peer.peerId = side := by
  rw [h.peers]
  cases side with
  | initiator => exact (roleFor_eq_initiator_iff h.length).mpr (Or.inl h.lt)
  | responder =>
      cases hrole : Mesh.roleFor (own .responder) (own .initiator) with
      | responder => exact hrole
      | initiator =>
          rcases (roleFor_eq_initiator_iff h.length.symm).mp hrole with hlt | heq
          · exact absurd hlt (List.lt_asymm h.lt)
          · exact absurd (heq ▸ h.lt) (List.lt_irrefl _)

theorem Strangers.wide (h : Strangers P identity own t w) (side : Direction) :
    Wide (routes t w side) :=
  ⟨⟨_, rfl⟩, h.least side⟩

/-- msg-1 is written and cut. -/
theorem Strangers.msg1 (hP : Honest P identity ed xSecret) (h : Strangers P identity own t w) :
    ∃ (hs : NoiseXxHandshake) (f : CutFrame), f.frameType = messageType 0 ∧
      (writeMessage P (t .initiator).hr.writeDraws [] : Co Unit _ _ _).run ()
        (.new P .initiator (identity .initiator)) = (hs, .ok f.payload) ∧
      FirstMessage P (identity .initiator) (clampMtu (t .initiator).connect.getMtu)
        (t .initiator).hr .initiator hs f.chunks := by
  have hstart : Exchanged P (identity .initiator) (identity .responder) 0 _ _ := .start
  obtain ⟨hs, message, hwrite⟩ := hstart.writes hP.gcm hP.dh hP.kem (hP.identity .initiator)
    (hP.identity .responder) (by decide) (t .initiator).hr.writeDraws
  have hsize := hstart.length hP.gcm hP.dh (hP.keyLengths .initiator) (hP.keyLengths .responder)
    hwrite
  obtain ⟨chunks, hchunks⟩ := exists_chunks hsize (h.least .initiator) FrameType.HandshakeMsg1
  exact ⟨hs, ⟨message, _, FrameType.HandshakeMsg1, chunks, ⟨_, rfl⟩, hchunks⟩, rfl, hwrite,
    .initiator (h.sees .initiator).writeRx hwrite hchunks⟩

/-- **Both sightings**, in either order, and msg-1 is on its way. -/
theorem Strangers.meeting (hP : Honest P identity ed xSecret) (h : Strangers P identity own t w)
    (first : Direction) :
    Meeting P identity ed (routes t w)
      (w.run P (addresses t) (onBoth (fun side => (t side).event) first)) := by
  obtain ⟨hs, f, htype, hwrite, hfirst⟩ := h.msg1 hP
  have hown : ∀ side, OwnObjects (w.mesh side) := by
    intro side
    obtain ⟨tofu, now, ms, hreached⟩ := h.reached side
    rw [hreached]
    exact meshRun_ownObjects P tofu now ms
  have hkeyed : ∀ side, (w.mesh side).registry.Keyed := by
    intro side
    obtain ⟨tofu, now, ms, hreached⟩ := h.reached side
    rw [hreached]
    exact meshRun_keyed P tofu now ms
  have hstart : Exchanged P (identity .initiator) (identity .responder) 0 _ _ := .start
  obtain ⟨hsrole, hsidx⟩ := (writeMessage_isMessage _ _).run_ok hwrite
  have hincomplete : hs.isComplete = false := by
    unfold NoiseXxHandshake.isComplete
    rw [beq_eq_false_iff_ne]
    rintro hidx
    rw [hidx] at hsidx
    cases hsidx
  have hinitiator := (h.sees .initiator).serve (P := P) (ed .responder) (hown _) (hkeyed _)
    (by rw [h.role]; exact hfirst) (by rw [h.role]; exact hsrole) hincomplete
  have hresponder := (h.sees .responder).serve (P := P) (ed .initiator) (hown _) (hkeyed _)
    (by rw [h.role]; exact .responder) (by rw [h.role]; exact hstart.turn.2.1)
    (hstart.incomplete (by decide)).2
  let chunks : Direction → List Bytes := Function.update (fun _ => []) .initiator f.chunks
  let handshakes : Direction → NoiseXxHandshake :=
    Function.update (fun _ => .new P .responder (identity .responder)) .initiator hs
  obtain ⟨hmesh, htoward⟩ := run_onBoth (w := w) (e := fun side => (t side).event) (addresses t)
    chunks (by refine forall_sides .initiator hinitiator.2.2 hresponder.2.2) first
  have hway : (w.run P (addresses t) (onBoth (fun side => (t side).event) first)).toward .responder =
      f.chunks := by
    rw [show Direction.responder = Direction.initiator.opposite from rfl, htoward, h.silent]
    rfl
  have hnothing : (w.run P (addresses t) (onBoth (fun side => (t side).event) first)).toward
      .initiator = [] := by
    rw [show Direction.initiator = Direction.responder.opposite from rfl, htoward, h.silent]
    rfl
  suffices honItsWay : OnItsWay P identity ed (routes t w) handshakes 0 f 0 _ from .onItsWay honItsWay
  refine ⟨?_, ?_, htype, ?_, ?_, hnothing, ?_, f.total_pos, ?_⟩
  · decide
  · exact ⟨_, _, .start, hwrite⟩
  · refine forall_sides .initiator ?_ ?_
    · rw [hmesh]
      exact hinitiator.1
    · rw [hmesh]
      exact hresponder.1
  · rw [hmesh]
    exact hinitiator.2.1
  · rw [hmesh]
    exact congrArg (openFrame f.total f.frameType) hresponder.2.1
  · rw [Nat.sub_zero, ← f.chunks_eq_from]
    exact hway

end Both

/-! ## A decision -/

section Decision

variable {P : Primitives} {x : Route} {m : Mesh} {hs : NoiseXxHandshake} {peer : Bytes}
  {s : RatchetSession} {sas : String} {p : PeerIdHex} {ref : ℕ}

/-- The user accepts. -/
theorem serve_acceptPeer (hfind : m.findPeer p = some ref)
    (hpending : (m.object ref).verdict = .pending) :
    ∃ calls flights notified, m.serve P (.acceptPeer p) =
      { m with
        objects := m.objects.set ref { m.object ref with verdict := .accepted }
        notified := notified
        calls := calls
        flights := flights } := by
  rw [serve_eq]
  show ∃ calls flights notified, (m.number.acceptPeer p).land m.calls = _
  unfold Mesh.acceptPeer transitionVerdict
  rw [show m.number.findPeer p = some ref from hfind]
  dsimp only
  rw [show (m.number.object ref).verdict = .pending from hpending]
  exact ⟨_, _, _, rfl⟩

/-- The registry's address is the one that is sent to. -/
theorem Leads.sendTarget (h : Leads x m) (haccepted : (m.object x.ref).verdict = .accepted)
    (hsession : (m.object x.ref).session = some s) :
    m.sendTarget x.peerIdHex = .ok ⟨x.deviceId, x.ref, s⟩ := by
  have hmac := h.registered
  unfold Mesh.registeredMac at hmac
  have hresolve : m.resolveDevice x.peerIdHex = some x.deviceId := by
    unfold Mesh.resolveDevice
    dsimp only
    rw [hmac]
  have htruthy : Mesh.truthy (some x.deviceId) = some x.deviceId := by
    unfold Mesh.truthy at hmac ⊢
    obtain ⟨-, htrue⟩ := Option.filter_eq_some_iff.mp hmac
    exact Option.filter_eq_some_iff.mpr ⟨rfl, htrue⟩
  unfold Mesh.sendTarget
  rw [hresolve, htruthy]
  dsimp only
  rw [h.state]
  dsimp only
  rw [haccepted, hsession]

/-- The user is asked about the peer, with its SAS and its key. -/
def Mesh.Asks (peerIdHex : PeerIdHex) (sas : String) (peer : Bytes) (m : Mesh) : Prop :=
  ∃ keyChanged, ⟨peerIdHex, sas, uint8ToBase64Url peer, keyChanged⟩ ∈ m.getPendingHandshakes

/-- A side that concluded has the session, and asks its user. -/
theorem Shakes.asks (h : Shakes P x hs peer m) (hconcluded : Concluded P hs peer s sas) :
    (m.object x.ref).session = some s ∧ m.Asks x.peerIdHex sas peer := by
  obtain ⟨s', sas', hconcluded', hsession, hsas, hpeer⟩ := h.follows.concluded hconcluded.complete
  have hs : s' = s := hconcluded.session.unique hconcluded'.session
  have hsas' : sas' = sas := by
    have heq := hconcluded'.sas.symm.trans hconcluded.sas
    cases heq
    rfl
  subst hs hsas'
  refine ⟨hsession, (m.object x.ref).keyChanged, ?_⟩
  unfold Mesh.getPendingHandshakes
  refine List.mem_map.mpr ⟨m.object x.ref, List.mem_filter.mpr ⟨?_, ?_⟩, ?_⟩
  · refine List.mem_map.mpr ⟨x.ref, ?_, rfl⟩
    exact List.mem_map.mpr ⟨_, InsMap.get?_eq_some.mp h.leads.state, rfl⟩
  · unfold Mesh.awaitsDecision
    rw [hsas, hpeer, h.follows.verdict]
    rfl
  · rw [hsas, hpeer, h.leads.peerIdHex]
    rfl

/-- What it sends to once its user accepted. -/
theorem Shakes.accepts (h : Shakes P x hs peer m) (hconcluded : Concluded P hs peer s sas) :
    (m.serve P (.acceptPeer x.peerIdHex)).sendTarget x.peerIdHex = .ok ⟨x.deviceId, x.ref, s⟩ ∧
      ((m.serve P (.acceptPeer x.peerIdHex)).object x.ref).peerIdHex = x.peerIdHex ∧
      (m.serve P (.acceptPeer x.peerIdHex)).mtuCache = m.mtuCache ∧
      (m.serve P (.acceptPeer x.peerIdHex)).reassemblers = m.reassemblers ∧
      (m.serve P (.acceptPeer x.peerIdHex)).written = m.written := by
  obtain ⟨calls, flights, notified, hserve⟩ := serve_acceptPeer (P := P) h.leads.found
    h.follows.verdict
  let cs : CryptoState := { m.object x.ref with verdict := .accepted }
  have hobjects : (m.serve P (.acceptPeer x.peerIdHex)).objects = m.objects.set x.ref cs := by
    rw [hserve]
  have hobject := object_of_set_self hobjects h.leads.lt
  have hleads : Leads x (m.serve P (.acceptPeer x.peerIdHex)) := by
    refine h.leads.of_set (show cs.peerIdHex = _ from h.leads.peerIdHex) hobjects
      ?_ ?_ ?_
    · rw [hserve]
    · rw [hserve]
    · rw [hserve]
  refine ⟨hleads.sendTarget ?_ ?_, hleads.peerIdHex, ?_, ?_, ?_⟩
  · rw [hobject]
  · rw [hobject]
    exact (h.asks hconcluded).1
  · rw [hserve]
  · rw [hserve]
  · rw [hserve]

end Decision

/-! ## The end -/

/-- What a side talks to when it has accepted. -/
def Route.contact (x : Route) (opts : RatchetSessionOptions) : Contact :=
  ⟨x.deviceId, x.peerIdHex, x.ref, x.peerIdHex, x.mtu, opts⟩

section End

variable {P : Primitives} {identity : Direction → DeviceIdentityProvider}
  {ed xSecret own : Direction → Bytes} {x : Direction → Route} {t : Direction → Sighted}
  {hs : Direction → NoiseXxHandshake} {w : TwoDevices}

/-- Both sides are introduced by accepting, in either order. -/
theorem Met.introduced (h : Met P identity ed x hs w) (hx : ∀ side, Wide (x side))
    {opts : Direction → RatchetSessionOptions} {session : Direction → RatchetSession}
    {sas : String} (hpaired : Paired P opts session)
    (hconcluded : ∀ side, Concluded P (hs side) (ed side.opposite) (session side) sas)
    (first : Direction) :
    Introduced P (fun side => (x side).contact (opts side)) session
      (w.run P (fun side => (x side).deviceId)
        (onBoth (fun side => .acceptPeer (x side).peerIdHex) first)) := by
  have haccepts := fun side => (h.shakes side).accepts (hconcluded side)
  obtain ⟨hmesh, htoward⟩ := run_onBoth (w := w) (P := P)
    (e := fun side => .acceptPeer (x side).peerIdHex) (fun side => (x side).deviceId) (fun _ => [])
    (fun side => by simpa using (haccepts side).2.2.2.2) first
  constructor
  · exact hpaired
  · intro side
    rw [hmesh]
    exact (haccepts side).1
  · intro side
    rw [hmesh]
    exact (haccepts side).2.1
  · intro side
    rw [hmesh, (haccepts side).2.2.1]
    show ((w.mesh side).mtuCache.get? (x side).deviceId).getD _ = (x side).mtu
    rw [(h.shakes side).leads.mtu]
    rfl
  · exact fun side => (hx side).negotiated
  · intro side
    rw [hmesh, (haccepts side).2.2.2.1]
    exact h.idle side
  · intro side
    rw [← opposite_opposite side, htoward, h.silent]
    rfl

/-- Both sides that met have sessions of one pair. -/
theorem Met.concluded (hP : Honest P identity ed xSecret) (h : Met P identity ed x hs w) :
    ∃ opts session sas, Paired P opts session ∧
      ∀ side, Concluded P (hs side) (ed side.opposite) (session side) sas := by
  obtain ⟨opts, session, sas, hpaired, hinitiator, hresponder⟩ := h.exchanged.concluded hP.gcm hP.dh
    hP.kem hP.kdf hP.sha (hP.identity .initiator) (hP.identity .responder)
  refine ⟨opts, session, sas, hpaired, ?_⟩
  refine forall_sides .initiator ?_ ?_
  · exact hinitiator
  · exact hresponder

/-- **First contact.** Two devices that have not met sight each other, in either order, and
connect. However the arrivals of the chunks of both sides alternate, some further ones leave
nothing on its way; and whenever nothing is, both sides have sessions of one pair, ask their
users about the other with one SAS and with its Ed25519 key, and once both users accept, in
either order, the conversation may begin. -/
theorem first_contact (hP : Honest P identity ed xSecret) (h : Strangers P identity own t w)
    (first : Direction) (turns : List Turn) (hturns : ∀ t ∈ turns, Arrival t) :
    let w' := w.run P (addresses t) (onBoth (fun side => (t side).event) first ++ turns)
    (∀ side, Reached P (w'.mesh side)) ∧
    (∀ id hr, (∀ i, hr.writeRx i = .ok ()) → ∃ sides, ∀ side,
      (w'.run P (addresses t) (arrivals id hr sides)).toward side = []) ∧
    ((∀ side, w'.toward side = []) → ∃ opts session sas, Paired P opts session ∧
      ∀ side, (w'.mesh side).Asks (hex (own side.opposite)) sas (ed side.opposite) ∧
        ((w'.mesh side).object (routes t w side).ref).session = some (session side) ∧
        Introduced P (fun side => (routes t w side).contact (opts side)) session
          (w'.run P (addresses t)
            (onBoth (fun side => .acceptPeer (hex (own side.opposite))) side))) := by
  intro w'
  have hmeeting : Meeting P identity ed (routes t w) w' := by
    show Meeting P identity ed (routes t w) (w.run P (addresses t) (_ ++ turns))
    rw [run_append]
    exact (h.meeting hP first).run hP h.wide turns hturns
  refine ⟨run_reached h.reached _, ?_, ?_⟩
  · intro id hr hwriteRx
    obtain ⟨sides, hs, hmet⟩ := hmeeting.concludes hP h.wide id hwriteRx
    exact ⟨sides, hmet.silent⟩
  · intro hsilent
    obtain ⟨hs, hmet⟩ := hmeeting.of_silent hsilent
    obtain ⟨opts, session, sas, hpaired, hconcluded⟩ := hmet.concluded hP
    have hpeer : ∀ side, (routes t w side).peerIdHex = hex (own side.opposite) :=
      fun side => congrArg hex (h.peers side)
    refine ⟨opts, session, sas, hpaired, fun side => ?_⟩
    obtain ⟨hsession, hasks⟩ := (hmet.shakes side).asks (hconcluded side)
    rw [hpeer] at hasks
    refine ⟨hasks, hsession, ?_⟩
    have hintroduced := hmet.introduced h.wide hpaired hconcluded side
    simp only [hpeer] at hintroduced
    exact hintroduced

end End

/-! ### Two sample devices -/

/-- The bytes of a side's id, keys and coins. -/
def sampleByte : Direction → UInt8
  | .initiator => 1
  | .responder => 2

def sampleOwn (side : Direction) : Bytes := List.replicate 8 (sampleByte side)

def sampleEd (side : Direction) : Bytes := List.replicate 32 (sampleByte side)

def sampleIdentities (side : Direction) : DeviceIdentityProvider :=
  .ofKeys .sample (sampleEd side) (sampleEd side)

/-- Each sees the other at the same address. -/
def sampleSighted (side : Direction) : Sighted where
  peer := ⟨"A", -50, sampleOwn side.opposite⟩
  connect := sampleConnect
  id :=
    { publicKey := .ok (sampleEd side)
      x25519PublicKey := .ok (Primitives.sample.x25519PublicKey (sampleEd side))
      dhX25519 := getSharedSecret .sample (sampleEd side) }
  hr := sampleReplies

def sampleStarts (side : Direction) : List (Move Event Unit) :=
  alone 0 (.startMesh { sampleStart with peerId := sampleOwn side }) 12

/-- Both have started. -/
def sampleDevices : TwoDevices where
  mesh := fun side => (meshRun .sample (.initial .empty 0) (sampleStarts side)).shared
  toward := fun _ => []

theorem sampleIdentities_honest : Honest .sample sampleIdentities sampleEd sampleEd where
  gcm := sample_aesGcmLaws
  dh := sample_x25519Laws
  kem := sample_mlKemLaws
  kdf := sample_hkdfLaws
  sha := sample_sha256_length
  identity := fun _ => DeviceIdentityProvider.ofKeys_laws .sample List.length_replicate
    List.length_replicate

theorem sampleDevices_sees (side : Direction) :
    Sees (sampleIdentities side) (sampleOwn side) (sampleSighted side) (sampleDevices.mesh side) where
  peerId := by cases side <;> decide +kernel
  address := by cases side <;> decide
  connects := by
    constructor
    · cases side <;> decide +kernel
    · cases side <;> decide +kernel
    · cases side <;> decide +kernel
  succeeds := ⟨rfl, rfl, rfl⟩
  identity := by
    have hnone : (sampleDevices.mesh side).localIdentityProvider.isNone = true := by
      cases side <;> decide +kernel
    unfold Mesh.identity
    rw [Option.isNone_iff_eq_none.mp hnone]
    rfl
  writeRx := fun _ => rfl
  stranger := by cases side <;> decide +kernel
  idle := by cases side <;> decide +kernel

theorem sampleDevices_strangers :
    Strangers .sample sampleIdentities sampleOwn sampleSighted sampleDevices where
  reached := by
    intro side
    dsimp only [sampleDevices]
    exact reached_meshRun .sample .empty 0 (sampleStarts side)
  sees := sampleDevices_sees
  peers := fun _ => rfl
  length := rfl
  lt := by decide
  least := by
    intro side
    cases side <;> decide
  silent := fun _ => rfl

/-- The sample devices meet. -/
theorem sample_first_contact : ∃ turns, ∀ side, ∃ sas,
    ((sampleDevices.run .sample (addresses sampleSighted) turns).mesh side).Asks
      (hex (sampleOwn side.opposite)) sas (sampleEd side.opposite) := by
  have hcontact := fun turns hturns => first_contact sampleIdentities_honest sampleDevices_strangers
    .responder turns hturns
  obtain ⟨-, hends, -⟩ := hcontact [] (by simp)
  obtain ⟨sides, hsilent⟩ := hends sampleIdentity sampleReplies fun _ => rfl
  have harrivals : ∀ t ∈ arrivals sampleIdentity sampleReplies sides, Arrival t := by
    intro t ht
    obtain ⟨side, -, rfl⟩ := List.mem_map.mp ht
    exact fun _ => rfl
  obtain ⟨-, -, hmeet⟩ := hcontact _ harrivals
  obtain ⟨_, _, sas, -, hsides⟩ := hmeet (by
    intro side
    rw [run_append]
    rw [List.append_nil] at hsilent
    exact hsilent side)
  exact ⟨_, fun side => ⟨sas, (hsides side).1⟩⟩

/-! ## Frames -/

end Oxpulse.Transport
