import Oxpulse.Crypto.SecureChannel
import Oxpulse.Transport.FrameSizes
import Oxpulse.Transport.Served

/-!
# Two devices

Two meshes and the link between them: what one writes to the other comes in as a chunk,
in order, and none is lost. A device lets each call run to its end before the next one.
Once both have accepted the other, what a side has delivered is at all times the beginning
of what the other side sent (`Introduced.run`), and what is on its way can come in
(`Conversation.drains`).
-/

namespace Oxpulse.Transport

open Oxpulse.Coroutine Oxpulse.Crypto FrameReassembler

/-! ## The link -/

/-- Two devices, and the chunks on the way to each. -/
structure TwoDevices : Type where
  mesh : Direction → Mesh
  toward : Direction → List Bytes

namespace TwoDevices

/-- What happens next: a call on one side, or the arrival of the next chunk. -/
inductive Turn : Type where
  | call (side : Direction) (e : Event)
  | arrives (side : Direction) (id : IdentityReplies) (hr : HandshakeReplies)

/-- The chunks of a log that were written to the device. -/
def writtenTo (d : DeviceId) (log : List (DeviceId × Bytes)) : List Bytes :=
  (log.filter fun entry => entry.1 = d).map Prod.snd

variable (P : Primitives) (addr : Direction → DeviceId)

/-- A side handles an event; what it writes to the other is on its way. -/
def serve (side : Direction) (e : Event) (w : TwoDevices) : TwoDevices where
  mesh := Function.update w.mesh side ((w.mesh side).serve P e)
  toward := Function.update w.toward side.opposite (w.toward side.opposite ++
    writtenTo (addr side) (((w.mesh side).serve P e).written.drop (w.mesh side).written.length))

def turn (w : TwoDevices) : Turn → TwoDevices
  | .call side e => w.serve P addr side e
  | .arrives side id hr =>
      match w.toward side with
      | [] => w
      | chunk :: chunks =>
          { w with toward := Function.update w.toward side chunks }.serve P addr side
            (.chunk (addr side) chunk id hr)

def run (w : TwoDevices) (turns : List Turn) : TwoDevices := turns.foldl (turn P addr) w

end TwoDevices

open TwoDevices

/-- Chunks come in at these sides, in turn. -/
def arrivals (id : IdentityReplies) (hr : HandshakeReplies) (sides : List Direction) : List Turn :=
  sides.map fun side => .arrives side id hr

section Serve

variable {P : Primitives} {addr : Direction → DeviceId} {side : Direction} {w : TwoDevices}

theorem opposite_ne (side : Direction) : side.opposite ≠ side := by
  cases side <;> simp [Direction.opposite]

theorem opposite_opposite (side : Direction) : side.opposite.opposite = side := by
  cases side <;> rfl

theorem eq_or_opposite (side side' : Direction) : side' = side ∨ side' = side.opposite := by
  cases side <;> cases side' <;> simp [Direction.opposite]

theorem run_concat (w : TwoDevices) (turns : List Turn) (t : Turn) :
    w.run P addr (turns ++ [t]) = (w.run P addr turns).turn P addr t := by
  simp [run]

/-- A state of the mesh that some run leads to. -/
def Reached (P : Primitives) (m : Mesh) : Prop :=
  ∃ tofu now ms, m = (meshRun P (.initial tofu now) ms).shared

theorem reached_meshRun (P : Primitives) (tofu : TofuStore) (now : ℕ)
    (ms : List (Move Event Unit)) : Reached P (meshRun P (.initial tofu now) ms).shared :=
  ⟨tofu, now, ms, rfl⟩

/-- Letting a call run to its end is one of the schedules. -/
theorem Reached.serve {m : Mesh} (h : Reached P m) (e : Event) : Reached P (m.serve P e) := by
  obtain ⟨tofu, now, ms, rfl⟩ := h
  obtain ⟨rest, hrest, -⟩ : ∃ rest, ((meshRun P (.initial tofu now) ms).exec (handle P)
      (.start e :: rest)).shared = ((handle P e).run () (meshRun P (.initial tofu now) ms).shared).1 ∧
        _ := Pool.exists_exec_run () _ e
  refine ⟨tofu, now, ms ++ .start e :: rest, ?_⟩
  unfold meshRun at hrest ⊢
  rw [Pool.exec_append, hrest]
  rfl

theorem run_append (w : TwoDevices) (turns turns' : List Turn) :
    w.run P addr (turns ++ turns') = (w.run P addr turns).run P addr turns' :=
  List.foldl_append

theorem writtenTo_map (d : DeviceId) (chunks : List Bytes) :
    writtenTo d (chunks.map (Prod.mk d)) = chunks := by
  unfold writtenTo
  rw [List.filter_eq_self.mpr]
  · simp
  · simp

end Serve

/-! ## The stream of one direction -/

/-- What is sent for these frames, from number zero on. -/
def wires (P : Primitives) (ck : Bytes) (dir : Direction) (frames : List Bytes) : List Bytes :=
  frames.mapIdx fun n frame => sentWire P ck dir n frame []

/-- So many of the frames came out of the reassembler; the chunks left are on the way. -/
def Streaming (P : Primitives) (ck : Bytes) (dir : Direction) (frames : List Bytes)
    (received : ℕ) (r : FrameReassembler) (chunks : List Bytes) : Prop :=
  ∃ (cuts : List CutFrame) (consumed : List Bytes) (emitted : List ReassembledFrame),
    cuts.map CutFrame.frame =
        (wires P ck dir frames).map (ReassembledFrame.mk FrameType.SessionData) ∧
      cuts.flatMap CutFrame.chunks = consumed ++ chunks ∧
        receiveAll .new consumed = (r, emitted) ∧ emitted.length = received

section Streaming

variable {P : Primitives} {ck : Bytes} {dir : Direction} {frames : List Bytes} {received : ℕ}
  {r : FrameReassembler} {chunks : List Bytes}

@[simp] theorem length_wires : (wires P ck dir frames).length = frames.length := by
  simp [wires]

theorem wires_concat (frames : List Bytes) (frame : Bytes) :
    wires P ck dir (frames ++ [frame]) =
      wires P ck dir frames ++ [sentWire P ck dir frames.length frame []] := by
  simp [wires]

theorem streaming_nil : Streaming P ck dir [] 0 .new [] :=
  ⟨[], [], [], rfl, rfl, rfl, rfl⟩

/-- What came out is the beginning of what was sent, and what is on the way completes it. -/
theorem Streaming.emits (h : Streaming P ck dir frames received r chunks) :
    (receiveAll r chunks).1 = .new ∧
      (receiveAll r chunks).2 =
        ((wires P ck dir frames).drop received).map (ReassembledFrame.mk FrameType.SessionData) := by
  obtain ⟨cuts, consumed, emitted, hcuts, hstream, hreceive, rfl⟩ := h
  have hall := CutFrame.receiveAll_flatMap cuts
  rw [hstream, receiveAll_append, hreceive, hcuts] at hall
  obtain ⟨hr, hframes⟩ := Prod.mk.inj hall
  refine ⟨hr, ?_⟩
  rw [List.map_drop, ← hframes]
  simp

theorem Streaming.received_le (h : Streaming P ck dir frames received r chunks) :
    received ≤ frames.length := by
  obtain ⟨cuts, consumed, emitted, hcuts, hstream, hreceive, rfl⟩ := h
  have hall := CutFrame.receiveAll_flatMap cuts
  rw [hstream, receiveAll_append, hreceive, hcuts] at hall
  have hlength := congrArg List.length (Prod.mk.inj hall).2
  simp only [List.length_append, List.length_map, length_wires] at hlength
  omega

/-- A frame more is cut and on its way. -/
theorem Streaming.send (h : Streaming P ck dir frames received r chunks) {frame : Bytes}
    {f : CutFrame} (hf : f.frame =
      ⟨FrameType.SessionData, sentWire P ck dir frames.length frame []⟩) :
    Streaming P ck dir (frames ++ [frame]) received r (chunks ++ f.chunks) := by
  obtain ⟨cuts, consumed, emitted, hcuts, hstream, hreceive, hlength⟩ := h
  refine ⟨cuts ++ [f], consumed, emitted, ?_, ?_, hreceive, hlength⟩
  · rw [wires_concat]
    simp [hcuts, hf]
  · simp [hstream]

/-- The next chunk comes in: it completes the next frame, or none. -/
theorem Streaming.receive {chunk : Bytes}
    (h : Streaming P ck dir frames received r (chunk :: chunks)) :
    ((r.receive chunk).2 = none ∧
        Streaming P ck dir frames received (r.receive chunk).1 chunks) ∨
      ∃ frame, frames[received]? = some frame ∧
        (r.receive chunk).2 =
          some ⟨FrameType.SessionData, sentWire P ck dir received frame []⟩ ∧
        Streaming P ck dir frames (received + 1) (r.receive chunk).1 chunks := by
  have hemits := h.emits.2
  rw [receiveAll] at hemits
  dsimp only at hemits
  obtain ⟨cuts, consumed, emitted, hcuts, hstream, hreceive, hlength⟩ := h
  have hstream' : cuts.flatMap CutFrame.chunks = (consumed ++ [chunk]) ++ chunks := by
    simp [hstream]
  have hreceive' : receiveAll .new (consumed ++ [chunk]) =
      ((r.receive chunk).1, emitted ++ (r.receive chunk).2.toList) := by
    rw [receiveAll_append, hreceive]
    simp [receiveAll]
  cases hframe : (r.receive chunk).2 with
  | none =>
      left
      refine ⟨rfl, cuts, _, _, hcuts, hstream', hreceive', ?_⟩
      rw [hframe]
      simp [hlength]
  | some frame =>
      right
      rw [hframe] at hemits
      have hfirst := congrArg (fun l => l[0]?) hemits
      simp only [Option.toList_some, List.cons_append, List.getElem?_cons_zero, List.getElem?_map,
        List.getElem?_drop, Nat.add_zero] at hfirst
      obtain ⟨wire, hwire, heq⟩ := Option.map_eq_some_iff.mp hfirst.symm
      unfold wires at hwire
      rw [List.getElem?_mapIdx] at hwire
      obtain ⟨plain, hplain, rfl⟩ := Option.map_eq_some_iff.mp hwire
      refine ⟨plain, hplain, by rw [← heq], cuts, _, _, hcuts, hstream', hreceive', ?_⟩
      rw [hframe]
      simp [hlength]

end Streaming

/-! ## One side -/

/-- How a side knows the other: the address and the id it sends to, the object and the id
that deliveries carry, and what the session was built with. -/
structure Contact : Type where
  deviceId : DeviceId
  peerIdHex : PeerIdHex
  ref : ℕ
  deliveredAs : PeerIdHex
  mtu : ℕ
  opts : RatchetSessionOptions

/-- A side that has accepted the other, after so many frames in both directions. -/
structure Talks (P : Primitives) (x : Contact) (sent received : ℕ) (m : Mesh) : Prop where
  session : ∃ s, m.sendTarget x.peerIdHex = .ok ⟨x.deviceId, x.ref, s⟩ ∧
    Duplex P x.opts sent received s
  deliveredAs : (m.object x.ref).peerIdHex = x.deliveredAs
  mtu : (m.mtuCache.get? x.deviceId).getD GATT_MTU_DEFAULT = x.mtu

section Side

variable {P : Primitives} {x : Contact} {sent received : ℕ} {m m' : Mesh} {p : PeerIdHex}
  {d : DeviceId} {ref : ℕ} {s s' : RatchetSession}

/-- The next call finds the session as the last one left it. -/
theorem sendTarget_setSession (h : m.sendTarget p = .ok ⟨d, ref, s⟩)
    (hobjects : m'.objects = m.objects.set ref { m.object ref with session := some s' })
    (hregistry : m'.registry = m.registry) (hstates : m'.cryptoStates = m.cryptoStates)
    (hdevices : m'.connectedDevices = m.connectedDevices) :
    m'.sendTarget p = .ok ⟨d, ref, s'⟩ := by
  obtain ⟨hget, husable⟩ := sendTarget_usable h
  have hself := object_of_set_self hobjects husable.lt
  have hids : ∀ i, (m'.object i).peerIdHex = (m.object i).peerIdHex := by
    intro i
    by_cases hi : ref = i
    · subst hi
      rw [hself]
    · rw [object_of_set_ne hobjects hi]
  have hresolve : m'.resolveDevice p = m.resolveDevice p := by
    unfold Mesh.resolveDevice
    simp only [hregistry, hstates, hdevices, hids]
  unfold Mesh.sendTarget
  rw [hresolve, sendTarget_device h, hstates]
  dsimp only
  rw [hget]
  dsimp only
  rw [hself]
  dsimp only
  rw [husable.verdict]

theorem Talks.of_session (h : Talks P x sent received m) {sent' received' : ℕ}
    (hs' : Duplex P x.opts sent' received' s')
    (hobjects : m'.objects = m.objects.set x.ref { m.object x.ref with session := some s' })
    (hregistry : m'.registry = m.registry) (hstates : m'.cryptoStates = m.cryptoStates)
    (hdevices : m'.connectedDevices = m.connectedDevices) (hmtu : m'.mtuCache = m.mtuCache) :
    Talks P x sent' received' m' := by
  obtain ⟨s, htarget, -⟩ := h.session
  refine ⟨⟨s', sendTarget_setSession htarget hobjects hregistry hstates hdevices, hs'⟩, ?_, ?_⟩
  · rw [object_of_set_self hobjects (sendTarget_usable htarget).2.lt]
    exact h.deliveredAs
  · rw [hmtu]
    exact h.mtu

/-- A frame that fits is on its way. -/
theorem Talks.send (hgcm : AesGcmLaws P) (h : Talks P x sent received m) {frame : Bytes}
    {writeRx : ℕ → Except JsError Unit} (hwrite : ∀ i, writeRx i = .ok ())
    (hmtu : ∃ getMtu, x.mtu = clampMtu getMtu) (hfits : leastMtu (frame.length + 24) ≤ x.mtu) :
    Talks P x (sent + 1) received (m.serve P (.sendFrame x.peerIdHex frame writeRx)) ∧
      (m.serve P (.sendFrame x.peerIdHex frame writeRx)).reassemblers = m.reassemblers ∧
      (m.serve P (.sendFrame x.peerIdHex frame writeRx)).delivered = m.delivered ∧
      ∃ f : CutFrame, f.frame = ⟨FrameType.SessionData,
          sentWire P x.opts.sendChainKey x.opts.direction sent frame []⟩ ∧
        (m.serve P (.sendFrame x.peerIdHex frame writeRx)).written =
          m.written ++ f.chunks.map (Prod.mk x.deviceId) := by
  obtain ⟨s, htarget, hs⟩ := h.session
  obtain ⟨s', hrun, hs'⟩ := hs.encrypt frame []
  have hlength : (sentWire P x.opts.sendChainKey x.opts.direction sent frame []).length =
      frame.length + 24 := by
    rw [sentWire, List.length_append, setBigUint64_length, hgcm.seal_length]
    omega
  obtain ⟨getMtu, hclamp⟩ := hmtu
  have hle : x.mtu ≤ 247 := hclamp ▸ clampMtu_le getMtu
  have hcut : ∃ chunks, chunkFrame (sentWire P x.opts.sendChainKey x.opts.direction sent frame [])
      x.mtu FrameType.SessionData = .ok chunks := by
    have hheader : FRAME_HEADER_LEN = 4 := rfl
    have hmax : MAX_FRAME_SIZE = 65536 := rfl
    apply (chunkFrame_fits_iff ?_ ?_).mpr
    · rw [hlength]
      exact hfits
    · omega
    · unfold leastMtu at hfits
      omega
  obtain ⟨chunks, hchunks⟩ := hcut
  obtain ⟨calls, flights, sentLog, hserve⟩ := serve_send (m := m) hwrite htarget hrun
    (by rw [h.mtu]; exact hchunks)
  rw [hserve]
  refine ⟨h.of_session hs' rfl rfl rfl rfl rfl, rfl, rfl, ?_⟩
  exact ⟨⟨_, x.mtu, FrameType.SessionData, chunks, ⟨getMtu, hclamp⟩, hchunks⟩, rfl, rfl⟩

/-- A chunk that does not complete its frame. -/
theorem Talks.partial_chunk (h : Talks P x sent received m) {chunk : Bytes} (id : IdentityReplies)
    (hr : HandshakeReplies) (hframe : (m.reassemble x.deviceId chunk).2 = none) :
    Talks P x sent received (m.serve P (.chunk x.deviceId chunk id hr)) ∧
      (m.serve P (.chunk x.deviceId chunk id hr)).reassemblers =
        m.reassemblers.set x.deviceId (m.reassemble x.deviceId chunk).1 ∧
      (m.serve P (.chunk x.deviceId chunk id hr)).delivered = m.delivered ∧
      (m.serve P (.chunk x.deviceId chunk id hr)).written = m.written := by
  obtain ⟨calls, flights, hserve⟩ := serve_partial (P := P) id hr hframe
  rw [hserve]
  refine ⟨⟨?_, h.deliveredAs, h.mtu⟩, rfl, rfl, rfl⟩
  obtain ⟨s, htarget, hs⟩ := h.session
  exact ⟨s, htarget, hs⟩

/-- A chunk that completes the next frame of the other side. -/
theorem Talks.last_chunk (hgcm : AesGcmLaws P) (h : Talks P x sent received m)
    (hn : received < 2 ^ 64) {chunk frame : Bytes} (id : IdentityReplies) (hr : HandshakeReplies)
    (hframe : (m.reassemble x.deviceId chunk).2 = some ⟨FrameType.SessionData,
      sentWire P x.opts.recvChainKey x.opts.direction.opposite received frame []⟩) :
    Talks P x sent (received + 1) (m.serve P (.chunk x.deviceId chunk id hr)) ∧
      (m.serve P (.chunk x.deviceId chunk id hr)).reassemblers =
        m.reassemblers.set x.deviceId (m.reassemble x.deviceId chunk).1 ∧
      (m.serve P (.chunk x.deviceId chunk id hr)).delivered =
        m.delivered ++ [⟨x.deliveredAs, x.ref, frame⟩] ∧
      (m.serve P (.chunk x.deviceId chunk id hr)).written = m.written := by
  obtain ⟨s, htarget, hs⟩ := h.session
  obtain ⟨hget, husable⟩ := sendTarget_usable htarget
  obtain ⟨s', hrun, hs'⟩ := hs.decrypt hgcm hn frame []
  obtain ⟨calls, flights, hserve⟩ := serve_data id hr hframe hget husable.lt husable.verdict
    (sendTarget_session htarget) hrun
  rw [hserve]
  refine ⟨h.of_session hs' rfl rfl rfl rfl rfl, rfl, ?_, rfl⟩
  rw [h.deliveredAs]

end Side

/-! ## Both sides -/

section Run

variable {P : Primitives} {x : Direction → Contact} {frames : Direction → List Bytes}
  {received : Direction → ℕ} {logs : Direction → List Delivery} {w : TwoDevices}

/-- Both sides have accepted the other, and sent these frames; of those that came in, so
many were delivered. -/
structure Conversation (P : Primitives) (x : Direction → Contact)
    (frames : Direction → List Bytes) (received : Direction → ℕ)
    (logs : Direction → List Delivery) (w : TwoDevices) : Prop where
  talks : ∀ side, Talks P (x side) (frames side).length (received side) (w.mesh side)
  stream : ∀ side, Streaming P (x side).opts.recvChainKey (x side).opts.direction.opposite
    (frames side.opposite) (received side)
      (((w.mesh side).reassemblers.get? (x side).deviceId).getD .new) (w.toward side)
  delivered : ∀ side, (w.mesh side).delivered = logs side ++
    ((frames side.opposite).take (received side)).map
      (Delivery.mk (x side).deliveredAs (x side).ref)

/-- The sessions are a pair, and the MTUs were negotiated. -/
structure Matched (x : Direction → Contact) : Prop where
  direction : ∀ side, (x side).opts.direction = side
  crossed : ∀ side, (x side).opts.recvChainKey = (x side.opposite).opts.sendChainKey
  mtu : ∀ side, ∃ getMtu, (x side).mtu = clampMtu getMtu

theorem mesh_serve_self (side : Direction) (e : Event) (w : TwoDevices)
    (addr : Direction → DeviceId) :
    (w.serve P addr side e).mesh side = (w.mesh side).serve P e :=
  Function.update_self side _ w.mesh

theorem mesh_serve_other (side : Direction) (e : Event) (w : TwoDevices)
    (addr : Direction → DeviceId) :
    (w.serve P addr side e).mesh side.opposite = w.mesh side.opposite :=
  Function.update_of_ne (opposite_ne side) _ w.mesh

theorem toward_serve_self (side : Direction) (e : Event) (w : TwoDevices)
    (addr : Direction → DeviceId) : (w.serve P addr side e).toward side = w.toward side :=
  Function.update_of_ne (opposite_ne side).symm _ w.toward

/-- What the call wrote to the other side is on the way there. -/
theorem toward_serve_other {side : Direction} {e : Event} {w : TwoDevices}
    (addr : Direction → DeviceId) {chunks : List Bytes}
    (h : ((w.mesh side).serve P e).written =
      (w.mesh side).written ++ chunks.map (Prod.mk (addr side))) :
    (w.serve P addr side e).toward side.opposite = w.toward side.opposite ++ chunks := by
  unfold TwoDevices.serve
  dsimp only
  rw [Function.update_self, h, List.drop_left, writtenTo_map]

/-- **The next chunk comes in**, and what the side writes is on its way back. -/
theorem turn_arrives {side : Direction} {id : IdentityReplies} {hr : HandshakeReplies}
    {w : TwoDevices} (addr : Direction → DeviceId) {chunk : Bytes} {chunks : List Bytes}
    (reply : List Bytes) (h : w.toward side = chunk :: chunks)
    (hwritten : ((w.mesh side).serve P (.chunk (addr side) chunk id hr)).written =
      (w.mesh side).written ++ reply.map (Prod.mk (addr side))) :
    (w.turn P addr (.arrives side id hr)).mesh side =
        (w.mesh side).serve P (.chunk (addr side) chunk id hr) ∧
      (w.turn P addr (.arrives side id hr)).mesh side.opposite = w.mesh side.opposite ∧
      (w.turn P addr (.arrives side id hr)).toward side = chunks ∧
      (w.turn P addr (.arrives side id hr)).toward side.opposite =
        w.toward side.opposite ++ reply := by
  unfold TwoDevices.turn
  simp only [h]
  refine ⟨mesh_serve_self side _ _ addr, mesh_serve_other side _ _ addr, ?_, ?_⟩
  · rw [toward_serve_self]
    exact Function.update_self side chunks w.toward
  · rw [toward_serve_other (w := { w with toward := Function.update w.toward side chunks }) addr
      hwritten]
    exact congrArg (· ++ reply) (Function.update_of_ne (opposite_ne side) chunks w.toward)

/-- Where nothing is on its way, nothing comes in. -/
theorem turn_arrives_nil {side : Direction} {w : TwoDevices} {addr : Direction → DeviceId}
    (h : w.toward side = []) (id : IdentityReplies) (hr : HandshakeReplies) :
    w.turn P addr (.arrives side id hr) = w := by
  unfold TwoDevices.turn
  simp only [h]

/-- **The states of each side** in a run of both are states of runs of its mesh. -/
theorem run_reached {addr : Direction → DeviceId} (h : ∀ side, Reached P (w.mesh side))
    (turns : List Turn) : ∀ side, Reached P ((w.run P addr turns).mesh side) := by
  have hserve : ∀ (w : TwoDevices) (side : Direction) (e : Event),
      (∀ side, Reached P (w.mesh side)) → ∀ side', Reached P ((w.serve P addr side e).mesh side') := by
    intro w side e hw side'
    rcases eq_or_opposite side side' with rfl | rfl
    · rw [mesh_serve_self]
      exact (hw _).serve e
    · rw [mesh_serve_other]
      exact hw _
  induction turns using List.reverseRecOn with
  | nil => exact h
  | append_singleton turns t ih =>
      rw [run_concat]
      cases t with
      | call side e => exact hserve _ side e ih
      | arrives side id hr =>
          cases htoward : (w.run P addr turns).toward side with
          | nil =>
              unfold TwoDevices.turn
              simp only [htoward]
              exact ih
          | cons chunk chunks =>
              unfold TwoDevices.turn
              simp only [htoward]
              exact hserve _ side _ ih

theorem forall_sides {C : Direction → Prop} (side : Direction) (hself : C side)
    (hother : C side.opposite) (side' : Direction) : C side' := by
  rcases eq_or_opposite side side' with rfl | rfl
  · exact hself
  · exact hother

/-- **A frame is sent.** -/
theorem Conversation.send (hgcm : AesGcmLaws P) (hx : Matched x)
    (h : Conversation P x frames received logs w) (side : Direction) {frame : Bytes}
    {writeRx : ℕ → Except JsError Unit} (hwrite : ∀ i, writeRx i = .ok ())
    (hfits : leastMtu (frame.length + 24) ≤ (x side).mtu) :
    Conversation P x (Function.update frames side (frames side ++ [frame])) received logs
      (w.serve P (fun side => (x side).deviceId) side
        (.sendFrame (x side).peerIdHex frame writeRx)) := by
  obtain ⟨htalks, hreassemblers, hdelivered, f, hf, hwritten⟩ :=
    (h.talks side).send hgcm hwrite (hx.mtu side) hfits
  have htoward := toward_serve_other (fun side => (x side).deviceId) hwritten
  have hne := opposite_ne side
  have hself : (Function.update frames side (frames side ++ [frame])) side = frames side ++ [frame] :=
    Function.update_self side _ frames
  have hother : (Function.update frames side (frames side ++ [frame])) side.opposite =
      frames side.opposite := Function.update_of_ne hne _ frames
  refine ⟨forall_sides side ?_ ?_, forall_sides side ?_ ?_, forall_sides side ?_ ?_⟩
  · rw [mesh_serve_self, hself, List.length_append]
    exact htalks
  · rw [mesh_serve_other, hother]
    exact h.talks side.opposite
  · rw [mesh_serve_self, toward_serve_self, hother, hreassemblers]
    exact h.stream side
  · -- The frame is on its way to the other side.
    rw [mesh_serve_other, htoward, opposite_opposite, hself]
    have hstream := h.stream side.opposite
    rw [opposite_opposite] at hstream
    apply hstream.send
    rw [hf, hx.crossed, hx.direction, hx.direction, opposite_opposite]
  · rw [mesh_serve_self, hother, hdelivered]
    exact h.delivered side
  · have hlog := h.delivered side.opposite
    have hle := (h.stream side.opposite).received_le
    rw [opposite_opposite] at hlog hle
    rw [mesh_serve_other, opposite_opposite, hself, List.take_append_of_le_length hle]
    exact hlog

/-- What a chunk does to both sides, from what it does to the mesh it comes to. -/
theorem Conversation.of_chunk (h : Conversation P x frames received logs w) {side : Direction}
    {chunk : Bytes} {chunks : List Bytes} {id : IdentityReplies} {hr : HandshakeReplies} {n : ℕ}
    (htoward : w.toward side = chunk :: chunks)
    (htalks : Talks P (x side) (frames side).length n
      ((w.mesh side).serve P (.chunk (x side).deviceId chunk id hr)))
    (hreassemblers : ((w.mesh side).serve P (.chunk (x side).deviceId chunk id hr)).reassemblers =
      (w.mesh side).reassemblers.set (x side).deviceId
        ((w.mesh side).reassemble (x side).deviceId chunk).1)
    (hwritten : ((w.mesh side).serve P (.chunk (x side).deviceId chunk id hr)).written =
      (w.mesh side).written)
    (hstream : Streaming P (x side).opts.recvChainKey (x side).opts.direction.opposite
      (frames side.opposite) n ((w.mesh side).reassemble (x side).deviceId chunk).1 chunks)
    (hdelivered : ((w.mesh side).serve P (.chunk (x side).deviceId chunk id hr)).delivered =
      logs side ++ ((frames side.opposite).take n).map
        (Delivery.mk (x side).deliveredAs (x side).ref)) :
    Conversation P x frames (Function.update received side n) logs
        (w.turn P (fun side => (x side).deviceId) (.arrives side id hr)) ∧
      (w.turn P (fun side => (x side).deviceId) (.arrives side id hr)).toward =
        Function.update w.toward side chunks := by
  have hself : (Function.update received side n) side = n := Function.update_self side _ received
  have hother : (Function.update received side n) side.opposite = received side.opposite :=
    Function.update_of_ne (opposite_ne side) _ received
  -- Nothing is written back.
  obtain ⟨hmesh, hmesh', htoward, htoward'⟩ := turn_arrives (fun side => (x side).deviceId) []
    htoward (by simpa using hwritten)
  rw [List.append_nil] at htoward'
  constructor
  swap
  · funext side'
    revert side'
    refine forall_sides side ?_ ?_
    · rw [htoward, Function.update_self]
    · rw [htoward', Function.update_of_ne (opposite_ne side)]
  refine ⟨forall_sides side ?_ ?_, forall_sides side ?_ ?_, forall_sides side ?_ ?_⟩
  · rw [hmesh, hself]
    exact htalks
  · rw [hmesh', hother]
    exact h.talks side.opposite
  · rw [hmesh, htoward, hself, hreassemblers, InsMap.get?_set_self]
    exact hstream
  · rw [hmesh', htoward', hother]
    exact h.stream side.opposite
  · rw [hmesh, hself]
    exact hdelivered
  · rw [hmesh', hother]
    exact h.delivered side.opposite

/-- **The next chunk comes in.** -/
theorem Conversation.arrives (hgcm : AesGcmLaws P)
    (h : Conversation P x frames received logs w) (side : Direction) (id : IdentityReplies)
    (hr : HandshakeReplies) (hcount : (frames side.opposite).length ≤ 2 ^ 64) :
    ∃ received', Conversation P x frames received' logs
        (w.turn P (fun side => (x side).deviceId) (.arrives side id hr)) ∧
      (w.turn P (fun side => (x side).deviceId) (.arrives side id hr)).toward =
        Function.update w.toward side (w.toward side).tail := by
  cases htoward : w.toward side with
  | nil =>
      rw [turn_arrives_nil htoward, List.tail_nil, ← htoward, Function.update_eq_self]
      exact ⟨received, h, rfl⟩
  | cons chunk chunks =>
      have hstream := h.stream side
      rw [htoward] at hstream
      have hlog := h.delivered side
      rcases hstream.receive with ⟨hnone, hrest⟩ | ⟨frame, hframe, hsome, hrest⟩
      · obtain ⟨htalks, hreassemblers, hdelivered, hwritten⟩ :=
          (h.talks side).partial_chunk id hr hnone
        refine ⟨_, h.of_chunk htoward htalks hreassemblers hwritten hrest ?_⟩
        rw [hdelivered]
        exact hlog
      · have hlt := (List.getElem?_eq_some_iff.mp hframe).1
        obtain ⟨htalks, hreassemblers, hdelivered, hwritten⟩ :=
          (h.talks side).last_chunk hgcm (hlt.trans_le hcount) id hr hsome
        refine ⟨_, h.of_chunk htoward htalks hreassemblers hwritten hrest ?_⟩
        rw [hdelivered, hlog, List.append_assoc, List.take_add_one, hframe]
        simp

/-- The frames that a side is told to send. -/
def sentFrames (side : Direction) (turns : List Turn) : List Bytes :=
  turns.filterMap fun
    | .call side' (.sendFrame _ frame _) => if side' = side then some frame else none
    | _ => none

/-- A frame for the other side that fits the MTU, with writes that succeed; or an arrival. -/
def Talk (x : Direction → Contact) : Turn → Prop
  | .call side (.sendFrame p frame writeRx) => p = (x side).peerIdHex ∧
      (∀ i, writeRx i = .ok ()) ∧ leastMtu (frame.length + 24) ≤ (x side).mtu
  | .call _ _ => False
  | .arrives _ _ _ => True

/-- Both sides have a session of a pair and have accepted the other; nothing is on its way. -/
structure Introduced (P : Primitives) (x : Direction → Contact)
    (session : Direction → RatchetSession) (w : TwoDevices) : Prop where
  paired : Paired P (fun side => (x side).opts) session
  target : ∀ side, (w.mesh side).sendTarget (x side).peerIdHex =
    .ok ⟨(x side).deviceId, (x side).ref, session side⟩
  deliveredAs : ∀ side, ((w.mesh side).object (x side).ref).peerIdHex = (x side).deliveredAs
  mtu : ∀ side, ((w.mesh side).mtuCache.get? (x side).deviceId).getD GATT_MTU_DEFAULT = (x side).mtu
  negotiated : ∀ side, ∃ getMtu, (x side).mtu = clampMtu getMtu
  idle : ∀ side, ((w.mesh side).reassemblers.get? (x side).deviceId).getD .new = .new
  silent : ∀ side, w.toward side = []

theorem Introduced.matched {session : Direction → RatchetSession} (h : Introduced P x session w) :
    Matched x :=
  ⟨h.paired.direction, h.paired.crossed, h.negotiated⟩

theorem Introduced.conversation {session : Direction → RatchetSession}
    (h : Introduced P x session w) :
    Conversation P x (fun _ => []) (fun _ => 0) (fun side => (w.mesh side).delivered) w where
  talks := fun side => ⟨⟨session side, h.target side, Duplex.new (h.paired.built side)⟩,
    h.deliveredAs side, h.mtu side⟩
  stream := by
    intro side
    rw [h.idle, h.silent]
    exact streaming_nil
  delivered := by simp

theorem sentFrames_concat (side : Direction) (turns : List Turn) (t : Turn) :
    sentFrames side (turns ++ [t]) = sentFrames side turns ++ sentFrames side [t] :=
  List.filterMap_append

/-- **The run of a conversation.** -/
theorem Introduced.run (hgcm : AesGcmLaws P) {session : Direction → RatchetSession}
    (h : Introduced P x session w) (turns : List Turn) (hturns : ∀ t ∈ turns, Talk x t)
    (hcount : ∀ side, (sentFrames side turns).length ≤ 2 ^ 64) :
    ∃ received, Conversation P x (fun side => sentFrames side turns) received
      (fun side => (w.mesh side).delivered) (w.run P (fun side => (x side).deviceId) turns) := by
  induction turns using List.reverseRecOn with
  | nil => exact ⟨_, h.conversation⟩
  | append_singleton turns t ih =>
      have hle : ∀ side, (sentFrames side turns).length ≤ 2 ^ 64 := by
        intro side
        have hside := hcount side
        rw [sentFrames_concat, List.length_append] at hside
        omega
      obtain ⟨received, hrun⟩ := ih (fun t ht => hturns t (List.mem_append_left _ ht)) hle
      have htalk := hturns t (by simp)
      rw [run_concat]
      cases t with
      | arrives side id hr =>
          have hsame : ∀ side', sentFrames side' (turns ++ [.arrives side id hr]) =
              sentFrames side' turns := by
            intro side'
            rw [sentFrames_concat]
            exact List.append_nil _
          simp only [hsame]
          obtain ⟨received', harrived, -⟩ := hrun.arrives hgcm side id hr (hle side.opposite)
          exact ⟨received', harrived⟩
      | call side e =>
          cases e with
          | sendFrame p frame writeRx =>
              obtain ⟨rfl, hwrite, hfits⟩ := htalk
              have hframes : (fun side' => sentFrames side' (turns ++
                  [.call side (.sendFrame (x side).peerIdHex frame writeRx)])) =
                  Function.update (fun side' => sentFrames side' turns) side
                    (sentFrames side turns ++ [frame]) := by
                funext side'
                rw [sentFrames_concat]
                by_cases hside : side' = side
                · subst hside
                  simp [sentFrames]
                · rw [Function.update_of_ne hside]
                  simp [sentFrames, Ne.symm hside]
              rw [hframes]
              exact ⟨received, hrun.send hgcm h.matched side hwrite hfits⟩
          | _ => exact htalk.elim

/-- What is on its way to one side comes in. -/
theorem Conversation.drains_side (hgcm : AesGcmLaws P) (side : Direction) (id : IdentityReplies)
    (hr : HandshakeReplies) (hcount : ∀ side, (frames side).length ≤ 2 ^ 64)
    (h : Conversation P x frames received logs w) :
    ∃ sides received', Conversation P x frames received' logs
        (w.run P (fun side => (x side).deviceId) (arrivals id hr sides)) ∧
      (w.run P (fun side => (x side).deviceId) (arrivals id hr sides)).toward =
        Function.update w.toward side [] := by
  induction htoward : w.toward side generalizing w received with
  | nil =>
      refine ⟨[], received, h, ?_⟩
      rw [← htoward, Function.update_eq_self]
      rfl
  | cons chunk chunks ih =>
      obtain ⟨received', harrived, hrest⟩ := h.arrives hgcm side id hr (hcount side.opposite)
      rw [htoward, List.tail_cons] at hrest
      obtain ⟨sides, received'', hdrained, hsilent⟩ := ih harrived (by
        rw [hrest, Function.update_self])
      refine ⟨side :: sides, received'', hdrained, ?_⟩
      rw [hrest, Function.update_idem] at hsilent
      exact hsilent

/-- All that is on its way comes in. -/
theorem Conversation.drains (hgcm : AesGcmLaws P) (id : IdentityReplies) (hr : HandshakeReplies)
    (hcount : ∀ side, (frames side).length ≤ 2 ^ 64)
    (h : Conversation P x frames received logs w) :
    ∃ sides received', Conversation P x frames received' logs
        (w.run P (fun side => (x side).deviceId) (arrivals id hr sides)) ∧
      ∀ side, (w.run P (fun side => (x side).deviceId) (arrivals id hr sides)).toward side = [] := by
  obtain ⟨sides, received', hfirst, htoward⟩ := h.drains_side hgcm .initiator id hr hcount
  obtain ⟨sides', received'', hsecond, htoward'⟩ := hfirst.drains_side hgcm .responder id hr hcount
  refine ⟨sides ++ sides', received'', ?_⟩
  unfold arrivals at hsecond htoward htoward' ⊢
  rw [List.map_append, run_append]
  refine ⟨hsecond, ?_⟩
  rw [htoward', htoward]
  refine forall_sides .initiator ?_ ?_
  · rfl
  · rfl

end Run

end Oxpulse.Transport
