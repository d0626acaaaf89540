import Oxpulse.Transport.ServedHandshake
import Oxpulse.Transport.TwoDevices

/-!
# Shaking hands

The chunks of a handshake come in at two devices that have an object for each other.
However the arrivals of both sides alternate, the next message of the exchange is on its
way until the third one is read, and each message is answered once it is complete
(`Meeting.run`); from every such state some further arrivals are enough
(`Meeting.concludes`).
-/

namespace Oxpulse.Transport

open Oxpulse.Coroutine Oxpulse.Crypto FrameReassembler NoiseXxHandshake TwoDevices

/-! ## One side -/

/-- Where a side finds the other one: its address and id, its object, and the MTU. -/
structure Route : Type where
  deviceId : DeviceId
  peerIdHex : PeerIdHex
  ref : ℕ
  mtu : ℕ

/-- The id leads to the address, and both lead to the object. -/
structure Leads (x : Route) (m : Mesh) : Prop where
  registered : m.registeredMac x.peerIdHex = some x.deviceId
  found : m.findPeer x.peerIdHex = some x.ref
  state : m.cryptoStates.get? x.deviceId = some x.ref
  lt : x.ref < m.objects.length
  peerIdHex : (m.object x.ref).peerIdHex = x.peerIdHex
  mtu : m.mtuCache.get? x.deviceId = some x.mtu

/-- The object is pending and has this handshake; once it is complete it has what follows
from it. -/
structure Follows (P : Primitives) (hs : NoiseXxHandshake) (peer : Bytes) (cs : CryptoState) :
    Prop where
  handshake : cs.handshake = hs
  role : cs.role = hs.role
  verdict : cs.verdict = .pending
  concluded : hs.isComplete = true → ∃ s sas, Concluded P hs peer s sas ∧ cs.session = some s ∧
    cs.sas = some sas ∧ cs.peerPubkeyB64 = some (uint8ToBase64Url peer)

section Side

variable {P : Primitives} {x : Route} {m m' : Mesh} {cs : CryptoState} {hs : NoiseXxHandshake}
  {peer : Bytes}

theorem Leads.of_set (h : Leads x m) (hcs : cs.peerIdHex = x.peerIdHex)
    (hobjects : m'.objects = m.objects.set x.ref cs) (hregistry : m'.registry = m.registry)
    (hstates : m'.cryptoStates = m.cryptoStates) (hmtu : m'.mtuCache = m.mtuCache) :
    Leads x m' := by
  have hself := object_of_set_self hobjects h.lt
  have hids : ∀ i, (m'.object i).peerIdHex = (m.object i).peerIdHex := by
    intro i
    by_cases hi : x.ref = i
    · subst hi
      rw [hself, hcs, h.peerIdHex]
    · rw [object_of_set_ne hobjects hi]
  constructor
  · unfold Mesh.registeredMac
    rw [hregistry]
    exact h.registered
  · unfold Mesh.findPeer
    simp only [hstates, hids]
    exact h.found
  · rw [hstates]
    exact h.state
  · rw [hobjects, List.length_set]
    exact h.lt
  · rw [hself]
    exact hcs
  · rw [hmtu]
    exact h.mtu

/-- What only touches the rest of the mesh. -/
theorem Leads.of_same (h : Leads x m) (hobjects : m'.objects = m.objects)
    (hregistry : m'.registry = m.registry) (hstates : m'.cryptoStates = m.cryptoStates)
    (hmtu : m'.mtuCache = m.mtuCache) : Leads x m' := by
  have hset : m'.objects = m.objects.set x.ref (m.object x.ref) := by
    rw [hobjects]
    unfold Mesh.object
    rw [List.getD_eq_getElem _ _ h.lt, List.set_getElem_self]
  exact h.of_set h.peerIdHex hset hregistry hstates hmtu

/-- The end of a handshake call: what follows from a complete handshake is set. -/
theorem run_completeHandshake (peer : Bytes) {v : HandshakeView} (hrole : v.cs.role = v.cs.handshake.role)
    (hverdict : v.cs.verdict = .pending)
    (hdone : v.cs.handshake.isComplete = true → ∃ s sas, Concluded P v.cs.handshake peer s sas) :
    ∃ v', (completeHandshake P).run () v = (v', .ok ()) ∧
      Follows P v.cs.handshake peer v'.cs ∧ v'.cs.peerIdHex = v.cs.peerIdHex ∧
      v'.written = v.written := by
  cases hcomplete : v.cs.handshake.isComplete with
  | false =>
      refine ⟨v, run_completeHandshake_incomplete hcomplete, ⟨rfl, hrole, hverdict, ?_⟩, rfl, rfl⟩
      intro h
      rw [hcomplete] at h
      cases h
  | true =>
      obtain ⟨s, sas, hconcluded⟩ := hdone hcomplete
      refine ⟨_, run_completeHandshake_concluded hconcluded hrole, ?_⟩
      have hpeer : v.cs.handshake.peerStaticPublicKey = some peer := hconcluded.peer
      unfold HandshakeView.established HandshakeView.checkPeerKey HandshakeView.setSession
      dsimp only
      rw [hpeer]
      exact ⟨⟨rfl, hrole, hverdict, fun _ => ⟨s, sas, hconcluded, rfl, rfl, rfl⟩⟩, rfl, rfl⟩

end Side

/-- A side whose handshake got this far. -/
structure Shakes (P : Primitives) (x : Route) (hs : NoiseXxHandshake) (peer : Bytes) (m : Mesh) :
    Prop where
  leads : Leads x m
  follows : Follows P hs peer (m.object x.ref)

section Shakes

variable {P : Primitives} {x : Route} {m : Mesh} {hs hs' : NoiseXxHandshake} {peer chunk : Bytes}
  {hr : HandshakeReplies} {frame : ReassembledFrame}

/-- A chunk that does not complete its frame. -/
theorem Shakes.partial_chunk (h : Shakes P x hs peer m) (id : IdentityReplies)
    (hr : HandshakeReplies) (hframe : (m.reassemble x.deviceId chunk).2 = none) :
    Shakes P x hs peer (m.serve P (.chunk x.deviceId chunk id hr)) ∧
      (m.serve P (.chunk x.deviceId chunk id hr)).reassemblers =
        m.reassemblers.set x.deviceId (m.reassemble x.deviceId chunk).1 ∧
      (m.serve P (.chunk x.deviceId chunk id hr)).written = m.written := by
  obtain ⟨calls, flights, hserve⟩ := serve_partial (P := P) id hr hframe
  rw [hserve]
  exact ⟨⟨h.leads.of_same rfl rfl rfl rfl, h.follows⟩, rfl, rfl⟩

/-- A chunk that completes a handshake frame, from what the call does before its end. -/
theorem Shakes.of_advance (h : Shakes P x hs peer m) (id : IdentityReplies)
    (hframe : (m.reassemble x.deviceId chunk).2 = some frame)
    (htype : frame.frameType ≠ FrameType.SessionData) {v : HandshakeView}
    (hrun : (advanceHandshake P x.deviceId (handshakeFrame frame hr)).run ()
      (m.view x.ref x.deviceId) = (completeHandshake P).run () v)
    (hv : v.cs = { m.object x.ref with handshake := hs' }) (hrole : hs'.role = hs.role)
    (hdone : hs'.isComplete = true → ∃ s sas, Concluded P hs' peer s sas) :
    Shakes P x hs' peer (m.serve P (.chunk x.deviceId chunk id hr)) ∧
      (m.serve P (.chunk x.deviceId chunk id hr)).reassemblers =
        m.reassemblers.set x.deviceId (m.reassemble x.deviceId chunk).1 ∧
      (m.serve P (.chunk x.deviceId chunk id hr)).written = v.written := by
  have hhs : v.cs.handshake = hs' := by rw [hv]
  obtain ⟨v', hcomplete, hfollows, hpeerIdHex, hwritten⟩ := run_completeHandshake (P := P)
    peer (v := v) (by rw [hv]; exact h.follows.role.trans hrole.symm)
    (by rw [hv]; exact h.follows.verdict) (by rw [hhs]; exact hdone)
  rw [hhs] at hfollows
  have hid : v'.cs.peerIdHex = x.peerIdHex := by
    rw [hpeerIdHex, hv]
    exact h.leads.peerIdHex
  obtain ⟨calls, flights, hserve⟩ := serve_handshake id hframe htype h.leads.state h.leads.lt
    (hrun.trans hcomplete)
  rw [hserve]
  refine ⟨⟨h.leads.of_set hid rfl rfl rfl rfl, ?_⟩, rfl, hwritten⟩
  rw [object_of_set_self (c := v'.cs) rfl h.leads.lt]
  exact hfollows

variable {r' w' : NoiseXxHandshake} {payload message : Bytes} {next : FrameType}

/-- A message of the handshake is cut for such an MTU. -/
theorem exists_chunks (hsize : 0 < message.length ∧ message.length ≤ 1216) {mtu : ℕ}
    (hleast : 80 ≤ mtu) (frameType : FrameType) :
    ∃ chunks, chunkFrame message mtu frameType = .ok chunks := by
  have hmax : MAX_FRAME_SIZE = 65536 := rfl
  have hheader : FRAME_HEADER_LEN = 4 := rfl
  apply (chunkFrame_fits_iff hsize.1 ?_).mpr
  · unfold leastMtu
    omega
  · omega

/-- The frame is read and answered. -/
theorem Shakes.answers (h : Shakes P x hs peer m) (id : IdentityReplies) (hr : HandshakeReplies)
    (hframe : (m.reassemble x.deviceId chunk).2 = some frame)
    (htype : frame.frameType ≠ FrameType.SessionData)
    (hnext : answerType frame.frameType hs.role = some next) (hwriteRx : ∀ i, hr.writeRx i = .ok ())
    (hread : (readMessage P hr.readDraws frame.payload : Co Unit _ _ _).run () hs =
      (r', .ok payload))
    (hwrite : (writeMessage P hr.writeDraws [] : Co Unit _ _ _).run () r' = (w', .ok message))
    (hsize : 0 < message.length ∧ message.length ≤ 1216)
    (hmtu : ∃ getMtu, x.mtu = clampMtu getMtu) (hleast : 80 ≤ x.mtu)
    (hdone : w'.isComplete = true → ∃ s sas, Concluded P w' peer s sas) :
    Shakes P x w' peer (m.serve P (.chunk x.deviceId chunk id hr)) ∧
      (m.serve P (.chunk x.deviceId chunk id hr)).reassemblers =
        m.reassemblers.set x.deviceId (m.reassemble x.deviceId chunk).1 ∧
      ∃ f : CutFrame, f.frame = ⟨next, message⟩ ∧
        (m.serve P (.chunk x.deviceId chunk id hr)).written =
          m.written ++ f.chunks.map (Prod.mk x.deviceId) := by
  obtain ⟨getMtu, hclamp⟩ := hmtu
  obtain ⟨chunks, hchunks⟩ := exists_chunks hsize hleast next
  let v := m.view x.ref x.deviceId
  have hhandshake : v.cs.handshake = hs := h.follows.handshake
  have hrole : v.cs.role = hs.role := h.follows.role
  have hmtu : v.mtu.getD GATT_MTU_DEFAULT = x.mtu := by
    show (m.mtuCache.get? x.deviceId).getD GATT_MTU_DEFAULT = x.mtu
    rw [h.leads.mtu]
    rfl
  have hadvance := run_advanceHandshake (P := P) x.deviceId (f := handshakeFrame frame hr) (v := v)
    (by rw [hhandshake]; exact hread)
  have hanswer := run_answer x.deviceId (f := handshakeFrame frame hr) (v := v.setHandshake r')
    hwriteRx hwrite hchunks
  rw [hrole, show answerType (handshakeFrame frame hr).frameType hs.role = some next from hnext,
    hmtu] at hadvance
  dsimp only at hadvance
  rw [hanswer] at hadvance
  obtain ⟨hshakes, hreassemblers, hwritten⟩ := h.of_advance id hframe htype hadvance rfl
    (((writeMessage_isMessage _ _).run_ok hwrite).1.trans
      ((readMessage_isMessage _ _).run_ok hread).1) hdone
  refine ⟨hshakes, hreassemblers, ?_⟩
  exact ⟨⟨message, x.mtu, next, chunks, ⟨getMtu, hclamp⟩, hchunks⟩, rfl, hwritten⟩

/-- The frame is read and concludes the handshake. -/
theorem Shakes.concludes (h : Shakes P x hs peer m) (id : IdentityReplies) (hr : HandshakeReplies)
    (hframe : (m.reassemble x.deviceId chunk).2 = some frame)
    (htype : frame.frameType ≠ FrameType.SessionData)
    (hnext : answerType frame.frameType hs.role = none)
    (hread : (readMessage P hr.readDraws frame.payload : Co Unit _ _ _).run () hs =
      (r', .ok payload))
    (hdone : r'.isComplete = true → ∃ s sas, Concluded P r' peer s sas) :
    Shakes P x r' peer (m.serve P (.chunk x.deviceId chunk id hr)) ∧
      (m.serve P (.chunk x.deviceId chunk id hr)).reassemblers =
        m.reassemblers.set x.deviceId (m.reassemble x.deviceId chunk).1 ∧
      (m.serve P (.chunk x.deviceId chunk id hr)).written = m.written := by
  let v := m.view x.ref x.deviceId
  have hhandshake : v.cs.handshake = hs := h.follows.handshake
  have hrole : v.cs.role = hs.role := h.follows.role
  have hadvance := run_advanceHandshake (P := P) x.deviceId (f := handshakeFrame frame hr) (v := v)
    (by rw [hhandshake]; exact hread)
  rw [hrole, show answerType (handshakeFrame frame hr).frameType hs.role = none from hnext]
    at hadvance
  exact h.of_advance id hframe htype hadvance rfl
    ((readMessage_isMessage _ _).run_ok hread).1 hdone

end Shakes

/-! ## Both sides -/

/-- What an honest exchange rests on: the libraries, and the providers of two identities
with these Ed25519 keys. -/
structure Honest (P : Primitives) (identity : Direction → DeviceIdentityProvider)
    (ed xSecret : Direction → Bytes) : Prop where
  gcm : AesGcmLaws P
  dh : X25519Laws P
  kem : MlKemLaws P
  kdf : HkdfLaws P
  sha : ∀ x, (P.sha256 x).length = 32
  identity : ∀ side, IdentityLaws P (identity side) (ed side) (xSecret side)

/-- The MTU of a link that takes the messages of the handshake. -/
structure Wide (x : Route) : Prop where
  negotiated : ∃ getMtu, x.mtu = clampMtu getMtu
  least : 80 ≤ x.mtu

/-- The type of the next message after so many. -/
def messageType : ℕ → FrameType
  | 0 => FrameType.HandshakeMsg1
  | 1 => FrameType.HandshakeMsg2
  | _ => FrameType.HandshakeMsg3

theorem messageType_ne (n : ℕ) : messageType n ≠ FrameType.SessionData := by
  unfold messageType
  split
  · decide
  · decide
  · decide

/-- The first two messages are answered. -/
theorem answerType_messageType {n : ℕ} (hn : n < 2) :
    answerType (messageType n) (writerOf n).opposite = some (messageType (n + 1)) := by
  have hcases : n = 0 ∨ n = 1 := by omega
  rcases hcases with rfl | rfl
  · decide
  · decide

/-- The reassembler that a side has for the other. -/
def Route.reassembler (x : Route) (m : Mesh) : FrameReassembler :=
  (m.reassemblers.get? x.deviceId).getD .new

section Both

variable {P : Primitives} {identity : Direction → DeviceIdentityProvider}
  {ed xSecret : Direction → Bytes} {x : Direction → Route} {hs : Direction → NoiseXxHandshake}
  {w : TwoDevices} {n k : ℕ} {f : CutFrame}

/-- The next message after `n` was written, and `k` of its chunks came in. -/
structure OnItsWay (P : Primitives) (identity : Direction → DeviceIdentityProvider)
    (ed : Direction → Bytes) (x : Direction → Route) (hs : Direction → NoiseXxHandshake) (n : ℕ)
    (f : CutFrame) (k : ℕ) (w : TwoDevices) : Prop where
  lt_three : n < 3
  written : ∃ before draws, Exchanged P (identity .initiator) (identity .responder) n before
      (hs (writerOf n).opposite) ∧
    (writeMessage P draws [] : Co Unit _ _ _).run () before = (hs (writerOf n), .ok f.payload)
  type : f.frameType = messageType n
  shakes : ∀ side, Shakes P (x side) (hs side) (ed side.opposite) (w.mesh side)
  idle : (x (writerOf n)).reassembler (w.mesh (writerOf n)) = .new
  silent : w.toward (writerOf n) = []
  opened : openFrame f.total f.frameType
    ((x (writerOf n).opposite).reassembler (w.mesh (writerOf n).opposite)) = .ok (f.progress k)
  lt : k < f.total
  toward : w.toward (writerOf n).opposite = f.chunksFrom k (f.total - k)

/-- All three messages were exchanged. -/
structure Met (P : Primitives) (identity : Direction → DeviceIdentityProvider)
    (ed : Direction → Bytes) (x : Direction → Route) (hs : Direction → NoiseXxHandshake)
    (w : TwoDevices) : Prop where
  exchanged : Exchanged P (identity .initiator) (identity .responder) 3 (hs .responder)
    (hs .initiator)
  shakes : ∀ side, Shakes P (x side) (hs side) (ed side.opposite) (w.mesh side)
  idle : ∀ side, (x side).reassembler (w.mesh side) = .new
  silent : ∀ side, w.toward side = []

/-- Once the third message is written, its writer concludes. -/
theorem concluded_of_writes (hP : Honest P identity ed xSecret) {before after : NoiseXxHandshake}
    {peer : NoiseXxHandshake} {message : Bytes} {draws : NoiseDraws}
    (h : Exchanged P (identity .initiator) (identity .responder) n before peer) (hn : n < 3)
    (hwrite : (writeMessage P draws [] : Co Unit _ _ _).run () before = (after, .ok message))
    (hcomplete : after.isComplete = true) :
    ∃ s sas, Concluded P after (ed (writerOf n).opposite) s sas := by
  obtain ⟨peer', -, h'⟩ := h.reads hP.gcm hP.dh hP.kem (hP.identity .initiator)
    (hP.identity .responder) hn hwrite (.sample 0)
  rcases Nat.lt_or_ge (n + 1) 3 with hlt | hge
  · rw [(h'.incomplete hlt).2] at hcomplete
    cases hcomplete
  · have htwo : n = 2 := by omega
    subst htwo
    obtain ⟨-, session, sas, -, hinitiator, -⟩ := h'.concluded hP.gcm hP.dh hP.kem hP.kdf hP.sha
      (hP.identity .initiator) (hP.identity .responder)
    exact ⟨_, _, hinitiator⟩

/-- A chunk comes in that does not complete the message. -/
theorem OnItsWay.next (h : OnItsWay P identity ed x hs n f k w) (hk : k + 1 < f.total)
    (id : IdentityReplies) (hr : HandshakeReplies) :
    OnItsWay P identity ed x hs n f (k + 1)
      (w.turn P (fun side => (x side).deviceId) (.arrives (writerOf n).opposite id hr)) := by
  have hchunks : w.toward (writerOf n).opposite =
      f.chunk k :: f.chunksFrom (k + 1) (f.total - (k + 1)) := by
    rw [h.toward, ← f.chunksFrom_succ]
    congr 1
    omega
  have hreceive := f.receive_progress h.lt h.opened
  rw [if_pos hk] at hreceive
  have hpartial := (h.shakes (writerOf n).opposite).partial_chunk id hr
    (show _ = none from congrArg Prod.snd hreceive)
  obtain ⟨hshakes, hreassemblers, hwritten⟩ := hpartial
  obtain ⟨hmesh, hmesh', htoward, htoward'⟩ := turn_arrives (fun side => (x side).deviceId) []
    hchunks (by simpa using hwritten)
  rw [opposite_opposite] at hmesh' htoward'
  refine ⟨h.lt_three, h.written, h.type, forall_sides (writerOf n) ?_ ?_, ?_, ?_, ?_, hk, htoward⟩
  · rw [hmesh']
    exact h.shakes (writerOf n)
  · rw [hmesh]
    exact hshakes
  · rw [hmesh']
    exact h.idle
  · rw [htoward', List.append_nil]
    exact h.silent
  · unfold Route.reassembler
    rw [hmesh, hreassemblers, InsMap.get?_set_self]
    rw [show ((w.mesh (writerOf n).opposite).reassemble _ (f.chunk k)).1 = f.progress (k + 1) from
      congrArg Prod.fst hreceive]
    exact f.openFrame_progress (k + 1)

/-- The last chunk completes the message, and leaves the reassembler empty. -/
theorem OnItsWay.completes (h : OnItsWay P identity ed x hs n f k w) (hk : k + 1 = f.total) :
    w.toward (writerOf n).opposite = [f.chunk k] ∧
      (w.mesh (writerOf n).opposite).reassemble (x (writerOf n).opposite).deviceId (f.chunk k) =
        (.new, some f.frame) := by
  constructor
  · rw [h.toward, show f.total - k = 0 + 1 by omega]
    rfl
  · have hreceive := f.receive_progress h.lt h.opened
    rw [if_neg (Nat.not_lt.mpr (le_of_eq hk.symm))] at hreceive
    exact hreceive

/-- The message is read, whatever the reader draws. -/
theorem OnItsWay.reads (hP : Honest P identity ed xSecret)
    (h : OnItsWay P identity ed x hs n f k w) (draws : NoiseDraws) :
    ∃ r', (readMessage P draws f.payload : Co Unit _ _ _).run () (hs (writerOf n).opposite) =
        (r', .ok []) ∧
      Exchanged P (identity .initiator) (identity .responder) (n + 1) r' (hs (writerOf n)) := by
  obtain ⟨before, draws', hexchanged, hwrite⟩ := h.written
  exact hexchanged.reads hP.gcm hP.dh hP.kem (hP.identity .initiator) (hP.identity .responder)
    h.lt_three hwrite draws

theorem Honest.keyLengths (hP : Honest P identity ed xSecret) (side : Direction) :
    KeyLengths (identity side) :=
  (hP.identity side).keyLengths hP.dh

/-- **msg-1 or msg-2 is complete**: it is answered. -/
theorem OnItsWay.answered (hP : Honest P identity ed xSecret) (hx : ∀ side, Wide (x side))
    (h : OnItsWay P identity ed x hs n f k w) (hk : k + 1 = f.total) (hn : n < 2)
    (id : IdentityReplies) {hr : HandshakeReplies} (hwriteRx : ∀ i, hr.writeRx i = .ok ()) :
    ∃ hs' f', OnItsWay P identity ed x hs' (n + 1) f' 0
      (w.turn P (fun side => (x side).deviceId) (.arrives (writerOf n).opposite id hr)) := by
  obtain ⟨hchunk, hreceive⟩ := h.completes hk
  obtain ⟨r', hread, hexchanged⟩ := h.reads hP hr.readDraws
  have hlt : n + 1 < 3 := by omega
  obtain ⟨w', message, hwrite⟩ := hexchanged.writes hP.gcm hP.dh hP.kem (hP.identity .initiator)
    (hP.identity .responder) hlt hr.writeDraws
  have hsize := hexchanged.length hP.gcm hP.dh (hP.keyLengths .initiator)
    (hP.keyLengths .responder) hwrite
  obtain ⟨before, draws, hbefore, -⟩ := h.written
  have hreader := h.shakes (writerOf n).opposite
  rw [opposite_opposite] at hreader
  have htype : f.frame.frameType = messageType n := h.type
  have hnext : answerType f.frame.frameType (hs (writerOf n).opposite).role =
      some (messageType (n + 1)) := by
    rw [htype, hbefore.turn.2.1]
    exact answerType_messageType hn
  have hanswers := hreader.answers id hr (congrArg Prod.snd hreceive)
    (by rw [htype]; exact messageType_ne n) hnext hwriteRx hread hwrite hsize (hx _).negotiated (hx _).least (fun hcomplete => by
      have hconcluded := concluded_of_writes hP hexchanged hlt hwrite hcomplete
      rw [writerOf_succ, opposite_opposite] at hconcluded
      exact hconcluded)
  obtain ⟨hshakes, hreassemblers, f', hf', hwritten⟩ := hanswers
  obtain ⟨hmesh, hmesh', htoward, htoward'⟩ := turn_arrives (fun side => (x side).deviceId)
    f'.chunks hchunk hwritten
  rw [opposite_opposite] at hmesh' htoward'
  have hpayload : f'.payload = message := congrArg ReassembledFrame.payload hf'
  have htype' : f'.frameType = messageType (n + 1) := congrArg ReassembledFrame.frameType hf'
  -- The reader is the next writer.
  have hself : Function.update hs (writerOf n).opposite w' (writerOf n).opposite = w' :=
    Function.update_self _ _ _
  have hother : Function.update hs (writerOf n).opposite w' (writerOf n) = hs (writerOf n) :=
    Function.update_of_ne (opposite_ne (writerOf n)).symm _ _
  refine ⟨Function.update hs (writerOf n).opposite w', f', ?_⟩
  constructor
  · exact hlt
  · rw [writerOf_succ, opposite_opposite, hself, hother, hpayload]
    exact ⟨r', hr.writeDraws, hexchanged, hwrite⟩
  · exact htype'
  · refine forall_sides (writerOf n) ?_ ?_
    · rw [hmesh', hother]
      exact h.shakes (writerOf n)
    · rw [hmesh, hself, opposite_opposite]
      exact hshakes
  · rw [writerOf_succ]
    unfold Route.reassembler
    rw [hmesh, hreassemblers, InsMap.get?_set_self, hreceive]
    rfl
  · rw [writerOf_succ]
    exact htoward
  · rw [writerOf_succ, opposite_opposite, hmesh', h.idle]
    rfl
  · exact f'.total_pos
  · rw [writerOf_succ, opposite_opposite, htoward', h.silent, List.nil_append, f'.chunks_eq_from]
    rfl

/-- **msg-3 is complete**: both sides have met. -/
theorem OnItsWay.met (hP : Honest P identity ed xSecret)
    (h : OnItsWay P identity ed x hs 2 f k w) (hk : k + 1 = f.total) (id : IdentityReplies)
    (hr : HandshakeReplies) :
    ∃ hs', Met P identity ed x hs'
      (w.turn P (fun side => (x side).deviceId) (.arrives .responder id hr)) := by
  obtain ⟨hchunk, hreceive⟩ : w.toward .responder = [f.chunk k] ∧
      (w.mesh .responder).reassemble (x .responder).deviceId (f.chunk k) = (.new, some f.frame) :=
    h.completes hk
  obtain ⟨r', hread, hexchanged⟩ : ∃ r', (readMessage P hr.readDraws f.payload :
      Co Unit _ _ _).run () (hs .responder) = (r', .ok []) ∧
        Exchanged P (identity .initiator) (identity .responder) 3 r' (hs .initiator) :=
    h.reads hP hr.readDraws
  obtain ⟨-, session, sas, -, -, hconcluded⟩ := hexchanged.concluded hP.gcm hP.dh hP.kem hP.kdf
    hP.sha (hP.identity .initiator) (hP.identity .responder)
  obtain ⟨before, draws, hbefore, -⟩ := h.written
  have hrole : (hs .responder).role = .responder := hbefore.turn.2.1
  have htype : f.frame.frameType = FrameType.HandshakeMsg3 := h.type
  obtain ⟨hshakes, hreassemblers, hwritten⟩ := (h.shakes .responder).concludes id hr
    (congrArg Prod.snd hreceive) (by rw [htype]; decide) (by rw [htype, hrole]; decide) hread
    fun _ => ⟨_, _, hconcluded⟩
  obtain ⟨hmesh, hmesh', htoward, htoward'⟩ := turn_arrives (fun side => (x side).deviceId) []
    hchunk (by simpa using hwritten)
  refine ⟨Function.update hs .responder r', hexchanged, ?_, ?_, ?_⟩
  · refine forall_sides .responder ?_ ?_
    · rw [hmesh, Function.update_self]
      exact hshakes
    · rw [hmesh']
      exact h.shakes .initiator
  · refine forall_sides .responder ?_ ?_
    · unfold Route.reassembler
      rw [hmesh, hreassemblers, InsMap.get?_set_self, hreceive]
      rfl
    · rw [hmesh']
      exact h.idle
  · refine forall_sides .responder htoward ?_
    rw [htoward', List.append_nil]
    exact h.silent

/-! ## Arrivals -/

/-- The next chunk comes in, and the writes of the call succeed. -/
def Arrival : Turn → Prop
  | .arrives _ _ hr => ∀ i, hr.writeRx i = .ok ()
  | .call _ _ => False

/-- The handshake is under way, or both sides have met. -/
inductive Meeting (P : Primitives) (identity : Direction → DeviceIdentityProvider)
    (ed : Direction → Bytes) (x : Direction → Route) (w : TwoDevices) : Prop where
  | onItsWay {hs : Direction → NoiseXxHandshake} {n : ℕ} {f : CutFrame} {k : ℕ} :
      OnItsWay P identity ed x hs n f k w → Meeting P identity ed x w
  | met {hs : Direction → NoiseXxHandshake} :
      Met P identity ed x hs w → Meeting P identity ed x w

theorem OnItsWay.arrives (hP : Honest P identity ed xSecret) (hx : ∀ side, Wide (x side))
    (h : OnItsWay P identity ed x hs n f k w) (id : IdentityReplies) {hr : HandshakeReplies}
    (hwriteRx : ∀ i, hr.writeRx i = .ok ()) :
    Meeting P identity ed x
      (w.turn P (fun side => (x side).deviceId) (.arrives (writerOf n).opposite id hr)) := by
  have hlt := h.lt
  have hthree := h.lt_three
  rcases Nat.lt_or_ge (k + 1) f.total with hk | hk
  · exact .onItsWay (h.next hk id hr)
  · have hlast : k + 1 = f.total := by omega
    rcases Nat.lt_or_ge n 2 with hn | hn
    · obtain ⟨hs', f', hnext⟩ := h.answered hP hx hlast hn id hwriteRx
      exact .onItsWay hnext
    · have htwo : n = 2 := by omega
      subst htwo
      obtain ⟨hs', hmet⟩ := h.met hP hlast id hr
      exact .met hmet

/-- **A step of the meeting.** -/
theorem Meeting.arrives (hP : Honest P identity ed xSecret) (hx : ∀ side, Wide (x side))
    (h : Meeting P identity ed x w) (side : Direction) (id : IdentityReplies)
    {hr : HandshakeReplies} (hwriteRx : ∀ i, hr.writeRx i = .ok ()) :
    Meeting P identity ed x (w.turn P (fun side => (x side).deviceId) (.arrives side id hr)) := by
  cases h with
  | @onItsWay hs n f k h =>
      rcases eq_or_opposite (writerOf n) side with rfl | rfl
      · rw [turn_arrives_nil h.silent]
        exact .onItsWay h
      · exact h.arrives hP hx id hwriteRx
  | met h =>
      rw [turn_arrives_nil (h.silent side)]
      exact .met h

/-- **A run of the meeting.** -/
theorem Meeting.run (hP : Honest P identity ed xSecret) (hx : ∀ side, Wide (x side))
    (h : Meeting P identity ed x w) (turns : List Turn) (hturns : ∀ t ∈ turns, Arrival t) :
    Meeting P identity ed x (w.run P (fun side => (x side).deviceId) turns) := by
  induction turns using List.reverseRecOn with
  | nil => exact h
  | append_singleton turns t ih =>
      have harrival := hturns t (by simp)
      rw [run_concat]
      cases t with
      | call side e => exact harrival.elim
      | arrives side id hr =>
          exact (ih fun t ht => hturns t (List.mem_append_left _ ht)).arrives hP hx side id
            harrival

/-- Where nothing is on its way, both sides have met. -/
theorem Meeting.of_silent (h : Meeting P identity ed x w) (hsilent : ∀ side, w.toward side = []) :
    ∃ hs, Met P identity ed x hs w := by
  cases h with
  | @onItsWay hs n f k h =>
      have htoward := h.toward
      have hlt := h.lt
      rw [hsilent, show f.total - k = f.total - k - 1 + 1 by omega] at htoward
      cases htoward
  | met h => exact ⟨_, h⟩

/-! ### It ends -/

variable {id : IdentityReplies} {hr : HandshakeReplies}

/-- All chunks but the last come in. -/
theorem OnItsWay.drains (id : IdentityReplies) (hr : HandshakeReplies)
    (h : OnItsWay P identity ed x hs n f k w) :
    ∃ sides, OnItsWay P identity ed x hs n f (f.total - 1)
      (w.run P (fun side => (x side).deviceId) (arrivals id hr sides)) := by
  induction hleft : f.total - 1 - k generalizing k w with
  | zero =>
      have hlast : f.total - 1 = k := by
        have hlt := h.lt
        omega
      refine ⟨[], ?_⟩
      rw [hlast]
      exact h
  | succ left ih =>
      obtain ⟨sides, hdrained⟩ := ih (h.next (by omega) id hr) (by omega)
      exact ⟨(writerOf n).opposite :: sides, hdrained⟩

/-- A message more is answered, until the third. -/
theorem OnItsWay.concludes (hP : Honest P identity ed xSecret) (hx : ∀ side, Wide (x side))
    (h : OnItsWay P identity ed x hs n f k w) (hwriteRx : ∀ i, hr.writeRx i = .ok ()) :
    ∃ sides hs', Met P identity ed x hs'
      (w.run P (fun side => (x side).deviceId) (arrivals id hr sides)) := by
  induction hleft : 2 - n generalizing hs n f k w with
  | zero =>
      have htwo : n = 2 := by
        have hlt := h.lt_three
        omega
      subst htwo
      obtain ⟨sides, hdrained⟩ := h.drains id hr
      have htotal := f.total_pos
      obtain ⟨hs', hmet⟩ := hdrained.met hP (by omega) id hr
      refine ⟨sides ++ [.responder], hs', ?_⟩
      unfold arrivals
      rw [List.map_append, List.map_singleton, run_concat]
      exact hmet
  | succ left ih =>
      obtain ⟨sides, hdrained⟩ := h.drains id hr
      have htotal := f.total_pos
      obtain ⟨hs', f', hnext⟩ := hdrained.answered hP hx (by omega) (by omega) id hwriteRx
      obtain ⟨sides', hs'', hmet⟩ := ih hnext (by omega)
      refine ⟨sides ++ (writerOf n).opposite :: sides', hs'', ?_⟩
      unfold arrivals TwoDevices.run at hmet ⊢
      rw [List.map_append, List.foldl_append, List.map_cons, List.foldl_cons]
      exact hmet

/-- **The meeting can always be concluded.** -/
theorem Meeting.concludes (hP : Honest P identity ed xSecret) (hx : ∀ side, Wide (x side))
    (h : Meeting P identity ed x w) (id : IdentityReplies)
    (hwriteRx : ∀ i, hr.writeRx i = .ok ()) :
    ∃ sides hs', Met P identity ed x hs'
      (w.run P (fun side => (x side).deviceId) (arrivals id hr sides)) := by
  cases h with
  | onItsWay h => exact h.concludes hP hx hwriteRx
  | met h => exact ⟨[], _, h⟩

end Both

end Oxpulse.Transport
