import Oxpulse.Foundation.LabelledTrace
import Oxpulse.Transport.MeshObjects

/-!
# The branches that write what the user sees

The verdicts, the SAS, `meshState.error` and the notifications are written at
some ten places of `transport.ts`. Each is a `Branch`, with the model's own
function for what it does (`Branch.act`) and what the call knows that gets there
(`Branch.Fits`). Every step of every run is a trace of branches, between which
nothing of it changes (`meshRun_trace`); so what all branches do is true of runs.
-/

namespace Oxpulse.Transport

open Oxpulse.Coroutine Oxpulse.Crypto

/-! ## Branches -/

inductive Branch : Type where
  | acceptPeer (peerIdHex : PeerIdHex)
  | rejectPeer (peerIdHex : PeerIdHex)
  /-- One round of the loop of `checkHandshakeTimeouts`. -/
  | timeout (entry : DeviceId × ℕ)
  /-- A branch of `advanceHandshake` on this object. -/
  | handshake (ref : ℕ) (deviceId : DeviceId) (b : HandshakeBranch)
  | failHandshake (cs : Option ℕ)
  /-- The catch block around `decrypt`. -/
  | decryptFailed (e : JsError)
  /-- The end of `startMesh`. -/
  | started
  /-- The catch block of `startMesh`. -/
  | startFailed (kind : MeshErrorKind)
  /-- The end of `stopMesh`. -/
  | stopped

/-- What the branch does. -/
def Branch.act : Branch → Mesh → Mesh
  | .acceptPeer p, m => m.acceptPeer p
  | .rejectPeer p, m => m.rejectPeer p
  | .timeout entry, m => m.checkTimeout entry
  | .handshake ref deviceId b, m => m.setView ref (b.act (m.view ref deviceId))
  | .failHandshake cs, m => m.failHandshake cs
  | .decryptFailed e, m => Transport.decryptFailed e m
  | .started, m => { m with error := none }
  | .startFailed kind, m => { m with error := some kind }
  | .stopped, m => { m with error := none }

/-- What is known where call `n`, which runs the event `e`, gets to the branch. -/
def Branch.Fits (n : ℕ) (e : Event) (m : Mesh) : Branch → Prop
  | .acceptPeer p =>
      e = .acceptPeer p ∧ ∀ ref, m.findPeer p = some ref → ref < m.objects.length
  | .rejectPeer p =>
      e = .rejectPeer p ∧ ∀ ref, m.findPeer p = some ref → ref < m.objects.length
  | .timeout entry =>
      e = .timeoutTick ∧ entry ∈ m.cryptoStates.entries ∧ entry.2 < m.objects.length
  | .handshake ref deviceId _ => EngagedWith ref deviceId (m.flight n) ∧ ref < m.objects.length
  | .failHandshake cs => Fails n e cs m ∧ ∀ ref, cs = some ref → ref < m.objects.length
  | .decryptFailed _ => ∃ ref, m.flight n = some (.receiving ref)
  | .started => ∃ r, e = .startMesh r
  | .startFailed _ => ∃ r, e = .startMesh r
  | .stopped => ∃ r, e = .stopMesh r

/-! ## What the branches of a handshake do -/

/-- The read throws because the frame is not the next one. -/
def OutOfState (e : JsError) : Prop := ∃ message, e = .noiseStateError message

/-- The branch ends in `transitionVerdict(cs, 'rejected')`. -/
def HandshakeBranch.Rejects (v : HandshakeView) : HandshakeBranch → Prop
  | .readFailed e => ¬ OutOfState e ∧ 3 ≤ v.cs.handshakeFailures + 1
  | .answerFailed => True
  | .splitFailed => True
  | .established _ _ => False

section HandshakeBranches

variable {v : HandshakeView} {b : HandshakeBranch} {c : CryptoState}

theorem transitionVerdict_pending (next : CryptoVerdict) (h : c.verdict = .pending) :
    transitionVerdict next c = ({ c with verdict := next }, true) := by
  unfold transitionVerdict
  rw [h]

theorem transitionVerdict_decided (next : CryptoVerdict) (h : c.verdict ≠ .pending) :
    transitionVerdict next c = (c, false) := by
  unfold transitionVerdict
  cases hv : c.verdict with
  | pending => exact absurd hv h
  | accepted => rfl
  | rejected => rfl

theorem transitionVerdict_verdict {c' : CryptoState} (next : CryptoVerdict)
    (h : c'.verdict = c.verdict) :
    (transitionVerdict next c').1.verdict = (transitionVerdict next c).1.verdict := by
  by_cases hv : c.verdict = .pending
  · rw [transitionVerdict_pending next hv, transitionVerdict_pending next (h.trans hv)]
  · rw [transitionVerdict_decided next hv, transitionVerdict_decided next (h ▸ hv)]
    exact h

/-- A violation that is not dropped is counted, and the third one rejects. -/
theorem readFailed_eq {e : JsError} (h : ¬ OutOfState e) (v : HandshakeView) :
    v.readFailed e =
      let counted : HandshakeView :=
        { v with cs := { v.cs with handshakeFailures := v.cs.handshakeFailures + 1 } }
      if v.cs.handshakeFailures + 1 < 3 then counted else counted.reject := by
  cases e with
  | noiseStateError message => exact absurd ⟨message, rfl⟩ h
  | error message => rfl
  | library => rfl

/-- What a rejecting branch writes: the error always, the verdict if it is
pending, and no notification. -/
theorem act_rejects (h : b.Rejects v) :
    (b.act v).cs.verdict = (transitionVerdict .rejected v.cs).1.verdict ∧
      (b.act v).error = some .handshakeFailed ∧ (b.act v).notified = v.notified := by
  cases b with
  | readFailed e =>
      obtain ⟨hstate, hthird⟩ := h
      have hread := readFailed_eq hstate v
      dsimp only at hread
      rw [if_neg (Nat.not_lt.mpr hthird)] at hread
      unfold HandshakeBranch.act
      dsimp only
      rw [hread]
      exact ⟨transitionVerdict_verdict .rejected rfl, rfl, rfl⟩
  | answerFailed => exact ⟨rfl, rfl, rfl⟩
  | splitFailed => exact ⟨rfl, rfl, rfl⟩
  | established session sas => exact h.elim

/-- A read whose failure does not reject is not seen. -/
theorem readFailed_unseen {e : JsError} (h : ¬ (HandshakeBranch.readFailed e).Rejects v) :
    Unseen v ((HandshakeBranch.readFailed e).act v) := by
  by_cases hstate : OutOfState e
  · obtain ⟨message, rfl⟩ := hstate
    exact .refl v
  · have hread := readFailed_eq hstate v
    dsimp only at hread
    rw [if_pos (Nat.lt_of_not_le fun hthird => h ⟨hstate, hthird⟩)] at hread
    unfold HandshakeBranch.act
    dsimp only
    rw [hread]
    exact ⟨⟨rfl, rfl⟩, rfl, rfl⟩

/-- The other branches leave the keys. -/
theorem act_keeps (h : ∀ session sas, b ≠ .established session sas) :
    Keeps Nobody v.cs (b.act v).cs := by
  cases b with
  | readFailed e => exact readFailed_keeps e v
  | answerFailed => exact reject_keeps v
  | splitFailed => exact reject_keeps v
  | established session sas => exact absurd rfl (h session sas)

/-- The branch that sets the SAS decides nothing, and it notifies. -/
theorem act_established (session : RatchetSession) (sas : String) (v : HandshakeView) :
    ((HandshakeBranch.established session sas).act v).cs.verdict = v.cs.verdict ∧
      ((HandshakeBranch.established session sas).act v).cs.sas = some sas ∧
      ((HandshakeBranch.established session sas).act v).notified = v.notified + 1 := by
  change ((v.setSession session).established sas).cs.verdict = v.cs.verdict ∧
    ((v.setSession session).established sas).cs.sas = some sas ∧
      ((v.setSession session).established sas).notified = v.notified + 1
  unfold HandshakeView.established HandshakeView.notifyHandshakeChange HandshakeView.checkPeerKey
  split
  · exact ⟨rfl, rfl, rfl⟩
  · exact ⟨rfl, rfl, rfl⟩

end HandshakeBranches

/-- Nothing that the user sees changes; a new object is pending and has no SAS. -/
structure Mesh.Quiet (m m' : Mesh) : Prop where
  faces : Lifts SameFace m m'
  error : m'.error = m.error
  notified : m'.notified = m.notified

theorem Mesh.Quiet.refl (m : Mesh) : m.Quiet m := ⟨.of_objects .refl rfl, rfl, rfl⟩

theorem Mesh.Quiet.trans {m m' m'' : Mesh} (h : m.Quiet m') (h' : m'.Quiet m'') : m.Quiet m'' where
  faces := h.faces.trans (fun _ _ _ => SameFace.trans) h'.faces
  error := h'.error.trans h.error
  notified := h'.notified.trans h.notified

def seen : Observed Mesh Branch where
  Quiet := Mesh.Quiet
  act := Branch.act
  refl := .refl
  trans := fun _ _ _ => .trans

section Traces

variable {P : Primitives} {n : ℕ} {e : Event} {m m' m'' : Mesh}

theorem quiet_of_objects (hobjects : m'.objects = m.objects) (herror : m'.error = m.error)
    (hnotified : m'.notified = m.notified) : m.Quiet m' :=
  ⟨.of_objects .refl hobjects, herror, hnotified⟩

/-- The branches on the way, with call `n` in the event `e`. -/
def Traces (n : ℕ) (e : Event) (m m' : Mesh) : Prop :=
  ∃ l, seen.Trace (Branch.Fits n e) l m m'

theorem Mesh.Quiet.traces (h : m.Quiet m') : Traces n e m m' := ⟨[], .quiet m m' h⟩

theorem Traces.trans (h : Traces n e m m') (h' : Traces n e m' m'') : Traces n e m m'' := by
  obtain ⟨l, hl⟩ := h
  obtain ⟨l', hl'⟩ := h'
  exact ⟨l ++ l', hl.append hl'⟩

theorem Traces.single {b : Branch} (h : b.Fits n e m) : Traces n e m (b.act m) :=
  ⟨[(m, b)], .single (O := seen) h⟩

/-! ## Atoms -/

theorem setView_traces {ref : ℕ} {deviceId : DeviceId} {v : HandshakeView}
    (hf : EngagedWith ref deviceId (m.flight n)) (href : ref < m.objects.length)
    (h : Branches (m.view ref deviceId) v) : Traces n e m (m.setView ref v) := by
  rcases h with hunseen | ⟨b, rfl⟩
  · exact Mesh.Quiet.traces ⟨.of_set .refl rfl hunseen.face, hunseen.error, hunseen.notified⟩
  · exact Traces.single (b := .handshake ref deviceId b) ⟨hf, href⟩

theorem setSession_quiet (ref k : ℕ) (s : RatchetSession) (m : Mesh) :
    m.Quiet (m.setSession ref k s) := by
  unfold Mesh.setSession
  split
  · exact ⟨.of_set .refl rfl ⟨rfl, rfl⟩, rfl, rfl⟩
  · exact .refl m

theorem traces_create {c : CryptoState} (hblank : Blank c)
    (hobjects : m'.objects = m.objects ++ [c]) (herror : m'.error = m.error)
    (hnotified : m'.notified = m.notified) : Traces n e m m' :=
  Mesh.Quiet.traces ⟨.of_append .refl hobjects hblank, herror, hnotified⟩

theorem traces_same (hobjects : m'.objects = m.objects) (herror : m'.error = m.error)
    (hnotified : m'.notified = m.notified) : Traces n e m m' :=
  (quiet_of_objects hobjects herror hnotified).traces

theorem Fails.lt {cs : Option ℕ} (h : Fails n e cs m) (hm : Live m) :
    ∀ ref, cs = some ref → ref < m.objects.length := by
  cases h with
  | initiating s c id hr => exact fun ref href => hm.registered s.deviceId ref href
  | advancing _ ref deviceId _ hf =>
      intro ref' href
      cases href
      rcases hf with hf | hf | hf
      · exact hm.held n _ ref hf rfl
      · exact hm.held n _ ref hf rfl
      · exact hm.held n _ ref hf rfl
  | bootstrapping => exact fun _ href => nomatch href

theorem Atom.traces (h : Atom P n e m m') (hm : Live m) : Traces n e m m' := by
  cases h with
  | opened s c id hr _ identity ourPeerId =>
      exact traces_create (blank_new P _ identity _ m.now) rfl rfl rfl
  | bootstrapped deviceId chunk id hr _ identity role peerIdHex payload =>
      exact traces_create (blank_new P role identity peerIdHex m.now) rfl rfl rfl
  | sendsMsg1 _ ref deviceId v _ hf _ _ hunseen =>
      exact Mesh.Quiet.traces ⟨.of_set .refl rfl hunseen.face, hunseen.error, hunseen.notified⟩
  | advances _ ref deviceId v _ hf _ _ hbranches =>
      exact setView_traces (Or.inl hf) (hm.held n _ ref hf rfl) hbranches
  | concludes _ ref deviceId v _ hf _ _ hbranches =>
      exact (setView_traces (Or.inl hf) (hm.held n _ ref hf rfl) hbranches).trans
        (traces_same rfl rfl rfl)
  | refuses _ ref deviceId v _ hf _ hbranches =>
      exact setView_traces (Or.inr (Or.inr hf)) (hm.held n _ ref hf rfl) hbranches
  | failHandshake _ cs _ _ hfails => exact Traces.single (b := .failHandshake cs) ⟨hfails, hfails.lt hm⟩
  | setSession _ ref k s => exact (setSession_quiet ref k s m).traces
  | decryptFailed _ ref err _ hf => exact Traces.single (b := .decryptFailed err) ⟨ref, hf⟩
  | runs r =>
      have hrun : m.Quiet { (m.running r.document).launch n .started with error := m.error } :=
        quiet_of_objects rfl rfl rfl
      exact hrun.traces.trans (Traces.single (b := .started) ⟨r, rfl⟩)
  | startFails r kind => exact Traces.single (b := .startFailed kind) ⟨r, rfl⟩
  | clears r =>
      have hclear : m.Quiet { m.clear with error := m.error } := quiet_of_objects rfl rfl rfl
      exact hclear.traces.trans (Traces.single (b := .stopped) ⟨r, rfl⟩)
  | removed r i handle =>
      refine traces_same ?_ ?_ ?_
      · split
        · rfl
        · rfl
      · split
        · rfl
        · rfl
      · split
        · rfl
        · rfl
  | _ => exact traces_same rfl rfl rfl

theorem Chain.traces (h : Chain P n e m m') (hm : Live m) : Live m' ∧ Traces n e m m' := by
  induction h with
  | refl => exact ⟨hm, (Mesh.Quiet.refl m).traces⟩
  | tail _ hatom ih => exact ⟨hatom.live ih.1, ih.2.trans (hatom.traces ih.1)⟩

/-! ## Entries -/

/-- The rounds of the loop, each on an entry of the map. -/
theorem timeouts_traces (entries : List (DeviceId × ℕ)) :
    ∀ m : Mesh, (∀ entry ∈ entries, entry ∈ m.cryptoStates.entries ∧
        entry.2 < m.objects.length) →
      Traces n .timeoutTick m (entries.foldl Mesh.checkTimeout m) := by
  induction entries with
  | nil => exact fun m _ => (Mesh.Quiet.refl m).traces
  | cons entry entries ih =>
      intro m hentries
      have hfirst : Traces n .timeoutTick m (m.checkTimeout entry) :=
        Traces.single (b := .timeout entry) ⟨rfl, hentries entry List.mem_cons_self⟩
      refine hfirst.trans (ih _ fun entry' hmem => ?_)
      obtain ⟨hregistered, hlt⟩ := hentries entry' (List.mem_cons_of_mem _ hmem)
      have hlength := (checkTimeout_lifts (A := Nobody) m entry).length
      obtain ⟨_, _, _, heq⟩ := checkTimeout_onlyObjects m entry
      refine ⟨?_, hlt.trans_le hlength⟩
      rw [heq]
      exact hregistered

theorem Live.findPeer (hm : Live m) {p : PeerIdHex} {ref : ℕ} (h : m.findPeer p = some ref) :
    ref < m.objects.length := by
  obtain ⟨entry, hmem, rfl⟩ := List.mem_map.mp (List.mem_of_find?_eq_some h)
  exact hm.registered entry.1 entry.2 (InsMap.get?_eq_some.mpr hmem)

theorem Enters.traces (h : Enters e m m') (hm : Live m) : Traces n e m m' := by
  have hnumber : m.Quiet m.number := quiet_of_objects rfl rfl rfl
  cases h with
  | disconnected d =>
      obtain ⟨_, _, heq⟩ := disconnected_eq d (m.number.outboundDown d)
      rw [heq]
      exact traces_same rfl rfl rfl
  | dropped d =>
      obtain ⟨_, _, heq⟩ := disconnected_eq d (m.number.inboundDown d)
      rw [heq]
      exact traces_same rfl rfl rfl
  | connected d =>
      obtain ⟨_, heq⟩ := connectedInbound_eq d (m.number.inboundUp d)
      rw [heq]
      exact traces_same rfl rfl rfl
  | timeouts =>
      refine hnumber.traces.trans (timeouts_traces m.cryptoStates.entries m.number ?_)
      exact fun entry hmem => ⟨hmem, hm.registered entry.1 entry.2 (InsMap.get?_eq_some.mpr hmem)⟩
  | accepts p =>
      exact hnumber.traces.trans (Traces.single (b := .acceptPeer p)
        ⟨rfl, fun ref href => hm.findPeer href⟩)
  | rejects p =>
      exact hnumber.traces.trans (Traces.single (b := .rejectPeer p)
        ⟨rfl, fun ref href => hm.findPeer href⟩)
  | _ => exact traces_same rfl rfl rfl

end Traces

/-! ## Runs -/

/-- The move is a step of call `n`, which runs the event `e`. -/
def StepOf (p : MeshPool) (n : ℕ) (e : Event) : Move Event Unit → Prop
  | .start e' => n = p.calls.length ∧ e' = e
  | .resume i _ => n = i ∧ ∃ st, p.calls[i]? = some ⟨e, st⟩

/-- What is known where a step gets to a branch. -/
def StepFits (p : MeshPool) (mv : Move Event Unit) (m : Mesh) (b : Branch) : Prop :=
  ∃ n e, StepOf p n e mv ∧ b.Fits n e m

/-- **Every step of a run is a trace of branches.** -/
theorem meshRun_trace {P : Primitives} {m : Mesh} (hm : Pristine m) (ms : List (Move Event Unit))
    (mv : Move Event Unit) :
    ∃ l, seen.Trace (StepFits (meshRun P m ms) mv) l (meshRun P m ms).shared
      (meshRun P m (ms ++ [mv])).shared := by
  have hlive := meshRun_live (P := P) hm ms
  rw [meshRun_concat]
  cases meshRun_stepCase (P := P) hm.counted ms mv with
  | idle _ hidle =>
      rw [hidle]
      exact ⟨[], .nil _⟩
  | start e m₀ st hE hG _ _ =>
      obtain ⟨l, hl⟩ := (hE.traces (n := (meshRun P m ms).calls.length) hlive).trans
        (hG.chain.traces (hE.live hlive)).2
      exact ⟨l, hl.mono fun m b hfits => ⟨_, e, ⟨rfl, rfl⟩, hfits⟩⟩
  | resume i e r k st hi hG _ _ =>
      obtain ⟨l, hl⟩ := (hG.chain.traces hlive).2
      exact ⟨l, hl.mono fun m b hfits => ⟨i, e, ⟨rfl, _, hi⟩, hfits⟩⟩

end Oxpulse.Transport
