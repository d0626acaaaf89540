import Oxpulse.Transport.FrameMix
import Oxpulse.Transport.MeshRegistered

/-!
# Concurrent sends

Nothing serialises two calls of `sendFrame`: the chunks of one are written
between those of the other. A call that resolves has written the chunks of one
frame, in order; the chunks that several calls write to a link are a mix of such
lists, and `FrameMix` says when the receiver gets the frames.
-/

namespace Oxpulse.Transport

open Oxpulse.Coroutine Oxpulse.Crypto RatchetSession FrameReassembler

/-! ## What a call has written -/

/-- The chunks that were written, with the call that wrote them. -/
def Mesh.sentLog (m : Mesh) : List (ℕ × Bytes) := m.sent.map fun entry => (entry.call, entry.chunk)

def Mesh.sentBy (n : ℕ) (m : Mesh) : List Bytes := writtenBy n m.sentLog

/-- The others write nothing in its name. -/
def SameSent (n : ℕ) (m m' : Mesh) : Prop := m'.sentBy n = m.sentBy n

section Sent

variable {P : Primitives} {n i : ℕ} {e : Event} {m m' : Mesh}

theorem sentBy_of_sent (h : m'.sent = m.sent) : SameSent n m m' := by
  unfold SameSent Mesh.sentBy Mesh.sentLog
  rw [h]

theorem sentBy_concat (entry : SentChunk) (h : m'.sent = m.sent ++ [entry]) :
    m'.sentBy n = m.sentBy n ++ if entry.call = n then [entry.chunk] else [] := by
  unfold Mesh.sentBy Mesh.sentLog
  rw [h, List.map_append, writtenBy_append]
  by_cases hcall : entry.call = n
  · rw [if_pos hcall]
    subst hcall
    exact congrArg _ writtenBy_cons_self
  · rw [if_neg hcall]
    exact congrArg _ (writtenBy_cons_ne hcall)

theorem Atom.sameSent (h : Atom P n e m m') (hi : i ≠ n) : SameSent i m m' := by
  rcases h.sent_cases with hsame | ⟨entry, happend, hcall, -⟩
  · exact sentBy_of_sent hsame
  · have hne : entry.call ≠ i := by
      rw [hcall]
      exact Ne.symm hi
    unfold SameSent
    rw [sentBy_concat entry happend, if_neg hne, List.append_nil]

theorem Chain.sameSent (h : Chain P n e m m') (hi : i ≠ n) : SameSent i m m' := by
  induction h with
  | refl => rfl
  | tail _ hatom ih => exact Eq.trans (hatom.sameSent hi) ih

/-- A call that was not made has written nothing. -/
theorem meshRun_unsent (hm : Pristine m) (ms : List (Move Event Unit)) :
    ∀ i, (meshRun P m ms).calls.length ≤ i → (meshRun P m ms).shared.sentBy i = [] := by
  induction ms using List.reverseRecOn with
  | nil =>
      intro i _
      show m.sentBy i = []
      unfold Mesh.sentBy Mesh.sentLog
      rw [hm.sent]
      rfl
  | append_singleton ms mv ih =>
      rw [meshRun_concat]
      cases meshRun_stepCase (P := P) hm.counted ms mv with
      | idle _ hidle =>
          rw [hidle]
          exact ih
      | start e m₀ st hE hG hcalls _ =>
          intro i hi
          rw [hcalls, List.length_append] at hi
          have hne : i ≠ (meshRun P m ms).calls.length := Nat.ne_of_gt hi
          have hsame := sentBy_of_sent (n := i) hE.logs.1
          exact (Eq.trans (hG.chain.sameSent hne) hsame).trans (ih i (Nat.le_of_succ_le hi))
      | resume j e r k st hcall hG hcalls _ =>
          intro i hi
          rw [hcalls, List.length_set] at hi
          have hlt := (List.getElem?_eq_some_iff.mp hcall).1
          exact Eq.trans (hG.chain.sameSent (Nat.ne_of_gt (hlt.trans_le hi))) (ih i hi)

end Sent

/-! ## Negotiated MTUs -/

/-- The MTU cache holds what `negotiateMtu` returned. -/
def Negotiated (m : Mesh) : Prop :=
  ∀ deviceId mtu, m.mtuCache.get? deviceId = some mtu → ∃ getMtu, mtu = clampMtu getMtu

section Negotiated

variable {P : Primitives} {n : ℕ} {e : Event} {m m' : Mesh}

theorem Negotiated.of_mtuCache (hm : Negotiated m) (h : m'.mtuCache = m.mtuCache) :
    Negotiated m' := by
  intro deviceId mtu hget
  rw [h] at hget
  exact hm deviceId mtu hget

theorem Atom.negotiated (h : Atom P n e m m') (hm : Negotiated m) : Negotiated m' := by
  cases h with
  | setMtu s c id hr =>
      intro deviceId mtu hget
      rw [InsMap.get?_set] at hget
      split at hget
      · cases hget
        exact ⟨c.getMtu, rfl⟩
      · exact hm deviceId mtu hget
  | clears r =>
      intro deviceId mtu hget
      cases hget
  | failHandshake _ cs _ _ =>
      obtain ⟨_, _, _, heq⟩ := failHandshake_onlyObjects cs m
      exact hm.of_mtuCache (by rw [heq])
  | setSession _ ref k s _ _ =>
      obtain ⟨_, _, _, heq⟩ := setSession_onlyObjects ref k s m
      exact hm.of_mtuCache (by rw [heq])
  | removed r j handle =>
      refine hm.of_mtuCache ?_
      unfold Mesh.launch
      dsimp only
      split
      · rfl
      · rfl
  | _ => exact hm.of_mtuCache rfl

theorem Enters.negotiated (h : Enters e m m') (hm : Negotiated m) : Negotiated m' := by
  have hdrop : ∀ (d : DeviceId) (m₁ : Mesh), Negotiated m₁ → Negotiated (m₁.disconnected d) := by
    intro d m₁ hm₁ deviceId mtu hget
    obtain ⟨_, _, heq⟩ := disconnected_eq d m₁
    rw [heq] at hget
    dsimp only at hget
    rw [InsMap.get?_delete] at hget
    split at hget
    · cases hget
    · exact hm₁ deviceId mtu hget
  cases h with
  | disconnected d => exact hdrop d _ (hm.of_mtuCache rfl)
  | dropped d => exact hdrop d _ (hm.of_mtuCache rfl)
  | connected d =>
      obtain ⟨_, heq⟩ := connectedInbound_eq d (m.number.inboundUp d)
      exact hm.of_mtuCache (by rw [heq]; rfl)
  | timeouts =>
      obtain ⟨_, _, _, heq⟩ := checkHandshakeTimeouts_onlyObjects m.number
      exact hm.of_mtuCache (by rw [heq]; rfl)
  | accepts p =>
      obtain ⟨_, _, _, heq⟩ := acceptPeer_onlyObjects p m.number
      exact hm.of_mtuCache (by rw [heq]; rfl)
  | rejects p =>
      obtain ⟨_, _, _, heq⟩ := rejectPeer_onlyObjects p m.number
      exact hm.of_mtuCache (by rw [heq]; rfl)
  | _ => exact hm.of_mtuCache rfl

theorem meshRun_negotiated (tofu : TofuStore) (now : ℕ) (ms : List (Move Event Unit)) :
    Negotiated (meshRun P (.initial tofu now) ms).shared :=
  meshRun_keeps (L := fun _ _ _ => True) (pristine_initial tofu now).counted
    (fun _ _ hget => nomatch hget) (fun _ _ _ _ henters _ _ hm => henters.negotiated hm)
    (fun _ _ _ _ hatom => hatom.negotiated) fun _ _ _ _ => trivial

theorem Negotiated.mtu (hm : Negotiated m) (deviceId : DeviceId) :
    ∃ getMtu, (m.mtuCache.get? deviceId).getD GATT_MTU_DEFAULT = clampMtu getMtu := by
  cases hget : m.mtuCache.get? deviceId with
  | none => exact ⟨.error .library, rfl⟩
  | some mtu => exact hm deviceId mtu hget

end Negotiated

/-! ## A call that resolves has written one frame -/

/-- Call `n` has written the chunks of one session frame, a ciphertext of its
argument. -/
def WroteFrame (P : Primitives) (n : ℕ) (frame : Bytes) (m : Mesh) : Prop :=
  ∃ f : CutFrame, f.frameType = FrameType.SessionData ∧ IsCiphertext P frame f.payload ∧
    m.sentBy n = f.chunks

section SendFrame

variable {P : Primitives} {n : ℕ} {m : Mesh} {p : PeerIdHex} {ref : ℕ} {deviceId : DeviceId}

/-- A triple of a call that relies on the chunks it has written. -/
abbrev Sends {α : Type} (n : ℕ) (Q : Mesh → Except JsError α → Prop) (co : MeshCo α) (m : Mesh) :
    Prop :=
  Co.Triple (SameSent n) (fun _ _ => True) Q co m

theorem sends_await {α : Type} {Q : Mesh → Except JsError α → Prop} {co : MeshCo α}
    (stable : ∀ m m' x, Q m x → SameSent n m m' → Q m' x) (h : Sends n Q co m) :
    Sends n Q (Co.await co) m :=
  Co.Triple.await (fun _ => trivial) stable h

theorem sends_chunks (writeRx : ℕ → Except JsError Unit) (chunks : List Bytes) :
    ∀ (i : ℕ) (written : List Bytes) (m : Mesh), m.sentBy n = written →
      Sends n (fun m x => x = .ok () → m.sentBy n = written ++ chunks)
        (sendChunks n p ref deviceId writeRx chunks i) m := by
  induction chunks with
  | nil =>
      intro i written m hm
      refine Co.Triple.value (fun _ => trivial) fun _ => ?_
      rw [List.append_nil]
      exact hm
  | cons chunk chunks ih =>
      intro i written m hm
      have hwritten : (logSent ⟨n, p, ref, deviceId, chunk⟩ m).sentBy n = written ++ [chunk] := by
        rw [sentBy_concat _ rfl, if_pos rfl, hm]
      refine Co.Triple.bind (Q := fun m (_ : Except JsError Unit) =>
        m.sentBy n = written ++ [chunk]) (fun _ _ _ _ _ => trivial) ?_ ?_ ?_
      · refine Co.Triple.assign_bind (fun _ _ _ _ _ => trivial) trivial ?_
        refine sends_await (Q := fun m (_ : Except JsError Unit) => m.sentBy n = written ++ [chunk])
          (fun m m' _ h hR => ?_) (Co.Triple.ofExcept (fun _ => trivial) hwritten)
        exact Eq.trans hR h
      · intro m' _ hm'
        refine (ih (i + 1) (written ++ [chunk]) m' hm').mono fun m x h hx => ?_
        rw [h hx, List.append_assoc]
        rfl
      · exact fun _ _ _ h => nomatch h

theorem sends_encrypt (k : ℕ) (s : RatchetSession) (frame : Bytes) (hm : m.sentBy n = []) :
    Sends n (fun m x => m.sentBy n = [] ∧ ∀ ciphertext, x = .ok ciphertext →
        IsCiphertext P frame ciphertext)
      (onSession ref k s (RatchetSession.encrypt P frame [])) m := by
  have hleaves : ∀ (m : Mesh) s', (m.setSession ref k s').sent = m.sent := by
    intro m s'
    obtain ⟨_, _, _, heq⟩ := setSession_onlyObjects ref k s' m
    rw [heq]
  have hput : ∀ (m : Mesh) s', m.sentBy n = [] → (m.setSession ref k s').sentBy n = [] :=
    fun m s' h => Eq.trans (sentBy_of_sent (hleaves m s')) h
  -- The session computes a ciphertext, whatever happens to it meanwhile.
  have hencrypt : ∀ s : RatchetSession,
      (RatchetSession.encrypt P frame [] s : Outcome Unit _ _ _).Sat (fun _ => True)
        (fun _ _ => True) (fun _ _ => True)
        (fun _ x => ∀ ciphertext, x = .ok ciphertext → IsCiphertext P frame ciphertext) s := by
    intro s
    refine ⟨trivial, trivial, fun _ _ _ _ => ⟨trivial, trivial, fun _ _ _ _ => ⟨trivial, ?_⟩⟩⟩
    intro ciphertext hciphertext
    cases hciphertext
    exact ⟨s.sendChain, s.localDir, s.sendCounter, rfl⟩
  refine Outcome.Sat.assume (U := fun m : Mesh => m.sentBy n = [])
    (fun m m' h hR => Eq.trans hR h) ?_
  refine Outcome.Sat.zoom ?_ ?_ ?_ ?_ ⟨trivial, hm⟩ (hencrypt _)
  · exact fun m s' h _ _ => ⟨trivial, hput m s' h.2⟩
  · exact fun _ _ _ _ _ _ _ => ⟨trivial, trivial⟩
  · exact fun _ _ _ _ => trivial
  · exact fun m s' _ h _ hx => ⟨hput m s' h.2, hx⟩

theorem sends_ciphertext (frame : Bytes) (writeRx : ℕ → Except JsError Unit) (k mtu : ℕ)
    (s : RatchetSession) (hm : m.sentBy n = []) (hmtu : ∃ getMtu, mtu = clampMtu getMtu) :
    Sends n (fun m x => x = .ok () → WroteFrame P n frame m)
      (do
        let ciphertext ← Co.await (onSession ref k s (RatchetSession.encrypt P frame []))
        let chunks ← Co.ofExcept (chunkFrame ciphertext mtu FrameType.SessionData)
        sendChunks n p ref deviceId writeRx chunks 0) m := by
  obtain ⟨getMtu, rfl⟩ := hmtu
  refine Co.Triple.bind (fun _ _ _ _ _ => trivial)
    (sends_await (fun m m' x h hR => ?_) (sends_encrypt k s frame hm)) ?_ ?_
  · exact ⟨Eq.trans hR h.1, h.2⟩
  · intro m₁ ciphertext hm₁
    cases hcut : chunkFrame ciphertext (clampMtu getMtu) FrameType.SessionData with
    | error err => exact Co.Triple.raise (fun _ => trivial) fun h => nomatch h
    | ok chunks =>
        refine (sends_chunks writeRx chunks 0 [] m₁ hm₁.1).mono fun m x h hx => ?_
        exact ⟨⟨ciphertext, clampMtu getMtu, _, chunks, ⟨getMtu, rfl⟩, hcut⟩, rfl,
          hm₁.2 ciphertext rfl, h hx⟩
  · exact fun _ _ _ h => nomatch h

/-- **A call that resolves has written one frame**, if it had written nothing. -/
theorem sends_frame (frame : Bytes) (writeRx : ℕ → Except JsError Unit) (hm : m.sentBy n = [])
    (hmtu : Negotiated m) :
    Sends n (fun m x => x = .ok () → WroteFrame P n frame m) (sendFrame P n p frame writeRx) m := by
  show Outcome.Sat _ _ _ _ _ _
  unfold sendFrame
  simp only [Co.bind_apply, Co.get_apply, Outcome.bind]
  cases m.sendTarget p with
  | error err =>
      refine ⟨trivial, fun h => ?_⟩
      cases h
  | ok t => exact sends_ciphertext frame writeRx _ _ t.session hm (hmtu.mtu t.deviceId)

theorem WroteFrame.sameSent {frame : Bytes} {m' : Mesh} (h : WroteFrame P n frame m)
    (hsame : SameSent n m m') : WroteFrame P n frame m' := by
  obtain ⟨f, htype, hciphertext, hwritten⟩ := h
  exact ⟨f, htype, hciphertext, Eq.trans hsame hwritten⟩

theorem meshRun_wrote (tofu : TofuStore) (now : ℕ) (ms : List (Move Event Unit)) {frame : Bytes}
    {writeRx : ℕ → Except JsError Unit}
    (hcall : (meshRun P (.initial tofu now) ms).calls[n]? =
      some ⟨.sendFrame p frame writeRx, .settled (.ok ())⟩) :
    WroteFrame P n frame (meshRun P (.initial tofu now) ms).shared := by
  have hpristine := pristine_initial tofu now
  have hsound := meshRun_sound_with (P := P) (L := fun _ _ _ => True) (R := SameSent)
    (Q := fun i e m x => ∀ p frame writeRx, e = .sendFrame p frame writeRx → x = .ok () →
      WroteFrame P i frame m) hpristine.counted
    (show Pool.Each _ _ _ ms from fun _ _ _ _ => trivial) (fun _ _ => rfl)
    (fun _ _ _ _ h h' => Eq.trans h' h) ?_ ?_ ?_
  · obtain ⟨m₁, ⟨-, hwrote⟩, -, hsame⟩ := hsound.settled n _ _ hcall
    exact (hwrote p frame writeRx rfl rfl).sameSent hsame
  · intro i e m₁ m₀ m' hi henters hsegment _
    exact Eq.trans (hsegment.chain.sameSent (Nat.ne_of_lt hi)) (sentBy_of_sent henters.logs.1)
  · exact fun i j e r m₁ m' hne hsegment _ => hsegment.chain.sameSent hne
  · intro pre e post _
    have hcalls := (meshRun_sound (P := P) hpristine.counted pre).count.1
    have hunsent := meshRun_unsent (P := P) hpristine pre _ (le_of_eq hcalls.symm)
    have hmtu := meshRun_negotiated (P := P) tofu now pre
    cases e with
    | sendFrame p frame writeRx =>
        have hsends := sends_frame (P := P) (p := p) frame writeRx
          (show (meshRun P (.initial tofu now) pre).shared.number.sentBy _ = [] from hunsent) hmtu
        refine Outcome.Sat.precede (fun _ _ => trivial) (Co.Triple.attempt_bind
          (fun _ _ _ _ _ => trivial) hsends fun m₁ x hwrote => ?_)
        cases x with
        | error err => exact ⟨trivial, fun _ _ _ _ h => nomatch h⟩
        | ok u =>
            refine ⟨trivial, fun p' frame' writeRx' he _ => ?_⟩
            cases he
            exact hwrote rfl
    | _ =>
        refine ((Outcome.sat_true _ _).rely fun _ _ _ => trivial).mono (fun _ _ h => h) ?_
        exact fun _ _ _ _ _ _ he => nomatch he

end SendFrame

/-! ## The receiver -/

/-- The chunks of these calls, in the order in which they were written. -/
def Mesh.linkLog (calls : List ℕ) (m : Mesh) : List (ℕ × Bytes) :=
  m.sentLog.filter fun entry => entry.1 ∈ calls

theorem writtenBy_linkLog {calls : List ℕ} {i : ℕ} (hi : i ∈ calls) (m : Mesh) :
    writtenBy i (m.linkLog calls) = m.sentBy i := by
  unfold writtenBy Mesh.linkLog Mesh.sentBy
  rw [List.filter_filter]
  refine congrArg (List.map Prod.snd) (List.filter_congr fun entry _ => ?_)
  by_cases hentry : entry.1 = i
  · simp [hentry, hi]
  · simp [hentry]

/-- **When concurrent sends do not mix.** Any calls of `sendFrame` for a peer that
resolved, in any run, have each written one frame, a ciphertext of what they were
called with. A link that delivers their chunks in the order they were written
brings the receiver each of these frames once and nothing else, if and only if
the calls wrote one after another. -/
theorem concurrent_sends_iff (P : Primitives) (tofu : TofuStore) (now : ℕ)
    (ms : List (Move Event Unit)) (p : PeerIdHex) (calls : List ℕ) (hnodup : calls.Nodup)
    (hcalls : ∀ i ∈ calls, ∃ plaintext writeRx, (meshRun P (.initial tofu now) ms).calls[i]? =
      some ⟨.sendFrame p plaintext writeRx, .settled (.ok ())⟩) :
    ∃ frame : ℕ → CutFrame,
      (∀ i ∈ calls, (frame i).frameType = FrameType.SessionData ∧
        (meshRun P (.initial tofu now) ms).shared.sentBy i = (frame i).chunks ∧
        ∀ c ∈ (meshRun P (.initial tofu now) ms).calls[i]?, ∀ plaintext writeRx,
          c.arg = .sendFrame p plaintext writeRx → IsCiphertext P plaintext (frame i).payload) ∧
      ((receiveAll new (((meshRun P (.initial tofu now) ms).shared.linkLog calls).map
            Prod.snd)).2.Perm (calls.map fun i => (frame i).frame) ↔
        OneAfterAnother calls ((meshRun P (.initial tofu now) ms).shared.linkLog calls)) := by
  have hframe : ∀ i, ∃ f : CutFrame, i ∈ calls → f.frameType = FrameType.SessionData ∧
      (meshRun P (.initial tofu now) ms).shared.sentBy i = f.chunks ∧
      ∀ c ∈ (meshRun P (.initial tofu now) ms).calls[i]?, ∀ plaintext writeRx,
        c.arg = .sendFrame p plaintext writeRx → IsCiphertext P plaintext f.payload := by
    intro i
    by_cases hi : i ∈ calls
    · obtain ⟨plaintext, writeRx, hcall⟩ := hcalls i hi
      obtain ⟨f, htype, hciphertext, hwritten⟩ := meshRun_wrote tofu now ms hcall
      refine ⟨f, fun _ => ⟨htype, hwritten, fun c hc plaintext' writeRx' harg => ?_⟩⟩
      rw [hcall] at hc
      cases hc
      cases harg
      exact hciphertext
    · exact ⟨sampleFrame 1 0 Nat.one_pos (by decide), fun h => absurd h hi⟩
  choose frame hframe using hframe
  refine ⟨frame, hframe, ?_⟩
  apply frames_come_out_iff hnodup
  · intro entry hentry
    exact of_decide_eq_true (List.mem_filter.mp hentry).2
  · intro i hi
    rw [writtenBy_linkLog hi]
    exact (hframe i hi).2.1

/-! ### Two calls after one another, and two that mix -/

/-- Two frames of 300 bytes for the accepted peer, which takes two chunks each. -/
def sendsTwo : List (Move Event Unit) :=
  alone 9 (.sendFrame "0202020202020202" (List.replicate 300 1) fun _ => .ok ()) 20 ++
    alone 10 (.sendFrame "0202020202020202" (List.replicate 300 2) fun _ => .ok ()) 20

/-- The same, but the two calls take turns. -/
def mixesTwo : List (Move Event Unit) :=
  [.start (.sendFrame "0202020202020202" (List.replicate 300 1) fun _ => .ok ()),
    .start (.sendFrame "0202020202020202" (List.replicate 300 2) fun _ => .ok ())] ++
    (List.replicate 20 [Move.resume 9 (), Move.resume 10 ()]).flatten

theorem one_send_after_another :
    let m := (meshRun .sample (.initial .empty 0) (acceptsPeer ++ sendsTwo)).shared
    OneAfterAnother [9, 10] (m.linkLog [9, 10]) ∧
      ((receiveAll new ((m.linkLog [9, 10]).map Prod.snd)).2.map fun f => f.payload.length) =
        [324, 324] ∧
      ∃ frame : ℕ → CutFrame, (∀ i ∈ [9, 10], m.sentBy i = (frame i).chunks) ∧
        (receiveAll new ((m.linkLog [9, 10]).map Prod.snd)).2.Perm
          ([9, 10].map fun i => (frame i).frame) := by
  have hcalls : ∀ i ∈ [9, 10], ∃ plaintext writeRx,
      (meshRun .sample (.initial .empty 0) (acceptsPeer ++ sendsTwo)).calls[i]? =
        some ⟨.sendFrame "0202020202020202" plaintext writeRx, .settled (.ok ())⟩ := by
    have hstarts : ∀ i, (starts (acceptsPeer ++ sendsTwo))[9 + i]? = (starts sendsTwo)[i]? := by
      intro i
      have hlength : (starts acceptsPeer).length = 9 := by decide +kernel
      rw [starts_append, ← hlength, List.getElem?_append_right (Nat.le_add_right _ _),
        Nat.add_sub_cancel_left]
    intro i hi
    simp only [List.mem_cons, List.not_mem_nil, or_false] at hi
    rcases hi with rfl | rfl
    · exact ⟨_, _, Pool.exec_resolved (hstarts 0) (by decide +kernel)⟩
    · exact ⟨_, _, Pool.exec_resolved (hstarts 1) (by decide +kernel)⟩
  have hturns : OneAfterAnother [9, 10]
      ((meshRun .sample (.initial .empty 0) (acceptsPeer ++ sendsTwo)).shared.linkLog [9, 10]) :=
    ⟨[9, 10], .refl _, by decide +kernel⟩
  obtain ⟨frame, hframe, hiff⟩ := concurrent_sends_iff .sample .empty 0 (acceptsPeer ++ sendsTwo)
    "0202020202020202" [9, 10] (by decide) hcalls
  exact ⟨hturns, by decide +kernel, frame, fun i hi => (hframe i hi).2.1, hiff.mpr hturns⟩

/-- Both calls resolve, each wrote two chunks, and one frame comes out. -/
theorem mixed_sends_lose_a_frame :
    let p := meshRun .sample (.initial .empty 0) (acceptsPeer ++ mixesTwo)
    (∀ i ∈ [9, 10], (p.calls[i]?.bind fun c => c.status.value?) = some () ∧
        (p.shared.sentBy i).length = 2) ∧
      (receiveAll new ((p.shared.linkLog [9, 10]).map Prod.snd)).2.length = 1 := by
  decide +kernel

end Oxpulse.Transport
