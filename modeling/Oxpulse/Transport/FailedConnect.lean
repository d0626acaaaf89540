import Oxpulse.Transport.BackoffWindow

/-!
# What a failed connect attempt leaves

The catch block of the scan callback arms the backoff and nothing else. Where
the link never came up there is nothing else to undo. Once it is up, a failed
service discovery or subscription leaves it up, and the subscription leaves the
MTU that was cached before it. So a failed attempt leaves nothing behind exactly
when its `connect` failed (`failed_attempt_leaves_iff`).
-/

namespace Oxpulse.Transport

open Oxpulse.Coroutine Oxpulse.Crypto

/-- The module, apart from the backoff entries of the device and from how far the
calls are. -/
def Mesh.exceptBackoff (deviceId : DeviceId) (m : Mesh) : Mesh :=
  { m with
    backoff := m.backoff.delete deviceId
    backoffCounts := m.backoffCounts.delete deviceId
    calls := 0
    flights := .empty }

/-- Unless the steps of others change what `f` reads, it reads the same after the
event's call and `mid` as before. -/
def LeavesAlone {α : Type} (P : Primitives) (p : MeshPool) (e : Event) (mid : List (Move Event Unit))
    (f : Mesh → α) : Prop :=
  Pool.Each (handle P) (p.step (handle P) (.start e))
      (fun mv m m' => Pool.resumes p.calls.length mv = false → f m' = f m) mid →
    f ((p.step (handle P) (.start e)).exec (handle P) mid).shared = f p.shared

/-- A link that a step of the event's call opens is down again before the end of
`mid`. -/
def ClosesLinks (P : Primitives) (p : MeshPool) (e : Event) (mid : List (Move Event Unit))
    (deviceId : DeviceId) : Prop :=
  ∀ front mv back, mid = front ++ mv :: back → Pool.resumes p.calls.length mv = true →
    deviceId ∉ ((p.step (handle P) (.start e)).exec (handle P) front).shared.native.outbound →
    deviceId ∈
      ((p.step (handle P) (.start e)).exec (handle P) (front ++ [mv])).shared.native.outbound →
    ∃ back' rest, back = back' ++ rest ∧ deviceId ∉
      ((p.step (handle P) (.start e)).exec (handle P) (front ++ mv :: back')).shared.native.outbound

/-- The attempt leaves nothing behind for the device. -/
structure LeavesNothing (P : Primitives) (p : MeshPool) (e : Event) (mid : List (Move Event Unit))
    (deviceId : DeviceId) : Prop where
  link : ClosesLinks P p e mid deviceId
  connectedDevices : LeavesAlone P p e mid fun m => m.connectedDevices.get? deviceId
  mtuCache : LeavesAlone P p e mid fun m => m.mtuCache.get? deviceId
  reassemblers : LeavesAlone P p e mid fun m => m.reassemblers.get? deviceId
  cryptoStates : LeavesAlone P p e mid fun m => m.cryptoStates.get? deviceId
  registry : LeavesAlone P p e mid fun m => m.registry.list.filter fun peer => peer.mac == deviceId
  /-- Only the backoff entries change. -/
  rest : LeavesAlone P p e mid (Mesh.exceptBackoff deviceId)

/-! ## The segments of an attempt -/

section Attempt

variable {P : Primitives} {m : Mesh} {s : Mesh.PeerSighting} {c : ConnectReplies}
  {id : IdentityReplies} {hr : HandshakeReplies}

theorem exceptBackoff_armBackoff (d : DeviceId) (m : Mesh) :
    (m.armBackoff d).exceptBackoff d = m.exceptBackoff d := by
  unfold Mesh.armBackoff Mesh.exceptBackoff
  dsimp only
  rw [InsMap.delete_set_self, InsMap.delete_set_self]

/-- Where `connect` fails, all that happens is the catch block. -/
theorem handle_unreachable {err : JsError} (h : m.Connects s.deviceId)
    (hc : c.connect = .error err) :
    handle P (.sighting s c id hr) m =
      .await (m.number.launch m.calls (.connecting s.deviceId)) fun _ m₁ =>
        .await m₁ fun _ m₂ => .ret ((m₂.armBackoff s.deviceId).land m.calls) () := by
  rw [handle_attempt h]
  unfold landing connectPeer connect
  rw [hc]
  rfl

variable (P id hr) in
/-- Where it succeeds, the link is up after the first reply. -/
theorem handle_linked (h : m.Connects s.deviceId) (hc : c.connect = .ok ()) :
    ∃ k, handle P (.sighting s c id hr) m =
        .await (m.number.launch m.calls (.connecting s.deviceId)) k ∧
      ∀ r m₁, s.deviceId ∈ (k r m₁).state.native.outbound := by
  rw [handle_attempt h]
  unfold landing connectPeer connect
  rw [hc]
  refine ⟨_, rfl, fun _ m₁ => ?_⟩
  cases c.discoverServices with
  | ok u => exact Finset.mem_insert_self _ _
  | error err => exact Finset.mem_insert_self _ _

/-- Each segment of an attempt whose `connect` fails keeps all but the backoff. -/
theorem gives_unreachable {err : JsError} (h : m.Connects s.deviceId)
    (hc : c.connect = .error err) :
    Pool.Gives (fun m m' => m'.exceptBackoff s.deviceId = m.exceptBackoff s.deviceId)
      (handle P (.sighting s c id hr) m).status := by
  rw [handle_unreachable h hc]
  exact fun _ m₁ => ⟨trivial, rfl, fun _ m₂ _ _ =>
    ⟨exceptBackoff_armBackoff s.deviceId m₂, trivial⟩⟩

end Attempt

/-! ## Schedules -/

section Schedules

variable {P : Primitives} {p : MeshPool} {s : Mesh.PeerSighting} {c : ConnectReplies}
  {id : IdentityReplies} {hr : HandshakeReplies} {mid : List (Move Event Unit)}

/-- The call that the event starts. -/
theorem started (e : Event) :
    (p.step (handle P) (.start e)).calls[p.calls.length]? =
      some ⟨e, (handle P e p.shared).status⟩ :=
  List.getElem?_concat_length

section Unreachable

variable {err : JsError}

variable (P id hr mid) in
theorem each_unreachable (h : p.shared.Connects s.deviceId) (hc : c.connect = .error err) :
    Pool.Each (handle P) (p.step (handle P) (.start (.sighting s c id hr)))
      (fun mv m m' => Pool.resumes p.calls.length mv = true →
        m'.exceptBackoff s.deviceId = m.exceptBackoff s.deviceId) mid :=
  Pool.each_own (G := fun m m' : Mesh => m'.exceptBackoff s.deviceId = m.exceptBackoff s.deviceId)
    (fun _ => rfl) (started _) (gives_unreachable h hc) mid

/-- What does not depend on the backoff is left alone when `connect` fails. -/
theorem leavesAlone_unreachable {α : Type} {f : Mesh → α} (h : p.shared.Connects s.deviceId)
    (hc : c.connect = .error err)
    (hf : ∀ m m', m'.exceptBackoff s.deviceId = m.exceptBackoff s.deviceId → f m' = f m) :
    LeavesAlone P p (.sighting s c id hr) mid f := by
  intro hothers
  have hown := each_unreachable P id hr mid h hc
  have hentry : f (p.step (handle P) (.start (.sighting s c id hr))).shared = f p.shared := by
    apply hf
    show (handle P (.sighting s c id hr) p.shared).state.exceptBackoff s.deviceId = _
    rw [handle_unreachable h hc]
    rfl
  refine Pool.exec_keeps (J := fun m => f m = f p.shared) hentry fun pre mv post heq hpre => ?_
  rw [← hpre]
  cases hmv : Pool.resumes p.calls.length mv with
  | true => exact hf _ _ (hown pre mv post heq hmv)
  | false => exact hothers pre mv post heq hmv

theorem leavesAlone_field {α : Type} {f : Mesh → α} (h : p.shared.Connects s.deviceId)
    (hc : c.connect = .error err) (hf : ∀ m, f (m.exceptBackoff s.deviceId) = f m) :
    LeavesAlone P p (.sighting s c id hr) mid f := by
  refine leavesAlone_unreachable h hc fun m m' heq => ?_
  rw [← hf m', heq, hf m]

theorem closesLinks_unreachable (h : p.shared.Connects s.deviceId) (hc : c.connect = .error err) :
    ClosesLinks P p (.sighting s c id hr) mid s.deviceId := by
  intro front mv back heq hmv hdown hup
  have hown := each_unreachable P id hr mid h hc front mv back heq hmv
  have hnative : ∀ m m' : Mesh, m'.exceptBackoff s.deviceId = m.exceptBackoff s.deviceId →
      m'.native.outbound = m.native.outbound := by
    intro m m' h
    have hfield := congrArg (fun a : Mesh => a.native.outbound) h
    exact hfield
  rw [Pool.exec_concat, hnative _ _ hown] at hup
  exact absurd hup hdown

theorem leavesNothing_unreachable (h : p.shared.Connects s.deviceId)
    (hc : c.connect = .error err) :
    LeavesNothing P p (.sighting s c id hr) mid s.deviceId where
  link := closesLinks_unreachable h hc
  connectedDevices := leavesAlone_field h hc fun _ => rfl
  mtuCache := leavesAlone_field h hc fun _ => rfl
  reassemblers := leavesAlone_field h hc fun _ => rfl
  cryptoStates := leavesAlone_field h hc fun _ => rfl
  registry := leavesAlone_field h hc fun _ => rfl
  rest := leavesAlone_unreachable h hc fun _ _ heq => heq

end Unreachable

/-- An assignment closes no link. -/
theorem Atom.outbound {n : ℕ} {e : Event} {m m' : Mesh} (h : Atom P n e m m') :
    m.native.outbound ⊆ m'.native.outbound := by
  cases h with
  | linkUp s => exact Finset.subset_insert _ _
  | failHandshake _ cs =>
      obtain ⟨_, _, _, heq⟩ := failHandshake_onlyObjects cs m
      rw [heq]
  | setSession _ ref k s =>
      obtain ⟨_, _, _, heq⟩ := setSession_onlyObjects ref k s m
      rw [heq]
  | removed r i handle =>
      split
      · exact Finset.Subset.refl _
      · exact Finset.Subset.refl _
  | _ => exact Finset.Subset.refl _

variable {m : Mesh}

/-- Resuming a call closes no link. -/
theorem meshRun_outbound (hm : Counted 0 m) (ms : List (Move Event Unit)) (i : ℕ) (u : Unit) :
    (meshRun P m ms).shared.native.outbound ⊆
      (meshRun P m (ms ++ [.resume i u])).shared.native.outbound := by
  rw [meshRun_concat]
  cases meshRun_stepCase (P := P) hm ms (.resume i u) with
  | idle _ hidle =>
      rw [hidle]
  | resume _ e _ k st _ hG _ _ =>
      exact hG.chain.keeps (J := fun m' => (meshRun P m ms).shared.native.outbound ⊆
        m'.native.outbound) (fun _ _ hatom hsub => hsub.trans hatom.outbound)
        (Finset.Subset.refl _)

theorem meshRun_outbound_replicate (hm : Counted 0 m) (ms : List (Move Event Unit)) (i : ℕ)
    (u : Unit) (k : ℕ) :
    (meshRun P m ms).shared.native.outbound ⊆
      (meshRun P m (ms ++ List.replicate k (.resume i u))).shared.native.outbound := by
  induction k with
  | zero =>
      rw [List.replicate_zero, List.append_nil]
  | succ k ih =>
      rw [List.replicate_succ', ← List.append_assoc]
      exact ih.trans (meshRun_outbound hm _ i u)

/-- The report of a disconnect closes the link. -/
theorem outbound_disconnected (P : Primitives) (p : MeshPool) (d : DeviceId) :
    d ∉ (p.step (handle P) (.start (.disconnected d))).shared.native.outbound := by
  show d ∉ (((p.shared.number.outboundDown d).disconnected d).land p.shared.calls).native.outbound
  obtain ⟨_, _, heq⟩ := disconnected_eq d (p.shared.number.outboundDown d)
  rw [heq]
  exact Finset.notMem_erase d _

/-- The device is reported down while the attempt waits for the link, which then
comes up; the attempt goes on alone. -/
def linkComesUp (d : DeviceId) (i k : ℕ) : List (Move Event Unit) :=
  .start (.disconnected d) :: .resume i () :: List.replicate k (.resume i ())

variable (P id hr) in
/-- Once `connect` has resolved there is a schedule in which the attempt opened
the link, and it is up to its end. -/
theorem leaves_link (hm : Counted 0 m) (pre : List (Move Event Unit))
    (h : (meshRun P m pre).shared.Connects s.deviceId) (hc : c.connect = .ok ()) :
    ∃ mid x, (((meshRun P m pre).step (handle P) (.start (.sighting s c id hr))).exec (handle P)
        mid).calls[(meshRun P m pre).calls.length]? = some ⟨.sighting s c id hr, .settled x⟩ ∧
      ¬ ClosesLinks P (meshRun P m pre) (.sighting s c id hr) mid s.deviceId := by
  obtain ⟨k₀, hk₀, hup⟩ := handle_linked P id hr h hc
  generalize Event.sighting s c id hr = e at hk₀ ⊢
  generalize hi : (meshRun P m pre).calls.length = i
  generalize hp₂ : ((meshRun P m pre).step (handle P) (.start e)).step (handle P)
    (.start (.disconnected s.deviceId)) = p₂
  have hcall : p₂.calls[i]? = some ⟨e, .pending k₀⟩ := by
    have hstarted := started (P := P) (p := meshRun P m pre) e
    rw [hk₀, hi] at hstarted
    rw [← hp₂]
    show (((meshRun P m pre).step (handle P) (.start e)).calls ++ [_])[i]? = _
    rw [List.getElem?_append_left (List.getElem?_eq_some_iff.mp hstarted).1, hstarted]
    rfl
  have hdown : s.deviceId ∉ p₂.shared.native.outbound := by
    rw [← hp₂]
    exact outbound_disconnected P _ s.deviceId
  have hopened : p₂.step (handle P) (.resume i ()) = _ := Pool.resume_of_pending hcall ()
  have hopen : s.deviceId ∈ (p₂.step (handle P) (.resume i ())).shared.native.outbound := by
    rw [hopened]
    exact hup () p₂.shared
  obtain ⟨k, -, hsettled⟩ := Pool.exists_exec_replicate (handle P) () i e
    (k₀ () p₂.shared) (p₂.step (handle P) (.resume i ()))
    (by rw [hopened]; exact List.getElem?_set_self (List.getElem?_eq_some_iff.mp hcall).1)
    (by rw [hopened])
  have hrun : ∀ mid, (p₂.step (handle P) (.resume i ())).exec (handle P) mid =
      meshRun P m (pre ++ [.start e, .start (.disconnected s.deviceId), .resume i ()] ++ mid) := by
    intro mid
    rw [← hp₂, List.append_assoc]
    exact (Pool.exec_append pre
      (.start e :: .start (.disconnected s.deviceId) :: .resume i () :: mid)).symm
  have hend : ∀ mid, ((meshRun P m pre).step (handle P) (.start e)).exec (handle P)
      (.start (.disconnected s.deviceId) :: .resume i () :: mid) =
        (p₂.step (handle P) (.resume i ())).exec (handle P) mid := by
    intro mid
    rw [← hp₂]
    rfl
  refine ⟨linkComesUp s.deviceId i k, _, (congrArg (·.calls[i]?) (hend _)).trans hsettled, ?_⟩
  intro hcloses
  unfold ClosesLinks at hcloses
  rw [hi] at hcloses
  obtain ⟨back', rest, hback, hclosed⟩ := hcloses [.start (.disconnected s.deviceId)] (.resume i ())
    (List.replicate k (.resume i ())) rfl (by simp [Pool.resumes])
    (by rw [← hp₂] at hdown; exact hdown) (by rw [← hp₂] at hopen; exact hopen)
  obtain ⟨-, hback', -⟩ := List.append_eq_replicate_iff.mp hback.symm
  have hstill := meshRun_outbound_replicate (P := P) hm
    (pre ++ [.start e, .start (.disconnected s.deviceId), .resume i ()]) i () back'.length
  rw [← hback', ← hrun] at hstill
  apply hclosed
  show _ ∈ (((meshRun P m pre).step (handle P) (.start e)).exec (handle P)
      (.start (.disconnected s.deviceId) :: .resume i () :: back')).shared.native.outbound
  rw [hend]
  apply hstill
  rw [← List.append_nil (pre ++ _), ← hrun]
  exact hopen

end Schedules

/-- **A failed connect attempt leaves nothing behind**, whatever happens while it
is under way, exactly when nothing fails once `connect` has resolved. -/
theorem failed_attempt_leaves_iff (P : Primitives) (tofu : TofuStore) (now : ℕ)
    (pre : List (Move Event Unit)) (s : Mesh.PeerSighting) (c : ConnectReplies)
    (id : IdentityReplies) (hr : HandshakeReplies)
    (hconnects : (meshRun P (.initial tofu now) pre).shared.Connects s.deviceId) :
    (∀ mid x, ¬ c.Succeeds →
      (((meshRun P (.initial tofu now) pre).step (handle P) (.start (.sighting s c id hr))).exec
        (handle P) mid).calls[(meshRun P (.initial tofu now) pre).calls.length]? =
          some ⟨.sighting s c id hr, .settled x⟩ →
      LeavesNothing P (meshRun P (.initial tofu now) pre) (.sighting s c id hr) mid s.deviceId) ↔
    (c.connect = .ok () → c.Succeeds) := by
  constructor
  · intro hall hc
    by_contra hfails
    obtain ⟨mid, x, hsettled, hopen⟩ := leaves_link P id hr
      (pristine_initial tofu now).counted pre hconnects hc
    exact hopen (hall mid x hfails hsettled).link
  · intro hcond mid x hfails _
    cases hc : c.connect with
    | ok u => exact absurd (hcond hc) hfails
    | error err => exact leavesNothing_unreachable hconnects hc

/-! ### Failing sightings of a peer -/

/-- Peer 2 is sighted, and the native calls settle like this. -/
def sightingWith (c : ConnectReplies) : Event :=
  .sighting ⟨"A", -50, List.replicate 8 2⟩ c sampleIdentity sampleReplies

def unreachable : ConnectReplies := { sampleConnect with connect := .error .library }

def unsubscribed : ConnectReplies := { sampleConnect with startNotifications := .error .library }

/-- The mesh runs and no device was seen. -/
def meshRuns : MeshPool := meshRun .sample (.initial .empty 0) (alone 0 (.startMesh sampleStart) 12)

theorem unreachable_leaves_nothing :
    (∀ mid x, ¬ unreachable.Succeeds →
      ((meshRuns.step (handle .sample) (.start (sightingWith unreachable))).exec (handle .sample)
        mid).calls[meshRuns.calls.length]? = some ⟨sightingWith unreachable, .settled x⟩ →
      LeavesNothing .sample meshRuns (sightingWith unreachable) mid "A") ↔
    (unreachable.connect = .ok () → unreachable.Succeeds) :=
  failed_attempt_leaves_iff .sample .empty 0 (alone 0 (.startMesh sampleStart) 12)
    ⟨"A", -50, List.replicate 8 2⟩ unreachable sampleIdentity sampleReplies
    ⟨by decide +kernel, by decide +kernel, by decide +kernel⟩

/-- The subscription fails. The attempt ends, the link it opened stays up and the
MTU stays cached, and `connectedDevices` does not tell of them. -/
theorem failed_subscription_leaves_link :
    let post := (meshRuns.step (handle .sample) (.start (sightingWith unsubscribed))).exec
      (handle .sample) (List.replicate 12 (.resume 1 ()))
    meshRuns.shared.Connects "A" ∧ ¬ unsubscribed.Succeeds ∧
      (post.calls[1]?.map fun call => call.status.isPending) = some false ∧
      "A" ∉ meshRuns.shared.native.outbound ∧ "A" ∈ post.shared.native.outbound ∧
      post.shared.connectedDevices.has "A" = false ∧
      ¬ LeavesNothing .sample meshRuns (sightingWith unsubscribed)
        (List.replicate 12 (.resume 1 ())) "A" := by
  intro post
  have hlength : meshRuns.calls.length = 1 := by decide +kernel
  have hbefore : meshRuns.shared.mtuCache.get? "A" = none := by decide +kernel
  have hafter : post.shared.mtuCache.get? "A" = some 247 := by decide +kernel
  refine ⟨⟨by decide +kernel, by decide +kernel, by decide +kernel⟩, ?_, by decide +kernel,
    by decide +kernel, by decide +kernel, by decide +kernel, fun hnothing => ?_⟩
  · rintro ⟨-, -, hnotify⟩
    cases hnotify
  · have hsame : post.shared.mtuCache.get? "A" = meshRuns.shared.mtuCache.get? "A" := by
      apply hnothing.mtuCache
      intro front mv back heq hmv
      have hmem : mv ∈ List.replicate 12 (Move.resume 1 ()) := by
        rw [heq]
        exact List.mem_append_right _ List.mem_cons_self
      rw [List.eq_of_mem_replicate hmem, hlength] at hmv
      cases hmv
    rw [hbefore, hafter] at hsame
    cases hsame

end Oxpulse.Transport
