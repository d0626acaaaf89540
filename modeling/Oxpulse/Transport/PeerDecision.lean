import Oxpulse.Transport.MeshObjects

/-!
# Whom a decision reaches

`getPendingHandshakes` goes over all entries of `cryptoStates`, `acceptPeer` and
`rejectPeer` stop at the first one with the peer's id, whatever state it is in.
A peer that comes back under another address while its old entry is still there
is listed because of the new entry, but the decision is made on the old one. The
decision reaches a listed `CryptoState`, and one that is connected if there is
one, exactly when the first entry of the peer is of this kind
(`decision_reaches_iff`). `sendFrame` looks for a connected entry first.
-/

namespace Oxpulse.Transport

open Oxpulse.Coroutine Oxpulse.Crypto

/-! ## Entries of a peer -/

/-- Each device of `cryptoStates` has an object of its own. -/
structure OwnObjects (m : Mesh) : Prop where
  registered : ∀ d ref, m.cryptoStates.get? d = some ref → ref < m.objects.length
  distinct : ∀ d d' ref, m.cryptoStates.get? d = some ref →
    m.cryptoStates.get? d' = some ref → d = d'

/-- `getPendingHandshakes` lists the peer because of this entry. -/
structure Mesh.Listed (peerIdHex : PeerIdHex) (m : Mesh) (e : DeviceId × ℕ) : Prop where
  mem : e ∈ m.cryptoStates.entries
  peerIdHex : (m.object e.2).peerIdHex = peerIdHex
  awaits : Mesh.awaitsDecision (m.object e.2) = true

/-- The first entry with the id, in insertion order. -/
def Mesh.firstEntry (peerIdHex : PeerIdHex) (m : Mesh) : Option (DeviceId × ℕ) :=
  m.cryptoStates.entries.find? fun e => (m.object e.2).peerIdHex == peerIdHex

/-- The first entry of the peer is listed, and connected if a listed one is. -/
def Mesh.FirstIsListed (peerIdHex : PeerIdHex) (m : Mesh) : Prop :=
  ∃ e, m.firstEntry peerIdHex = some e ∧ m.Listed peerIdHex e ∧
    ((∃ e', m.Listed peerIdHex e' ∧ m.connectedDevices.has e'.1 = true) →
      m.connectedDevices.has e.1 = true)

/-- A listed entry of the peer has this verdict in `m'`, and a connected one if
there was one. -/
def Reaches (peerIdHex : PeerIdHex) (verdict : CryptoVerdict) (m m' : Mesh) : Prop :=
  ∃ e, m.Listed peerIdHex e ∧ (m'.object e.2).verdict = verdict ∧
    ((∃ e', m.Listed peerIdHex e' ∧ m.connectedDevices.has e'.1 = true) →
      m.connectedDevices.has e.1 = true)

section Entries

variable {m m' : Mesh} {p : PeerIdHex} {e : DeviceId × ℕ} {v : CryptoVerdict}

theorem findPeer_eq : m.findPeer p = (m.firstEntry p).map Prod.snd := by
  unfold Mesh.findPeer Mesh.firstEntry InsMap.values
  rw [List.find?_map]
  rfl

theorem Mesh.Listed.pending (h : m.Listed p e) : (m.object e.2).verdict = .pending := by
  have hawaits := h.awaits
  unfold Mesh.awaitsDecision at hawaits
  simp only [Bool.and_eq_true, beq_iff_eq] at hawaits
  exact hawaits.1.2

theorem OwnObjects.eq_of_ref (hm : OwnObjects m) {e' : DeviceId × ℕ}
    (he : e ∈ m.cryptoStates.entries) (he' : e' ∈ m.cryptoStates.entries) (href : e.2 = e'.2) :
    e = e' := by
  have hget : m.cryptoStates.get? e.1 = some e.2 := InsMap.get?_eq_some.mpr he
  have hget' : m.cryptoStates.get? e'.1 = some e'.2 := InsMap.get?_eq_some.mpr he'
  rw [← href] at hget'
  exact Prod.ext (hm.distinct _ _ _ hget hget') href

/-! ## Decisions -/

/-- What `acceptPeer` and `rejectPeer` do to the heap. -/
structure Decision (p : PeerIdHex) (v : CryptoVerdict) (m m' : Mesh) : Prop where
  pending : ∀ ref, m.findPeer p = some ref → (m.object ref).verdict = .pending →
    m'.objects = m.objects.set ref { m.object ref with verdict := v }
  decided : (∀ ref, m.findPeer p = some ref → (m.object ref).verdict ≠ .pending) →
    m'.objects = m.objects

theorem acceptPeer_decision (p : PeerIdHex) (m : Mesh) : Decision p .accepted m (m.acceptPeer p) := by
  constructor
  · intro ref hfind hv
    unfold Mesh.acceptPeer transitionVerdict
    simp only [hfind, hv]
    rfl
  · intro hnone
    rcases acceptPeer_cases p m with hsame | ⟨ref, hfind, hv, -⟩
    · rw [hsame]
    · exact absurd hv (hnone ref hfind)

theorem rejectPeer_decision (p : PeerIdHex) (m : Mesh) : Decision p .rejected m (m.rejectPeer p) := by
  constructor
  · intro ref hfind hv
    unfold Mesh.rejectPeer transitionVerdict
    simp only [hfind, hv]
    rfl
  · intro hnone
    rcases rejectPeer_cases p m with hsame | ⟨ref, hfind, hv, -⟩
    · rw [hsame]
    · exact absurd hv (hnone ref hfind)

/-- Only the object of the first entry changes. -/
theorem Decision.changed (h : Decision p v m m') (hm : OwnObjects m) (he : m.Listed p e)
    (hv : (m'.object e.2).verdict = v) (hne : v ≠ .pending) : m.firstEntry p = some e := by
  have hdecided : m'.objects ≠ m.objects := by
    intro hsame
    rw [object_of_objects hsame, he.pending] at hv
    exact hne hv.symm
  have hpending : ∃ ref, m.findPeer p = some ref ∧ (m.object ref).verdict = .pending := by
    by_contra hnone
    refine hdecided (h.decided fun ref hfind hv => hnone ⟨ref, hfind, hv⟩)
  obtain ⟨ref, hfind, hverdict⟩ := hpending
  have hset := h.pending ref hfind hverdict
  rw [findPeer_eq, Option.map_eq_some_iff] at hfind
  obtain ⟨first, hfirst, rfl⟩ := hfind
  have hmem : first ∈ m.cryptoStates.entries := List.mem_of_find?_eq_some hfirst
  by_cases href : first.2 = e.2
  · rw [← hm.eq_of_ref hmem he.mem href]
    exact hfirst
  · rw [object_of_set_ne hset href, he.pending] at hv
    exact absurd hv.symm hne

theorem Decision.reaches_iff (h : Decision p v m m') (hm : OwnObjects m) (hne : v ≠ .pending) :
    Reaches p v m m' ↔ m.FirstIsListed p := by
  constructor
  · rintro ⟨e, he, hv, hconnected⟩
    exact ⟨e, h.changed hm he hv hne, he, hconnected⟩
  · rintro ⟨e, hfirst, he, hconnected⟩
    have hfind : m.findPeer p = some e.2 := by
      rw [findPeer_eq, hfirst]
      rfl
    have hlt := hm.registered e.1 e.2 (InsMap.get?_eq_some.mpr he.mem)
    refine ⟨e, he, ?_, hconnected⟩
    rw [object_of_set_self (h.pending e.2 hfind he.pending) hlt]

end Entries

/-! ## The objects of a run -/

section Runs

variable {P : Primitives} {n : ℕ} {e : Event} {m m' : Mesh}

theorem OwnObjects.of_registered (hm : OwnObjects m) (hlength : m.objects.length ≤ m'.objects.length)
    (hsub : ∀ d ref, m'.cryptoStates.get? d = some ref → m.cryptoStates.get? d = some ref) :
    OwnObjects m' where
  registered := fun d ref hget => (hm.registered d ref (hsub d ref hget)).trans_le hlength
  distinct := fun d d' ref hget hget' => hm.distinct d d' ref (hsub d ref hget) (hsub d' ref hget')

theorem ownObjects_of_none (h : ∀ d, m.cryptoStates.get? d = none) : OwnObjects m where
  registered := fun d ref hget => by
    rw [h d] at hget
    cases hget
  distinct := fun d d' ref hget _ => by
    rw [h d] at hget
    cases hget

theorem Enters.ownObjects (h : Enters e m m') (hm : OwnObjects m) : OwnObjects m' :=
  hm.of_registered h.persists.length fun _ _ hget => h.registered hget

/-- A new object is registered for one device only. -/
theorem Atom.ownObjects (h : Atom P n e m m') (hm : OwnObjects m) : OwnObjects m' := by
  rcases h.cryptoStates_cases with hsame | ⟨d₀, c, -, hset, hobjects, -⟩ | ⟨-, hempty⟩
  · exact hm.of_registered h.alters.persists.length fun d ref hget => hsame ▸ hget
  · have hlength : m'.objects.length = m.objects.length + 1 := by
      rw [hobjects, List.length_append]
      rfl
    have hcases : ∀ d ref, m'.cryptoStates.get? d = some ref →
        (d = d₀ ∧ ref = m.objects.length) ∨ m.cryptoStates.get? d = some ref := by
      intro d ref hget
      rw [hset, InsMap.get?_set] at hget
      split at hget
      next heq =>
        cases hget
        exact Or.inl ⟨heq.symm, rfl⟩
      next => exact Or.inr hget
    constructor
    · intro d ref hget
      rcases hcases d ref hget with ⟨-, rfl⟩ | hold
      · omega
      · have hlt := hm.registered d ref hold
        omega
    · intro d d' ref hget hget'
      rcases hcases d ref hget with ⟨rfl, rfl⟩ | hold
      · rcases hcases d' _ hget' with ⟨rfl, -⟩ | hold'
        · rfl
        · exact absurd (hm.registered d' _ hold') (Nat.lt_irrefl _)
      · rcases hcases d' ref hget' with ⟨-, rfl⟩ | hold'
        · exact absurd (hm.registered d _ hold) (Nat.lt_irrefl _)
        · exact hm.distinct d d' ref hold hold'
  · apply ownObjects_of_none
    intro d
    rw [hempty]
    rfl

/-- In every run each device has an object of its own. -/
theorem meshRun_ownObjects (P : Primitives) (tofu : TofuStore) (now : ℕ)
    (ms : List (Move Event Unit)) : OwnObjects (meshRun P (.initial tofu now) ms).shared := by
  refine meshRun_keeps (L := fun _ _ _ => True) (pristine_initial tofu now).counted
    (ownObjects_of_none fun _ => rfl) (fun _ _ _ _ henters _ _ hm => henters.ownObjects hm)
    (fun _ _ _ _ hatom => hatom.ownObjects)
    fun _ _ _ _ => trivial

end Runs

/-- **A decision reaches the peer that is listed** exactly when the first entry
of the peer is listed, and connected if a listed one is. -/
theorem decision_reaches_iff (m : Mesh) (hm : OwnObjects m) (p : PeerIdHex) :
    (((∃ h ∈ m.getPendingHandshakes, h.peerIdHex = p) → Reaches p .accepted m (m.acceptPeer p)) ↔
      ((∃ h ∈ m.getPendingHandshakes, h.peerIdHex = p) → m.FirstIsListed p)) ∧
    (((∃ h ∈ m.getPendingHandshakes, h.peerIdHex = p) → Reaches p .rejected m (m.rejectPeer p)) ↔
      ((∃ h ∈ m.getPendingHandshakes, h.peerIdHex = p) → m.FirstIsListed p)) := by
  have haccept : Reaches p .accepted m (m.acceptPeer p) ↔ m.FirstIsListed p :=
    (acceptPeer_decision p m).reaches_iff hm (by decide)
  have hreject : Reaches p .rejected m (m.rejectPeer p) ↔ m.FirstIsListed p :=
    (rejectPeer_decision p m).reaches_iff hm (by decide)
  exact ⟨imp_congr_right fun _ => haccept, imp_congr_right fun _ => hreject⟩

/-! ### A peer that comes back under another address -/

/-- Peer 2 is sighted and shakes hands. -/
def meetsPeer : List (Move Event Unit) :=
  alone 0 (.startMesh sampleStart) 12 ++ alone 1 (sightingOf 2 "A") 40 ++
    arrives "A" 40 2 (chunksOf sampleMsg2 FrameType.HandshakeMsg2)

/-- Its handshake over one address stalls until the timeout, and is completed
over another one. -/
def comesBack : List (Move Event Unit) :=
  alone 0 (.startMesh sampleStart) 12 ++ alone 1 (sightingOf 2 "A") 40 ++
    [.start (.clock 16000), .start .timeoutTick] ++ alone 4 (sightingOf 2 "B") 40 ++
    arrives "B" 40 5 (chunksOf sampleMsg2 FrameType.HandshakeMsg2)

theorem decision_reaches_met_peer :
    let m := (meshRun .sample (.initial .empty 0) meetsPeer).shared
    (((∃ h ∈ m.getPendingHandshakes, h.peerIdHex = "0202020202020202") →
        Reaches "0202020202020202" .accepted m (m.acceptPeer "0202020202020202")) ↔
      ((∃ h ∈ m.getPendingHandshakes, h.peerIdHex = "0202020202020202") →
        m.FirstIsListed "0202020202020202")) ∧
    (((∃ h ∈ m.getPendingHandshakes, h.peerIdHex = "0202020202020202") →
        Reaches "0202020202020202" .rejected m (m.rejectPeer "0202020202020202")) ↔
      ((∃ h ∈ m.getPendingHandshakes, h.peerIdHex = "0202020202020202") →
        m.FirstIsListed "0202020202020202")) :=
  decision_reaches_iff _ (meshRun_ownObjects .sample .empty 0 meetsPeer) "0202020202020202"

/-- The peer is listed and connected over the new address, and accepting it
changes nothing. -/
theorem decision_misses_the_peer :
    let m := (meshRun .sample (.initial .empty 0) comesBack).shared
    (∃ h ∈ m.getPendingHandshakes, h.peerIdHex = "0202020202020202") ∧
      m.connectedDevices.has "B" = true ∧
      ¬ Reaches "0202020202020202" .accepted m (m.acceptPeer "0202020202020202") ∧
      ¬ Reaches "0202020202020202" .rejected m (m.rejectPeer "0202020202020202") := by
  intro m
  have hrun : (∃ h ∈ m.getPendingHandshakes, h.peerIdHex = "0202020202020202") ∧
      m.connectedDevices.has "B" = true ∧
      m.firstEntry "0202020202020202" = some ("A", 0) ∧
      Mesh.awaitsDecision (m.object 0) = false := by
    decide +kernel
  obtain ⟨hlisted, hconnected, hfirst, hawaits⟩ := hrun
  have hmisses : ¬ m.FirstIsListed "0202020202020202" := by
    rintro ⟨e, he, hentry, -⟩
    rw [hfirst] at he
    cases he
    rw [hentry.awaits] at hawaits
    cases hawaits
  have hown : OwnObjects m := meshRun_ownObjects .sample .empty 0 comesBack
  have haccept := (acceptPeer_decision "0202020202020202" m).reaches_iff hown (by decide)
  have hreject := (rejectPeer_decision "0202020202020202" m).reaches_iff hown (by decide)
  exact ⟨hlisted, hconnected, mt haccept.mp hmisses, mt hreject.mp hmisses⟩

end Oxpulse.Transport
