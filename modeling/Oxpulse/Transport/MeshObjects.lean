import Oxpulse.Transport.MeshRuns

/-!
# The CryptoState objects over a run

Every segment creates a blank object, decides a verdict, works on the handshake
of one object, derives the keys of one or moves a session that is in use
(`Alters`); nothing else touches the heap. Over a run it follows that an object
is accepted by an `acceptPeer` for its peer id only, that it has a session only
after its handshake was complete, and that every call that holds a session holds
one of an accepted object.
-/

namespace Oxpulse.Transport

open Oxpulse.Coroutine Oxpulse.Crypto

/-! ## Relations on the heap -/

/-- The object both bootstrap paths create. -/
structure Blank (c : CryptoState) : Prop where
  session : c.session = none
  sas : c.sas = none
  verdict : c.verdict = .pending

theorem blank_new (P : Primitives) (role : Role) (identity : DeviceIdentityProvider)
    (peerIdHex : PeerIdHex) (now : ℕ) : Blank (.new P role identity peerIdHex now) :=
  ⟨rfl, rfl, rfl⟩

/-- An index beyond the heap reads as a blank object. -/
theorem blank_beyond {ref : ℕ} {m : Mesh} (h : m.objects.length ≤ ref) : Blank (m.object ref) := by
  unfold Mesh.object
  rw [List.getD_eq_default _ _ h]
  exact ⟨rfl, rfl, rfl⟩

/-- Every object is related to what it was, or to a blank one if it is new. -/
structure Lifts (Rel : CryptoState → CryptoState → Prop) (m m' : Mesh) : Prop where
  length : m.objects.length ≤ m'.objects.length
  old : ∀ ref, ref < m.objects.length → Rel (m.object ref) (m'.object ref)
  new : ∀ ref, m.objects.length ≤ ref → ref < m'.objects.length →
    ∃ c, Blank c ∧ Rel c (m'.object ref)

section Lifts

variable {Rel Rel' : CryptoState → CryptoState → Prop} {m m' m'' : Mesh} {ref : ℕ}
  {c : CryptoState}

theorem object_of_objects (h : m'.objects = m.objects) (ref : ℕ) : m'.object ref = m.object ref := by
  unfold Mesh.object
  rw [h]

theorem object_of_set_self (h : m'.objects = m.objects.set ref c)
    (href : ref < m.objects.length) : m'.object ref = c := by
  unfold Mesh.object
  rw [h, List.getD_eq_getElem?_getD, List.getElem?_set_self href]
  rfl

theorem object_of_set_ne (h : m'.objects = m.objects.set ref c) {i : ℕ} (hi : ref ≠ i) :
    m'.object i = m.object i := by
  unfold Mesh.object
  rw [h, List.getD_eq_getElem?_getD, List.getElem?_set_ne hi, ← List.getD_eq_getElem?_getD]

theorem object_of_append_old (h : m'.objects = m.objects ++ [c]) {i : ℕ}
    (hi : i < m.objects.length) : m'.object i = m.object i := by
  unfold Mesh.object
  rw [h, List.getD_append _ _ _ _ hi]

theorem object_of_append_new (h : m'.objects = m.objects ++ [c]) :
    m'.object m.objects.length = c := by
  unfold Mesh.object
  rw [h, List.getD_eq_getElem?_getD, List.getElem?_concat_length]
  rfl

theorem Lifts.of_objects (hrefl : ∀ c, Rel c c) (h : m'.objects = m.objects) : Lifts Rel m m' where
  length := le_of_eq (congrArg List.length h).symm
  old := fun ref _ => by
    rw [object_of_objects h]
    exact hrefl _
  new := fun ref hle hlt => by
    rw [h] at hlt
    exact absurd hlt (Nat.not_lt.mpr hle)

theorem Lifts.of_set (hrefl : ∀ c, Rel c c) (h : m'.objects = m.objects.set ref c)
    (hrel : Rel (m.object ref) c) : Lifts Rel m m' where
  length := by
    rw [h, List.length_set]
  old := fun i hi => by
    by_cases heq : ref = i
    · subst heq
      rw [object_of_set_self h hi]
      exact hrel
    · rw [object_of_set_ne h heq]
      exact hrefl _
  new := fun i hle hlt => by
    rw [h, List.length_set] at hlt
    exact absurd hlt (Nat.not_lt.mpr hle)

theorem Lifts.of_append (hrefl : ∀ c, Rel c c) (h : m'.objects = m.objects ++ [c])
    (hblank : Blank c) : Lifts Rel m m' where
  length := by
    rw [h, List.length_append]
    exact Nat.le_add_right _ _
  old := fun i hi => by
    rw [object_of_append_old h hi]
    exact hrefl _
  new := fun i hle hlt => by
    rw [h, List.length_append] at hlt
    have hi : i = m.objects.length := Nat.le_antisymm (Nat.le_of_lt_succ hlt) hle
    rw [hi, object_of_append_new h]
    exact ⟨c, hblank, hrefl c⟩

theorem Lifts.mono (hsub : ∀ c c', Rel c c' → Rel' c c') (h : Lifts Rel m m') :
    Lifts Rel' m m' := by
  refine ⟨h.length, fun ref hlt => hsub _ _ (h.old ref hlt), fun ref hle hlt => ?_⟩
  obtain ⟨c, hblank, hrel⟩ := h.new ref hle hlt
  exact ⟨c, hblank, hsub _ _ hrel⟩

theorem Lifts.trans (hRel : ∀ a b c, Rel a b → Rel b c → Rel a c) (h : Lifts Rel m m')
    (h' : Lifts Rel m' m'') : Lifts Rel m m'' := by
  refine ⟨h.length.trans h'.length, ?_, ?_⟩
  · intro ref hlt
    exact hRel _ _ _ (h.old ref hlt) (h'.old ref (hlt.trans_le h.length))
  · intro ref hle hlt
    rcases Nat.lt_or_ge ref m'.objects.length with hmid | hmid
    · obtain ⟨c, hblank, hrel⟩ := h.new ref hle hmid
      exact ⟨c, hblank, hRel _ _ _ hrel (h'.old ref hmid)⟩
    · exact h'.new ref hmid hlt

/-- Counting a call leaves the heap alone. -/
theorem Lifts.number (h : Lifts Rel m.number m') : Lifts Rel m m' := ⟨h.length, h.old, h.new⟩

end Lifts

/-! ## What an assignment does to the heap -/

/-- What an assignment of call `n` does to the heap. -/
inductive Alters (n : ℕ) (m m' : Mesh) : Prop where
  | leaves : m'.objects = m.objects → Alters n m m'
  | creates (c : CryptoState) : Blank c → m'.objects = m.objects ++ [c] → Alters n m m'
  | decides (ref : ℕ) (c : CryptoState) : Keeps Nobody (m.object ref) c →
      m'.objects = m.objects.set ref c → Alters n m m'
  | works (ref : ℕ) (deviceId : DeviceId) (c : CryptoState) :
      (m.flight n = some (.advancing ref deviceId) ∨
        m.flight n = some (.opened ref deviceId .initiator)) →
      KeepsKeys Nobody (m.object ref) c → m'.objects = m.objects.set ref c → Alters n m m'
  | derives (ref : ℕ) (deviceId : DeviceId) (c : CryptoState) :
      m.flight n = some (.advancing ref deviceId) →
      m'.flight n = some (.concluded ref deviceId) → Derives (m.object ref) c →
      m'.objects = m.objects.set ref c → Alters n m m'
  | uses (ref : ℕ) (s : RatchetSession) :
      (m.flight n = some (.receiving ref) ∨
        ∃ p deviceId, m.flight n = some (.sending p ref deviceId)) →
      m'.objects = m.objects.set ref { m.object ref with session := some s } → Alters n m m'

theorem transitionVerdict_rejected_cases (cs : Option ℕ) (m : Mesh) :
    (m.failHandshake cs).objects = m.objects ∨
      ∃ ref c, Keeps Nobody (m.object ref) c ∧ (m.failHandshake cs).objects = m.objects.set ref c := by
  cases cs with
  | none => exact Or.inl rfl
  | some ref =>
      refine Or.inr ⟨ref, _, keeps_rejected (m.object ref), ?_⟩
      unfold Mesh.failHandshake
      dsimp only
      split
      · rfl
      · rfl

theorem Atom.alters {P : Primitives} {n : ℕ} {e : Event} {m m' : Mesh} (h : Atom P n e m m') :
    Alters n m m' := by
  cases h with
  | opened s c id hr _ identity ourPeerId =>
      exact .creates _ (blank_new P _ identity _ m.now) rfl
  | bootstrapped deviceId chunk id hr _ identity role peerIdHex payload =>
      exact .creates _ (blank_new P role identity peerIdHex m.now) rfl
  | sendsMsg1 _ ref deviceId v _ hf hworks =>
      exact .works ref deviceId v.cs (Or.inr hf) hworks.2 rfl
  | advances _ ref deviceId v _ hf hworks =>
      exact .works ref deviceId v.cs (Or.inl hf) hworks.2 rfl
  | concludes _ ref deviceId v _ hf hderives =>
      exact .derives ref deviceId v.cs hf flight_launch_self hderives rfl
  | refuses _ ref deviceId v _ hf hrefuses =>
      exact .decides ref v.cs hrefuses.keeps rfl
  | failHandshake _ cs _ _ =>
      rcases transitionVerdict_rejected_cases cs m with hsame | ⟨ref, c, hkeeps, hset⟩
      · exact .leaves hsame
      · exact .decides ref c hkeeps hset
  | setSession _ ref k s _ hf =>
      unfold Mesh.setSession
      split
      · exact .uses ref s hf rfl
      · exact .leaves rfl
  | removed r i handle =>
      refine .leaves ?_
      split
      · rfl
      · rfl
  | _ => exact .leaves rfl

section Alters

variable {n : ℕ} {m m' : Mesh}

/-- Nothing is undone, and nobody accepted. -/
theorem Alters.persists (h : Alters n m m') : Lifts (Persists Nobody) m m' := by
  cases h with
  | leaves heq => exact .of_objects .refl heq
  | creates c hblank heq => exact .of_append .refl heq hblank
  | decides ref c hkeeps heq => exact .of_set .refl heq hkeeps.persists
  | works ref deviceId c _ hkeeps heq => exact .of_set .refl heq hkeeps.persists
  | derives ref deviceId c _ _ hderives heq => exact .of_set .refl heq hderives.persists
  | uses ref s _ heq => exact .of_set .refl heq ⟨rfl, Or.inl rfl, fun _ => rfl⟩

end Alters

/-! ## What an entry does to the heap -/

/-- Only `acceptPeer` accepts. -/
def AcceptsPeer : Event → PeerIdHex → Prop
  | .acceptPeer p, peerIdHex => p = peerIdHex
  | _, _ => False

theorem findPeer_peerIdHex {peerIdHex : PeerIdHex} {m : Mesh} {ref : ℕ}
    (h : m.findPeer peerIdHex = some ref) : (m.object ref).peerIdHex = peerIdHex :=
  eq_of_beq (List.find?_some h :)

theorem acceptPeer_cases (peerIdHex : PeerIdHex) (m : Mesh) :
    m.acceptPeer peerIdHex = m ∨ ∃ ref, m.findPeer peerIdHex = some ref ∧
      (m.object ref).verdict = .pending ∧ (m.acceptPeer peerIdHex).objects =
        m.objects.set ref { m.object ref with verdict := .accepted } ∧
      (m.acceptPeer peerIdHex).notified = m.notified + 1 := by
  unfold Mesh.acceptPeer transitionVerdict
  cases hfind : m.findPeer peerIdHex with
  | none => exact Or.inl rfl
  | some ref =>
      cases hv : (m.object ref).verdict with
      | pending => exact Or.inr ⟨ref, rfl, hv, by simp only [hv]; rfl, by simp only [hv]; rfl⟩
      | accepted => left; simp only [hv]; rfl
      | rejected => left; simp only [hv]; rfl

theorem rejectPeer_cases (peerIdHex : PeerIdHex) (m : Mesh) :
    m.rejectPeer peerIdHex = m ∨ ∃ ref, m.findPeer peerIdHex = some ref ∧
      (m.object ref).verdict = .pending ∧ (m.rejectPeer peerIdHex).objects =
        m.objects.set ref { m.object ref with verdict := .rejected } ∧
      (m.rejectPeer peerIdHex).notified = m.notified + 1 := by
  unfold Mesh.rejectPeer transitionVerdict
  cases hfind : m.findPeer peerIdHex with
  | none => exact Or.inl rfl
  | some ref =>
      cases hv : (m.object ref).verdict with
      | pending => exact Or.inr ⟨ref, rfl, hv, by simp only [hv]; rfl, by simp only [hv]; rfl⟩
      | accepted => left; simp only [hv]; rfl
      | rejected => left; simp only [hv]; rfl

theorem checkTimeout_lifts {A : PeerIdHex → Prop} (m : Mesh) (entry : DeviceId × ℕ) :
    Lifts (Keeps A) m (m.checkTimeout entry) := by
  unfold Mesh.checkTimeout
  dsimp only
  split_ifs
  · exact .of_objects .refl rfl
  · exact .of_objects .refl rfl
  · exact .of_objects .refl rfl
  · exact .of_set .refl rfl (keeps_rejected (m.object entry.2))
  · exact .of_objects .refl rfl

theorem checkHandshakeTimeouts_lifts {A : PeerIdHex → Prop} (m : Mesh) :
    Lifts (Keeps A) m m.checkHandshakeTimeouts := by
  unfold Mesh.checkHandshakeTimeouts
  generalize m.cryptoStates.entries = entries
  induction entries generalizing m with
  | nil => exact .of_objects .refl rfl
  | cons entry entries ih =>
      exact (checkTimeout_lifts m entry).trans (fun _ _ _ => Keeps.trans) (ih _)

theorem acceptPeer_lifts (peerIdHex : PeerIdHex) (m : Mesh) :
    Lifts (Keeps (AcceptsPeer (.acceptPeer peerIdHex))) m (m.acceptPeer peerIdHex) := by
  rcases acceptPeer_cases peerIdHex m with heq | ⟨ref, hfind, hpending, heq, -⟩
  · rw [heq]
    exact .of_objects .refl rfl
  · have haccept := keeps_accepted (A := AcceptsPeer (.acceptPeer peerIdHex)) (m.object ref)
      (findPeer_peerIdHex hfind).symm
    unfold transitionVerdict at haccept
    rw [hpending] at haccept
    exact .of_set .refl heq haccept

theorem rejectPeer_lifts {A : PeerIdHex → Prop} (peerIdHex : PeerIdHex) (m : Mesh) :
    Lifts (Keeps A) m (m.rejectPeer peerIdHex) := by
  rcases rejectPeer_cases peerIdHex m with heq | ⟨ref, hfind, hpending, heq, -⟩
  · rw [heq]
    exact .of_objects .refl rfl
  · have hreject := keeps_rejected (A := A) (m.object ref)
    unfold transitionVerdict at hreject
    rw [hpending] at hreject
    exact .of_set .refl heq hreject

theorem disconnected_objects (deviceId : DeviceId) (m : Mesh) :
    (m.disconnected deviceId).objects = m.objects := by
  obtain ⟨_, _, heq⟩ := disconnected_eq deviceId m
  rw [heq]

/-- An entry at most decides verdicts. -/
theorem Enters.lifts {e : Event} {m m' : Mesh} (h : Enters e m m') :
    Lifts (Keeps (AcceptsPeer e)) m m' := by
  cases h with
  | disconnected deviceId => exact .of_objects .refl (disconnected_objects deviceId _)
  | connected deviceId =>
      obtain ⟨_, heq⟩ := connectedInbound_eq deviceId (m.number.inboundUp deviceId)
      rw [heq]
      exact .of_objects .refl rfl
  | dropped deviceId => exact .of_objects .refl (disconnected_objects deviceId _)
  | timeouts => exact (checkHandshakeTimeouts_lifts m.number).number
  | accepts peerIdHex => exact (acceptPeer_lifts peerIdHex m.number).number
  | rejects peerIdHex => exact (rejectPeer_lifts peerIdHex m.number).number
  | _ => exact .of_objects .refl rfl

/-! ## Sessions in use -/

/-- An accepted object with a session. -/
structure Usable (ref : ℕ) (m : Mesh) : Prop where
  verdict : (m.object ref).verdict = .accepted
  session : (m.object ref).session.isSome

/-- The object a call works on. -/
def Flight.object : Flight → Option ℕ
  | .opened ref _ _ => some ref
  | .advancing ref _ => some ref
  | .concluded ref _ => some ref
  | .refusing ref _ => some ref
  | .receiving ref => some ref
  | .sending _ ref _ => some ref
  | _ => none

/-- A call that holds a session. -/
def Flight.uses (ref : ℕ) : Flight → Prop
  | .receiving ref' => ref' = ref
  | .sending _ ref' _ => ref' = ref
  | _ => False

/-- What holds in every run: the map and the calls point into the heap, and a
session is used only if its object is accepted. -/
structure Live (m : Mesh) : Prop where
  registered : ∀ deviceId ref, m.cryptoStates.get? deviceId = some ref → ref < m.objects.length
  held : ∀ i f ref, m.flight i = some f → f.object = some ref → ref < m.objects.length
  used : ∀ i f ref, m.flight i = some f → f.uses ref → Usable ref m
  sent : ∀ entry ∈ m.sent, Usable entry.ref m
  delivered : ∀ entry ∈ m.delivered, Usable entry.ref m

section Usable

variable {ref : ℕ} {m m' : Mesh} {A : PeerIdHex → Prop}

theorem Usable.lt (h : Usable ref m) : ref < m.objects.length := by
  by_contra hge
  have hblank := blank_beyond (Nat.not_lt.mp hge)
  have hpending := hblank.verdict
  rw [h.verdict] at hpending
  cases hpending

theorem Usable.lifts (h : Usable ref m) (hlifts : Lifts (Persists A) m m') : Usable ref m' := by
  have hpersists := hlifts.old ref h.lt
  exact ⟨hpersists.accepted h.verdict, hpersists.session h.session⟩

theorem sendTarget_usable {p : PeerIdHex} {t : Mesh.SendTarget} (h : m.sendTarget p = .ok t) :
    m.cryptoStates.get? t.deviceId = some t.ref ∧ Usable t.ref m := by
  unfold Mesh.sendTarget at h
  split at h
  next => cases h
  next deviceId hdevice =>
    split at h
    next => cases h
    next ref hget =>
      split at h
      next session hverdict hsession =>
        cases h
        exact ⟨hget, hverdict, by rw [hsession]; rfl⟩
      next => cases h

end Usable

/-! ### The atoms keep it -/

section AtomsKeep

variable {P : Primitives} {n : ℕ} {e : Event} {m m' : Mesh}

/-- What a call finds that creates a `CryptoState` for the device. -/
inductive Creating (n : ℕ) : Event → DeviceId → Mesh → Prop where
  | opening (s : Mesh.PeerSighting) (c : ConnectReplies) (id : IdentityReplies)
      (hr : HandshakeReplies) (m : Mesh) : m.flight n = some (.opening s.deviceId) →
      m.peerId.isSome → m.connectedDevices.has s.deviceId = true →
      Creating n (.sighting s c id hr) s.deviceId m
  | bootstrapping (deviceId : DeviceId) (chunk : Bytes) (id : IdentityReplies)
      (hr : HandshakeReplies) (m : Mesh) : m.flight n = some (.bootstrapping deviceId) →
      m.cryptoStates.has deviceId = false →
      Creating n (.chunk deviceId chunk id hr) deviceId m

/-- A `CryptoState` is registered when it is created, and `stopMesh` clears the
map. -/
theorem Atom.cryptoStates_cases (h : Atom P n e m m') :
    m'.cryptoStates = m.cryptoStates ∨
      (∃ deviceId c, Creating n e deviceId m ∧
        m'.cryptoStates = m.cryptoStates.set deviceId m.objects.length ∧
        m'.objects = m.objects ++ [c] ∧
        ∃ f, m'.flight n = some f ∧ f.object = some m.objects.length) ∨
      ((∃ r, e = .stopMesh r) ∧ m'.cryptoStates = .empty) := by
  cases h with
  | opened s c id hr _ identity ourPeerId hf hpeer hconn =>
      refine Or.inr (Or.inl ⟨s.deviceId, _, .opening s c id hr m hf ?_ hconn, rfl, rfl, _,
        flight_launch_self, rfl⟩)
      rw [hpeer]
      rfl
  | bootstrapped deviceId chunk id hr _ identity role peerIdHex payload hf _ hhas =>
      refine Or.inr (Or.inl ⟨deviceId, _, .bootstrapping deviceId chunk id hr m hf hhas, rfl,
        rfl, _, flight_launch_self, ?_⟩)
      split
      · rfl
      · rfl
  | clears r => exact Or.inr (Or.inr ⟨⟨r, rfl⟩, rfl⟩)
  | failHandshake _ cs _ _ =>
      obtain ⟨_, _, _, heq⟩ := failHandshake_onlyObjects cs m
      rw [heq]
      exact Or.inl rfl
  | setSession _ ref k s _ _ =>
      obtain ⟨_, _, _, heq⟩ := setSession_onlyObjects ref k s m
      rw [heq]
      exact Or.inl rfl
  | removed r i handle =>
      refine Or.inl ?_
      unfold Mesh.launch
      dsimp only
      split
      · rfl
      · rfl
  | _ => exact Or.inl rfl

theorem Atom.sent_cases (h : Atom P n e m m') :
    m'.sent = m.sent ∨ ∃ entry, m'.sent = m.sent ++ [entry] ∧ entry.call = n ∧
      m.flight n = some (.sending entry.peerIdHex entry.ref entry.deviceId) := by
  cases h with
  | sent _ entry _ hcall hf => exact Or.inr ⟨entry, rfl, hcall, hf⟩
  | failHandshake _ cs _ _ =>
      obtain ⟨_, _, _, heq⟩ := failHandshake_onlyObjects cs m
      rw [heq]
      exact Or.inl rfl
  | setSession _ ref k s _ _ =>
      obtain ⟨_, _, _, heq⟩ := setSession_onlyObjects ref k s m
      rw [heq]
      exact Or.inl rfl
  | removed r i handle =>
      refine Or.inl ?_
      split
      · rfl
      · rfl
  | _ => exact Or.inl rfl

theorem Atom.delivered_cases (h : Atom P n e m m') :
    m'.delivered = m.delivered ∨ ∃ entry, m'.delivered = m.delivered ++ [entry] ∧
      m.flight n = some (.receiving entry.ref) := by
  cases h with
  | deliver _ ref plaintext _ hf => exact Or.inr ⟨_, rfl, hf⟩
  | failHandshake _ cs _ _ =>
      obtain ⟨_, _, _, heq⟩ := failHandshake_onlyObjects cs m
      rw [heq]
      exact Or.inl rfl
  | setSession _ ref k s _ _ =>
      obtain ⟨_, _, _, heq⟩ := setSession_onlyObjects ref k s m
      rw [heq]
      exact Or.inl rfl
  | removed r i handle =>
      refine Or.inl ?_
      split
      · rfl
      · rfl
  | _ => exact Or.inl rfl

/-- A flight that moves holds the object it held, or a new one, and uses no
session. -/
theorem Flight.Next.object {k k' : ℕ} {φ : Option Flight} {f : Flight}
    (h : Flight.Next k k' φ (some f)) :
    φ = some f ∨ ((∀ ref, ¬ f.uses ref) ∧ ∀ ref, f.object = some ref →
      (k < k' ∧ ref = k) ∨ ∃ g, φ = some g ∧ g.object = some ref) := by
  cases h with
  | same => exact Or.inl rfl
  | opened _ _ hlt | advancing _ hlt | refusing _ hlt =>
      refine Or.inr ⟨fun _ h => h, fun ref h => Or.inl ⟨hlt, ?_⟩⟩
      cases h
      rfl
  | concluded ref deviceId =>
      exact Or.inr ⟨fun _ h => h, fun ref h => Or.inr ⟨_, rfl, h⟩⟩
  | linked | opening | starting | started | stopping | sweeping | sweeps =>
      exact Or.inr ⟨fun _ h => h, fun _ h => nomatch h⟩

/-- Each flight after an atom is one from before or moved. -/
theorem Atom.flights (h : Atom P n e m m') {i : ℕ} {f : Flight} (hf : m'.flight i = some f) :
    m.flight i = some f ∨
      i = n ∧ Flight.Next m.objects.length m'.objects.length (m.flight n) (some f) := by
  by_cases hi : i = n
  · subst hi
    exact Or.inr ⟨rfl, hf ▸ h.next⟩
  · rw [h.flight_ne hi] at hf
    exact Or.inl hf

theorem Atom.live (h : Atom P n e m m') (hm : Live m) : Live m' where
  registered := by
    intro deviceId ref hget
    rcases h.cryptoStates_cases with hsame | ⟨deviceId', c, -, hset, happend, -⟩ | ⟨-, hempty⟩
    · rw [hsame] at hget
      exact (hm.registered deviceId ref hget).trans_le h.alters.persists.length
    · rw [happend, List.length_append]
      rw [hset, InsMap.get?_set] at hget
      split at hget
      · cases hget
        exact Nat.lt_succ_self _
      · exact Nat.lt_succ_of_lt (hm.registered deviceId ref hget)
    · rw [hempty] at hget
      cases hget
  held := by
    intro i f ref hf href
    have hlength := h.alters.persists.length
    rcases h.flights hf with hold | ⟨rfl, hnext⟩
    · exact (hm.held i f ref hold href).trans_le hlength
    · rcases hnext.object with hsame | ⟨-, hobject⟩
      · exact (hm.held i f ref hsame href).trans_le hlength
      · rcases hobject ref href with ⟨hlt, rfl⟩ | ⟨g, hg, hgref⟩
        · exact hlt
        · exact (hm.held i g ref hg hgref).trans_le hlength
  used := by
    intro i f ref hf huses
    have hlifts := h.alters.persists
    rcases h.flights hf with hold | ⟨rfl, hnext⟩
    · exact (hm.used i f ref hold huses).lifts hlifts
    · rcases hnext.object with hsame | ⟨hnone, -⟩
      · exact (hm.used i f ref hsame huses).lifts hlifts
      · exact absurd huses (hnone ref)
  sent := by
    intro entry hmem
    have hlifts := h.alters.persists
    rcases h.sent_cases with hsame | ⟨entry', happend, -, hf⟩
    · rw [hsame] at hmem
      exact (hm.sent entry hmem).lifts hlifts
    · rw [happend, List.mem_append, List.mem_singleton] at hmem
      rcases hmem with hold | rfl
      · exact (hm.sent entry hold).lifts hlifts
      · exact (hm.used n _ entry.ref hf rfl).lifts hlifts
  delivered := by
    intro entry hmem
    have hlifts := h.alters.persists
    rcases h.delivered_cases with hsame | ⟨entry', happend, hf⟩
    · rw [hsame] at hmem
      exact (hm.delivered entry hmem).lifts hlifts
    · rw [happend, List.mem_append, List.mem_singleton] at hmem
      rcases hmem with hold | rfl
      · exact (hm.delivered entry hold).lifts hlifts
      · exact (hm.used n _ entry.ref hf rfl).lifts hlifts

end AtomsKeep

/-! ### The entries keep it -/

section EntriesKeep

variable {e : Event} {m m' : Mesh} {f : Flight} {ref : ℕ}

theorem Begins.object (h : Begins e m f) (hm : Live m) (href : f.object = some ref) :
    ref < m.objects.length := by
  cases h with
  | takes _ _ _ htakes =>
      cases htakes with
      | sendFrame p frame writeRx _ t ht =>
          cases href
          exact (sendTarget_usable ht).2.lt
      | _ => cases href
  | routes deviceId chunk id hr _ frame _ _ hroutes =>
      cases hroutes with
      | bootstrapping => cases href
      | advancing ref' hget | refusing ref' hget =>
          cases href
          exact hm.registered deviceId ref hget
      | receiving ref' s hget =>
          cases href
          exact hm.registered deviceId ref hget

theorem Begins.uses (h : Begins e m f) (huses : f.uses ref) : Usable ref m := by
  cases h with
  | takes _ _ _ htakes =>
      cases htakes with
      | sendFrame p frame writeRx _ t ht =>
          cases huses
          exact (sendTarget_usable ht).2
      | _ => exact False.elim huses
  | routes deviceId chunk id hr _ frame _ _ hroutes =>
      cases hroutes with
      | receiving ref' s hget _ hverdict hsession =>
          cases huses
          exact ⟨hverdict, by rw [hsession]; rfl⟩
      | _ => exact False.elim huses

/-- An entry registers no object. -/
theorem Enters.registered (h : Enters e m m') {deviceId : DeviceId}
    (hget : m'.cryptoStates.get? deviceId = some ref) :
    m.cryptoStates.get? deviceId = some ref := by
  have hdrop : ∀ (d : DeviceId) (m₁ : Mesh),
      (m₁.disconnected d).cryptoStates.get? deviceId = some ref →
        m₁.cryptoStates.get? deviceId = some ref := by
    intro d m₁ hget
    obtain ⟨_, _, heq⟩ := disconnected_eq d m₁
    rw [heq] at hget
    dsimp only at hget
    rw [InsMap.get?_delete] at hget
    split at hget
    · cases hget
    · exact hget
  cases h with
  | disconnected d => exact hdrop d (m.number.outboundDown d) hget
  | dropped d => exact hdrop d (m.number.inboundDown d) hget
  | connected d =>
      obtain ⟨_, heq⟩ := connectedInbound_eq d (m.number.inboundUp d)
      rw [heq] at hget
      exact hget
  | timeouts =>
      obtain ⟨_, _, _, heq⟩ := checkHandshakeTimeouts_onlyObjects m.number
      rw [heq] at hget
      exact hget
  | accepts p =>
      obtain ⟨_, _, _, heq⟩ := acceptPeer_onlyObjects p m.number
      rw [heq] at hget
      exact hget
  | rejects p =>
      obtain ⟨_, _, _, heq⟩ := rejectPeer_onlyObjects p m.number
      rw [heq] at hget
      exact hget
  | _ => exact hget

/-- An entry logs nothing. -/
theorem Enters.logs (h : Enters e m m') : m'.sent = m.sent ∧ m'.delivered = m.delivered := by
  cases h with
  | disconnected d =>
      obtain ⟨_, _, heq⟩ := disconnected_eq d (m.number.outboundDown d)
      rw [heq]
      exact ⟨rfl, rfl⟩
  | dropped d =>
      obtain ⟨_, _, heq⟩ := disconnected_eq d (m.number.inboundDown d)
      rw [heq]
      exact ⟨rfl, rfl⟩
  | connected d =>
      obtain ⟨_, heq⟩ := connectedInbound_eq d (m.number.inboundUp d)
      rw [heq]
      exact ⟨rfl, rfl⟩
  | timeouts =>
      obtain ⟨_, _, _, heq⟩ := checkHandshakeTimeouts_onlyObjects m.number
      rw [heq]
      exact ⟨rfl, rfl⟩
  | accepts p =>
      obtain ⟨_, _, _, heq⟩ := acceptPeer_onlyObjects p m.number
      rw [heq]
      exact ⟨rfl, rfl⟩
  | rejects p =>
      obtain ⟨_, _, _, heq⟩ := rejectPeer_onlyObjects p m.number
      rw [heq]
      exact ⟨rfl, rfl⟩
  | _ => exact ⟨rfl, rfl⟩

theorem Enters.persists (h : Enters e m m') : Lifts (Persists (AcceptsPeer e)) m m' :=
  h.lifts.mono fun _ _ hkeeps => hkeeps.persists

theorem Enters.live (h : Enters e m m') (hm : Live m) : Live m' where
  registered := by
    intro deviceId ref hget
    exact (hm.registered deviceId ref (h.registered hget)).trans_le h.persists.length
  held := by
    intro i f ref hf href
    rcases h.flights hf with hold | ⟨-, hbegins⟩
    · exact (hm.held i f ref hold href).trans_le h.persists.length
    · exact (hbegins.object hm href).trans_le h.persists.length
  used := by
    intro i f ref hf huses
    rcases h.flights hf with hold | ⟨-, hbegins⟩
    · exact (hm.used i f ref hold huses).lifts h.persists
    · exact (hbegins.uses huses).lifts h.persists
  sent := by
    intro entry hmem
    rw [h.logs.1] at hmem
    exact (hm.sent entry hmem).lifts h.persists
  delivered := by
    intro entry hmem
    rw [h.logs.2] at hmem
    exact (hm.delivered entry hmem).lifts h.persists

end EntriesKeep

/-! ## Complete handshakes -/

/-- The call has no handshake work left. -/
def Past (φ : Option Flight) : Prop := φ = none ∨ ∃ ref deviceId, φ = some (.concluded ref deviceId)

section Derived

variable {P : Primitives} {n : ℕ} {e : Event} {m m' : Mesh}

theorem Flight.Next.past {k k' : ℕ} {φ φ' : Option Flight} (h : Flight.Next k k' φ φ')
    (hφ : Past φ) : Past φ' := by
  rcases hφ with rfl | ⟨ref, deviceId, rfl⟩
  · cases h with
    | same => exact Or.inl rfl
    | lands => exact Or.inl rfl
  · cases h with
    | same => exact Or.inr ⟨ref, deviceId, rfl⟩
    | lands => exact Or.inl rfl

theorem Lifts.session {Rel : CryptoState → CryptoState → Prop}
    (hsub : ∀ c c', Rel c c' → c'.session.isSome = c.session.isSome) (h : Lifts Rel m m') {ref : ℕ}
    (hs : (m'.object ref).session.isSome) :
    ref < m.objects.length ∧ (m.object ref).session.isSome := by
  rcases Nat.lt_or_ge ref m'.objects.length with hlt | hge
  · rcases Nat.lt_or_ge ref m.objects.length with hold | hnew
    · exact ⟨hold, hsub _ _ (h.old ref hold) ▸ hs⟩
    · obtain ⟨c, hblank, hrel⟩ := h.new ref hnew hlt
      rw [hsub _ _ hrel, hblank.session] at hs
      cases hs
  · rw [(blank_beyond hge).session] at hs
    cases hs

/-- What a chain has derived, it has derived from a complete handshake, and then
it leaves the handshake alone. -/
def Derived (n ref : ℕ) (m m' : Mesh) : Prop :=
  (m'.object ref).session.isSome → (m.object ref).session.isSome ∨
    ((m'.object ref).handshake.isComplete = true ∧ Past (m'.flight n))

theorem Alters.derived {m₀ : Mesh} {ref : ℕ} (h : Alters n m m') (hm : Live m)
    (hnext : Past (m.flight n) → Past (m'.flight n)) (ih : Derived n ref m₀ m) :
    Derived n ref m₀ m' := by
  intro hs
  -- An object that the atom leaves alone.
  have hleaves : m'.object ref = m.object ref → (m₀.object ref).session.isSome ∨
      ((m'.object ref).handshake.isComplete = true ∧ Past (m'.flight n)) := by
    intro heq
    rw [heq] at hs ⊢
    exact (ih hs).imp_right fun h => ⟨h.1, hnext h.2⟩
  have hset : ∀ (i : ℕ) (c : CryptoState), m'.objects = m.objects.set i c → i ≠ ref →
      (m₀.object ref).session.isSome ∨
        ((m'.object ref).handshake.isComplete = true ∧ Past (m'.flight n)) :=
    fun i c heq hne => hleaves (object_of_set_ne heq hne)
  -- The object that it works on.
  have hself : ∀ c : CryptoState, m'.objects = m.objects.set ref c → m'.object ref = c := by
    intro c heq
    apply object_of_set_self heq
    by_contra hge
    have hlen : m'.objects.length ≤ ref := by
      rw [heq, List.length_set]
      exact Nat.not_lt.mp hge
    rw [(blank_beyond hlen).session] at hs
    cases hs
  cases h with
  | leaves heq => exact hleaves (object_of_objects heq ref)
  | creates c hblank heq =>
      have hlifts : Lifts (Keeps Nobody) m m' := .of_append .refl heq hblank
      have hlt := (hlifts.session (fun _ _ h => h.keys.session) hs).1
      exact hleaves (object_of_append_old heq hlt)
  | decides i c hkeeps heq =>
      by_cases hi : i = ref
      · subst hi
        rw [hself c heq] at hs ⊢
        rw [hkeeps.keys.session] at hs
        rw [hkeeps.handshake]
        exact (ih hs).imp_right fun h => ⟨h.1, hnext h.2⟩
      · exact hset i c heq hi
  | works i deviceId c hf hkeeps heq =>
      by_cases hi : i = ref
      · subst hi
        rw [hself c heq, hkeeps.keys.session] at hs
        refine (ih hs).imp_right fun h => ?_
        rcases h.2 with hnone | ⟨_, _, hconcluded⟩
        · rcases hf with hf | hf
          · rw [hf] at hnone
            cases hnone
          · rw [hf] at hnone
            cases hnone
        · rcases hf with hf | hf
          · rw [hf] at hconcluded
            cases hconcluded
          · rw [hf] at hconcluded
            cases hconcluded
      · exact hset i c heq hi
  | derives i deviceId c _ hf' hderives heq =>
      by_cases hi : i = ref
      · subst hi
        rw [hself c heq]
        exact Or.inr ⟨hderives.complete, Or.inr ⟨_, _, hf'⟩⟩
      · exact hset i c heq hi
  | uses i s hf heq =>
      by_cases hi : i = ref
      · subst hi
        have husable : Usable i m := by
          rcases hf with hf | ⟨p, deviceId, hf⟩
          · exact hm.used n _ i hf rfl
          · exact hm.used n _ i hf rfl
        rw [hself _ heq]
        exact (ih husable.session).imp_right fun h => ⟨h.1, hnext h.2⟩
      · exact hset i _ heq hi

theorem Chain.derived (h : Chain P n e m m') (hm : Live m) (ref : ℕ) :
    Live m' ∧ Derived n ref m m' := by
  induction h with
  | refl => exact ⟨hm, Or.inl⟩
  | tail _ hatom ih =>
      exact ⟨hatom.live ih.1, hatom.alters.derived ih.1 hatom.next.past ih.2⟩

theorem Chain.persists (h : Chain P n e m m') : Lifts (Persists Nobody) m m' := by
  induction h with
  | refl => exact .of_objects .refl rfl
  | tail _ hatom ih => exact ih.trans (fun _ _ _ => Persists.trans) hatom.alters.persists

end Derived

/-! ## Over a run -/

section Runs

variable {P : Primitives} {m : Mesh} {ref : ℕ}

/-- No call was made, nothing was created, sent or delivered. -/
structure Pristine (m : Mesh) : Prop where
  counted : Counted 0 m
  objects : m.objects = []
  cryptoStates : m.cryptoStates = .empty
  sent : m.sent = []
  delivered : m.delivered = []

theorem pristine_initial (tofu : TofuStore) (now : ℕ) : Pristine (.initial tofu now) :=
  ⟨⟨rfl, fun _ _ => rfl⟩, rfl, rfl, rfl, rfl⟩

theorem Pristine.flight (hm : Pristine m) (i : ℕ) : m.flight i = none :=
  hm.counted.2 i (Nat.zero_le i)

theorem Pristine.blank (hm : Pristine m) (ref : ℕ) : Blank (m.object ref) := by
  apply blank_beyond
  rw [hm.objects]
  exact Nat.zero_le ref

theorem Pristine.live (hm : Pristine m) : Live m where
  registered := fun deviceId ref h => by
    rw [hm.cryptoStates] at h
    cases h
  held := fun i f ref h _ => by
    rw [hm.flight i] at h
    cases h
  used := fun i f ref h _ => by
    rw [hm.flight i] at h
    cases h
  sent := fun entry h => by
    rw [hm.sent] at h
    exact absurd h List.not_mem_nil
  delivered := fun entry h => by
    rw [hm.delivered] at h
    exact absurd h List.not_mem_nil

/-- **A session is used only if its object is accepted**, in every run. -/
theorem meshRun_live (hm : Pristine m) (ms : List (Move Event Unit)) :
    Live (meshRun P m ms).shared :=
  meshRun_keeps (L := fun _ _ _ => True) hm.counted hm.live
    (fun _ _ _ _ henters _ _ hlive => henters.live hlive) (fun _ _ _ _ hatom => hatom.live)
    fun _ _ _ _ => trivial

/-- Whom a step may accept. -/
def AcceptsMove : Move Event Unit → PeerIdHex → Prop
  | .start e => AcceptsPeer e
  | .resume _ _ => Nobody

theorem nobody_acceptsMove (mv : Move Event Unit) : ∀ p, Nobody p → AcceptsMove mv p :=
  fun _ h => h.elim

/-- What a step of a run does to the objects. -/
theorem meshRun_step (hm : Pristine m) (ms : List (Move Event Unit)) (mv : Move Event Unit) :
    Lifts (Persists (AcceptsMove mv)) (meshRun P m ms).shared
        (meshRun P m (ms ++ [mv])).shared ∧
      ∀ ref, ((meshRun P m (ms ++ [mv])).shared.object ref).session.isSome →
        ((meshRun P m ms).shared.object ref).session.isSome ∨
          ((meshRun P m (ms ++ [mv])).shared.object ref).handshake.isComplete = true := by
  have hlive := meshRun_live (P := P) hm ms
  rw [meshRun_concat]
  cases meshRun_stepCase (P := P) hm.counted ms mv with
  | idle _ hidle =>
      rw [hidle]
      exact ⟨.of_objects .refl rfl, fun _ hs => Or.inl hs⟩
  | start e m₀ st hE hG _ _ =>
      refine ⟨?_, fun ref hs => ?_⟩
      · exact hE.persists.trans (fun _ _ _ => Persists.trans)
          (hG.chain.persists.mono fun _ _ h => h.mono (nobody_acceptsMove (.start e)))
      · refine ((hG.chain.derived (hE.live hlive) ref).2 hs).imp (fun hold => ?_) fun h => h.1
        exact (hE.lifts.session (fun _ _ h => h.keys.session) hold).2
  | resume i e r k st _ hG _ _ =>
      exact ⟨hG.chain.persists, fun ref hs => ((hG.chain.derived hlive ref).2 hs).imp_right fun h => h.1⟩

/-- A step of the run that accepts the object. -/
def AcceptedBy (P : Primitives) (m : Mesh) (ms : List (Move Event Unit)) (ref : ℕ)
    (p : PeerIdHex) : Prop :=
  ∃ pre post, ms = pre ++ .start (.acceptPeer p) :: post ∧
    ((meshRun P m pre).shared.object ref).verdict = .pending ∧
    ((meshRun P m (pre ++ [.start (.acceptPeer p)])).shared.object ref).verdict = .accepted

theorem AcceptedBy.concat {ms : List (Move Event Unit)} {p : PeerIdHex}
    (h : AcceptedBy P m ms ref p) (mv : Move Event Unit) : AcceptedBy P m (ms ++ [mv]) ref p := by
  obtain ⟨pre, post, rfl, hbefore, hafter⟩ := h
  refine ⟨pre, post ++ [mv], ?_, hbefore, hafter⟩
  rw [List.append_assoc]
  rfl

/-- **An object is accepted through `acceptPeer`** for its own peer id. -/
theorem meshRun_accepted (hm : Pristine m) (ms : List (Move Event Unit)) :
    ((meshRun P m ms).shared.object ref).verdict = .accepted →
      AcceptedBy P m ms ref ((meshRun P m ms).shared.object ref).peerIdHex := by
  induction ms using List.reverseRecOn with
  | nil =>
      intro hv
      have hpending := (hm.blank ref).verdict
      rw [show m.object ref = (meshRun P m []).shared.object ref from rfl, hv] at hpending
      cases hpending
  | append_singleton ms mv ih =>
      intro hv
      have hstep := (meshRun_step (P := P) hm ms mv).1
      have hdecided : ∀ c : CryptoState,
          c.peerIdHex = ((meshRun P m (ms ++ [mv])).shared.object ref).peerIdHex →
          AcceptsMove mv c.peerIdHex →
          ((meshRun P m ms).shared.object ref).verdict = .pending →
          AcceptedBy P m (ms ++ [mv]) ref
            ((meshRun P m (ms ++ [mv])).shared.object ref).peerIdHex := by
        intro c hid haccepts hpending
        cases mv with
        | resume i r => exact haccepts.elim
        | start e =>
            cases e with
            | acceptPeer p =>
                have hp : p = ((meshRun P m (ms ++ [.start (.acceptPeer p)])).shared.object
                    ref).peerIdHex := Eq.trans haccepts hid
                rw [← hp]
                exact ⟨ms, [], rfl, hpending, hv⟩
            | _ => exact haccepts.elim
      rcases Nat.lt_or_ge ref (meshRun P m ms).shared.objects.length with hold | hnew
      · have hpersists := hstep.old ref hold
        rcases hpersists.verdict with hsame | ⟨hpending, haccepts⟩
        · rw [hpersists.peerIdHex]
          exact (ih (hsame.symm.trans hv)).concat mv
        · exact hdecided _ hpersists.peerIdHex.symm (haccepts hv) hpending
      · rcases Nat.lt_or_ge ref (meshRun P m (ms ++ [mv])).shared.objects.length with hlt | hge
        · obtain ⟨c, hblank, hpersists⟩ := hstep.new ref hnew hlt
          rcases hpersists.verdict with hsame | ⟨-, haccepts⟩
          · rw [hblank.verdict, hv] at hsame
            cases hsame
          · exact hdecided c hpersists.peerIdHex.symm (haccepts hv)
              (blank_beyond hnew).verdict
        · have hpending := (blank_beyond hge).verdict
          rw [hv] at hpending
          cases hpending

/-- **A session means that the handshake was complete** at some point of the run. -/
theorem meshRun_completed (hm : Pristine m) (ms : List (Move Event Unit)) :
    ((meshRun P m ms).shared.object ref).session.isSome →
      ∃ pre, pre <+: ms ∧ ((meshRun P m pre).shared.object ref).handshake.isComplete = true := by
  induction ms using List.reverseRecOn with
  | nil =>
      intro hs
      have hnone := (hm.blank ref).session
      rw [show m.object ref = (meshRun P m []).shared.object ref from rfl] at hnone
      rw [hnone] at hs
      cases hs
  | append_singleton ms mv ih =>
      intro hs
      rcases (meshRun_step (P := P) hm ms mv).2 ref hs with hold | hcomplete
      · obtain ⟨pre, hpre, hcomplete⟩ := ih hold
        exact ⟨pre, hpre.trans (List.prefix_append ms [mv]), hcomplete⟩
      · exact ⟨ms ++ [mv], List.prefix_refl _, hcomplete⟩

end Runs

end Oxpulse.Transport
