import Oxpulse.Transport.MeshSend

/-!
# No acceptance before the SAS

`acceptPeer` looks for a `CryptoState` of the peer and accepts it, whether or not
its handshake is complete. A run is orderly when the user decides only on peers
that `getPendingHandshakes` lists, and when a handshake frame is not processed
while another one for the same object is. Then an accepted object had its SAS
when it was accepted, and its session is the one that the SAS belongs to.
-/

namespace Oxpulse.Transport

open Oxpulse.Coroutine Oxpulse.Crypto

/-- The `CryptoState` that `acceptPeer` and `rejectPeer` would decide on is one
that `getPendingHandshakes` lists. -/
def Mesh.MayDecide (peerIdHex : PeerIdHex) (m : Mesh) : Prop :=
  ∀ ref, m.findPeer peerIdHex = some ref → (m.object ref).verdict = .pending →
    Mesh.awaitsDecision (m.object ref) = true

/-- A handshake frame that completes with this chunk is refused on sight, or no
other one is being processed for its `CryptoState`, which has no session yet. -/
def Mesh.MayAdvance (deviceId : DeviceId) (chunk : Bytes) (m : Mesh) : Prop :=
  ∀ frame ref, (m.reassemble deviceId chunk).2 = some frame →
    m.cryptoStates.get? deviceId = some ref → frame.frameType ≠ FrameType.SessionData →
    RefusedOnSight (m.object ref).handshake frame.payload ∨
      ((m.object ref).session = none ∧ ∀ i d, m.flight i ≠ some (.advancing ref d))

def OrderlyCall : Event → Mesh → Prop
  | .acceptPeer p, m => m.MayDecide p
  | .rejectPeer p, m => m.MayDecide p
  | .chunk deviceId chunk _ _, m => m.MayAdvance deviceId chunk
  | _, _ => True

/-- What an orderly run keeps. -/
structure Orderly (m : Mesh) : Prop where
  live : Live m
  single : ∀ i j ref d d', m.flight i = some (.advancing ref d) →
    m.flight j = some (.advancing ref d') → i = j
  settled : ∀ i ref d, m.flight i = some (.advancing ref d) → (m.object ref).session = none
  session : ∀ ref, (m.object ref).sas.isSome → (m.object ref).session.isSome
  accepted : ∀ ref, (m.object ref).verdict = .accepted →
    (m.object ref).sas.isSome ∧ (m.object ref).peerPubkeyB64.isSome

/-- The keys of an accepted object stay. -/
def Frozen (m m' : Mesh) : Prop :=
  ∀ ref, (m.object ref).verdict = .accepted → SameKeys (m.object ref) (m'.object ref)

section Orderly

variable {P : Primitives} {n : ℕ} {e : Event} {m m' : Mesh}

theorem Frozen.trans {m'' : Mesh} (hpersists : Lifts (Persists Nobody) m m') (h : Frozen m m')
    (h' : Frozen m' m'') : Frozen m m'' := by
  intro ref hv
  have husable : ref < m.objects.length := by
    by_contra hge
    have hpending := (blank_beyond (Nat.not_lt.mp hge)).verdict
    rw [hv] at hpending
    cases hpending
  exact (h ref hv).trans (h' ref ((hpersists.old ref husable).accepted hv))

/-- The keys of an object stay, unless the atom derives them. -/
theorem Alters.sameKeys (h : Alters n m m') (hm : Live m) {ref : ℕ}
    (href : ref < m.objects.length) :
    SameKeys (m.object ref) (m'.object ref) ∨
      ∃ d, m.flight n = some (.advancing ref d) ∧ m'.flight n = some (.concluded ref d) ∧
        (m'.object ref).session.isSome := by
  have hset : ∀ (i : ℕ) (c : CryptoState), m'.objects = m.objects.set i c →
      SameKeys (m.object i) c → SameKeys (m.object ref) (m'.object ref) := by
    intro i c heq hsame
    by_cases hi : i = ref
    · subst hi
      rw [object_of_set_self heq href]
      exact hsame
    · rw [object_of_set_ne heq hi]
      exact .refl _
  cases h with
  | leaves heq =>
      rw [object_of_objects heq]
      exact Or.inl (.refl _)
  | creates c _ heq =>
      rw [object_of_append_old heq href]
      exact Or.inl (.refl _)
  | decides i c hkeeps heq => exact Or.inl (hset i c heq hkeeps.keys)
  | works i deviceId c _ hkeeps heq => exact Or.inl (hset i c heq hkeeps.keys)
  | derives i deviceId c hf hf' hderives heq =>
      by_cases hi : i = ref
      · subst hi
        rw [object_of_set_self heq href]
        exact Or.inr ⟨deviceId, hf, hf', hderives.session⟩
      · rw [object_of_set_ne heq hi]
        exact Or.inl (.refl _)
  | uses i s hf heq =>
      have husable : Usable i m := by
        rcases hf with hf | ⟨p, deviceId, hf⟩
        · exact hm.used n _ i hf rfl
        · exact hm.used n _ i hf rfl
      exact Or.inl (hset i _ heq ⟨husable.session.symm, rfl, rfl, rfl⟩)

/-- An object that is new is blank. -/
theorem Alters.blank (h : Alters n m m') {ref : ℕ} (href : m.objects.length ≤ ref) :
    Blank (m'.object ref) := by
  have hset : ∀ (i : ℕ) (c : CryptoState), m'.objects = m.objects.set i c →
      Blank (m'.object ref) := by
    intro i c heq
    apply blank_beyond
    rw [heq, List.length_set]
    exact href
  cases h with
  | leaves heq =>
      apply blank_beyond
      rw [heq]
      exact href
  | creates c hblank heq =>
      rcases Nat.eq_or_lt_of_le href with rfl | hlt
      · rw [object_of_append_new heq]
        exact hblank
      · apply blank_beyond
        rw [heq, List.length_append]
        exact hlt
  | decides i c _ heq => exact hset i c heq
  | works i _ c _ _ heq => exact hset i c heq
  | derives i _ c _ _ _ heq => exact hset i c heq
  | uses i s _ heq => exact hset i _ heq

theorem Orderly.frozen (hm : Orderly m) (h : Alters n m m') : Frozen m m' := by
  intro ref hv
  have hsession := hm.session ref (hm.accepted ref hv).1
  have husable : Usable ref m := ⟨hv, hsession⟩
  rcases h.sameKeys hm.live husable.lt with hsame | ⟨d, hf, -⟩
  · exact hsame
  · rw [hm.settled n ref d hf] at hsession
    cases hsession

/-- A flight that is advancing was so before, or its object is new. -/
theorem Flight.Next.advancing_cases {k k' : ℕ} {φ : Option Flight} {ref : ℕ} {d : DeviceId}
    (h : Flight.Next k k' φ (some (.advancing ref d))) :
    φ = some (.advancing ref d) ∨ ref = k := by
  cases h with
  | same => exact Or.inl rfl
  | advancing => exact Or.inr rfl

theorem Atom.advancing (h : Atom P n e m m') {i ref : ℕ} {d : DeviceId}
    (hf : m'.flight i = some (.advancing ref d)) :
    m.flight i = some (.advancing ref d) ∨ (i = n ∧ ref = m.objects.length) := by
  rcases h.flights hf with hold | ⟨rfl, hnext⟩
  · exact Or.inl hold
  · exact hnext.advancing_cases.imp_right fun heq => ⟨rfl, heq⟩

theorem Atom.orderly (h : Atom P n e m m') (hm : Orderly m) : Orderly m' where
  live := h.live hm.live
  single := by
    intro i j ref d d' hi hj
    have hheld : ∀ k d, m.flight k = some (.advancing ref d) → ref ≠ m.objects.length :=
      fun k d hk => Nat.ne_of_lt (hm.live.held k _ ref hk rfl)
    rcases h.advancing hi with hi | ⟨hi, hnew⟩
    · rcases h.advancing hj with hj | ⟨-, hnew⟩
      · exact hm.single i j ref d d' hi hj
      · exact absurd hnew (hheld i d hi)
    · rcases h.advancing hj with hj | ⟨hj, -⟩
      · exact absurd hnew (hheld j d' hj)
      · rw [hi, hj]
  settled := by
    intro i ref d hi
    rcases h.advancing hi with hi' | ⟨-, hnew⟩
    · have hnone := hm.settled i ref d hi'
      rcases h.alters.sameKeys hm.live (hm.live.held i _ ref hi' rfl) with hsame | ⟨d', hf, hf', -⟩
      · have hsome := hsame.session
        rw [hnone] at hsome
        exact Option.not_isSome_iff_eq_none.mp (by rw [hsome]; exact Bool.false_ne_true)
      · -- The call that derives the session is the only one, and it is past its work.
        have hn := hm.single i n ref d d' hi' hf
        rw [hn, hf'] at hi
        cases hi
    · exact (h.alters.blank (Nat.le_of_eq hnew.symm)).session
  session := by
    intro ref hsas
    rcases Nat.lt_or_ge ref m.objects.length with hold | hnew
    · rcases h.alters.sameKeys hm.live hold with hsame | ⟨_, _, _, hsession⟩
      · rw [hsame.sas] at hsas
        rw [hsame.session]
        exact hm.session ref hsas
      · exact hsession
    · rw [(h.alters.blank hnew).sas] at hsas
      cases hsas
  accepted := by
    intro ref hv
    rcases Nat.lt_or_ge ref m.objects.length with hold | hnew
    · rcases (h.alters.persists.old ref hold).verdict with hsame | ⟨-, hnobody⟩
      · have haccepted := hsame.symm.trans hv
        have hkeys := hm.frozen h.alters ref haccepted
        rw [hkeys.sas, hkeys.peerPubkeyB64]
        exact hm.accepted ref haccepted
      · exact (hnobody hv).elim
    · rw [(h.alters.blank hnew).verdict] at hv
      cases hv

/-- The flight of a new call is advancing only if the frame may be processed. -/
theorem Begins.advancing {f : Flight} {ref : ℕ} {d : DeviceId} (h : Begins e m f)
    (hf : f = .advancing ref d) (hlegal : OrderlyCall e m) :
    (m.object ref).session = none ∧ ∀ i d', m.flight i ≠ some (.advancing ref d') := by
  subst hf
  cases h with
  | takes _ _ _ htakes => cases htakes
  | routes deviceId chunk id hr _ frame _ hframe hroutes =>
      cases hroutes with
      | advancing _ hget htype hread =>
          exact (hlegal frame ref hframe hget htype).resolve_left hread

/-- Accepting and rejecting at most decide on the object that is found. -/
theorem Enters.decides {p : PeerIdHex} (h : Enters e m m')
    (he : e = .acceptPeer p ∨ e = .rejectPeer p) (ref : ℕ) :
    m'.object ref = m.object ref ∨
      (m.findPeer p = some ref ∧ (m.object ref).verdict = .pending) := by
  have hset : ∀ (i : ℕ) (c : CryptoState), m.findPeer p = some i →
      (m.object i).verdict = .pending → m'.objects = m.objects.set i c →
      m'.object ref = m.object ref ∨
        (m.findPeer p = some ref ∧ (m.object ref).verdict = .pending) := by
    intro i c hfind hpending heq
    by_cases hi : i = ref
    · subst hi
      exact Or.inr ⟨hfind, hpending⟩
    · exact Or.inl (object_of_set_ne heq hi)
  rcases he with rfl | rfl
  · cases h with
    | ignored => exact Or.inl rfl
    | takes _ _ _ htakes => cases htakes
    | accepts =>
        rcases acceptPeer_cases p m.number with hsame | ⟨i, hfind, hpending, heq, -⟩
        · rw [hsame]
          exact Or.inl rfl
        · exact hset i _ hfind hpending heq
  · cases h with
    | ignored => exact Or.inl rfl
    | takes _ _ _ htakes => cases htakes
    | rejects =>
        rcases rejectPeer_cases p m.number with hsame | ⟨i, hfind, hpending, heq, -⟩
        · rw [hsame]
          exact Or.inl rfl
        · exact hset i _ hfind hpending heq

/-- An entry that accepts an object is an `acceptPeer` that found it. -/
theorem Enters.accepted_cases (h : Enters e m m') {ref : ℕ}
    (hv : (m'.object ref).verdict = .accepted) :
    (m.object ref).verdict = .accepted ∨
      ∃ p, e = .acceptPeer p ∧ m.findPeer p = some ref ∧ (m.object ref).verdict = .pending := by
  have hdecided : ∀ p', AcceptsPeer e p' → (m.object ref).verdict = .accepted ∨
      ∃ p, e = .acceptPeer p ∧ m.findPeer p = some ref ∧ (m.object ref).verdict = .pending := by
    intro p' haccepts
    cases e with
    | acceptPeer p =>
        rcases h.decides (Or.inl rfl) ref with hsame | hfound
        · rw [hsame] at hv
          exact Or.inl hv
        · exact Or.inr ⟨p, rfl, hfound⟩
    | _ => exact haccepts.elim
  rcases Nat.lt_or_ge ref m.objects.length with hold | hnew
  · rcases (h.persists.old ref hold).verdict with hsame | ⟨-, haccepts⟩
    · exact Or.inl (hsame.symm.trans hv)
    · exact hdecided _ (haccepts hv)
  · rcases Nat.lt_or_ge ref m'.objects.length with hlt | hge
    · obtain ⟨c, hblank, hpersists⟩ := h.persists.new ref hnew hlt
      rcases hpersists.verdict with hsame | ⟨-, haccepts⟩
      · rw [hblank.verdict, hv] at hsame
        cases hsame
      · exact hdecided _ (haccepts hv)
    · rw [(blank_beyond hge).verdict] at hv
      cases hv

/-- What an entry shows of an object, it has shown before. -/
theorem Enters.sas (h : Enters e m m') {ref : ℕ} (hsas : (m'.object ref).sas.isSome) :
    ref < m.objects.length ∧ (m.object ref).sas.isSome := by
  rcases Nat.lt_or_ge ref m'.objects.length with hlt | hge
  · rcases Nat.lt_or_ge ref m.objects.length with hold | hnew
    · exact ⟨hold, (h.lifts.old ref hold).keys.sas ▸ hsas⟩
    · obtain ⟨c, hblank, hkeeps⟩ := h.lifts.new ref hnew hlt
      rw [hkeeps.keys.sas, hblank.sas] at hsas
      cases hsas
  · rw [(blank_beyond hge).sas] at hsas
    cases hsas

theorem awaitsDecision_iff {c : CryptoState} : Mesh.awaitsDecision c = true ↔
    c.sas.isSome ∧ c.verdict = .pending ∧ c.peerPubkeyB64.isSome := by
  unfold Mesh.awaitsDecision
  rw [Bool.and_eq_true, Bool.and_eq_true, beq_iff_eq, and_assoc]

/-- What an orderly `acceptPeer` finds when it accepts the object. -/
structure Decided (p : PeerIdHex) (c : CryptoState) : Prop where
  peerIdHex : c.peerIdHex = p
  verdict : c.verdict = .pending
  sas : c.sas.isSome
  peerPubkeyB64 : c.peerPubkeyB64.isSome

/-- Who is accepted by an orderly entry has a SAS. -/
theorem Enters.accepts_after_sas (h : Enters e m m') (hlegal : OrderlyCall e m)
    {ref : ℕ} (hv : (m'.object ref).verdict = .accepted) :
    (m.object ref).verdict = .accepted ∨
      ∃ p, e = .acceptPeer p ∧ Decided p (m.object ref) := by
  rcases h.accepted_cases hv with hold | ⟨p, rfl, hfind, hpending⟩
  · exact Or.inl hold
  · have hawaits := awaitsDecision_iff.mp (hlegal ref hfind hpending)
    exact Or.inr ⟨p, rfl, findPeer_peerIdHex hfind, hpending, hawaits.1, hawaits.2.2⟩

theorem lt_of_sas {ref : ℕ} (h : (m.object ref).sas.isSome) : ref < m.objects.length := by
  by_contra hge
  rw [(blank_beyond (Nat.not_lt.mp hge)).sas] at h
  cases h

theorem Enters.orderly (h : Enters e m m') (hlegal : OrderlyCall e m)
    (hm : Orderly m) : Orderly m' where
  live := h.live hm.live
  single := by
    intro i j ref d d' hi hj
    rcases h.flights hi with hi | ⟨hi, hbegins⟩
    · rcases h.flights hj with hj | ⟨-, hbegins⟩
      · exact hm.single i j ref d d' hi hj
      · exact absurd hi ((hbegins.advancing rfl hlegal).2 i d)
    · rcases h.flights hj with hj | ⟨hj, -⟩
      · exact absurd hj ((hbegins.advancing rfl hlegal).2 j d')
      · rw [hi, hj]
  settled := by
    intro i ref d hi
    have hnone : (m.object ref).session = none ∧ ref < m.objects.length := by
      rcases h.flights hi with hi | ⟨-, hbegins⟩
      · exact ⟨hm.settled i ref d hi, hm.live.held i _ ref hi rfl⟩
      · exact ⟨(hbegins.advancing rfl hlegal).1, hbegins.object hm.live rfl⟩
    have hsame := (h.lifts.old ref hnone.2).keys.session
    rw [hnone.1] at hsame
    exact Option.not_isSome_iff_eq_none.mp (by rw [hsame]; exact Bool.false_ne_true)
  session := by
    intro ref hsas
    obtain ⟨hlt, hsas⟩ := h.sas hsas
    rw [(h.lifts.old ref hlt).keys.session]
    exact hm.session ref hsas
  accepted := by
    intro ref hv
    have hbefore : (m.object ref).sas.isSome ∧ (m.object ref).peerPubkeyB64.isSome := by
      rcases h.accepts_after_sas hlegal hv with hold | ⟨p, -, hdecided⟩
      · exact hm.accepted ref hold
      · exact ⟨hdecided.sas, hdecided.peerPubkeyB64⟩
    have hkeys := (h.lifts.old ref (lt_of_sas hbefore.1)).keys
    rw [hkeys.sas, hkeys.peerPubkeyB64]
    exact hbefore

theorem Pristine.orderly (hm : Pristine m) : Orderly m where
  live := hm.live
  single := fun i j ref d d' h => by
    rw [hm.flight i] at h
    cases h
  settled := fun i ref d h => by
    rw [hm.flight i] at h
    cases h
  session := fun ref h => by
    rw [(hm.blank ref).sas] at h
    cases h
  accepted := fun ref h => by
    rw [(hm.blank ref).verdict] at h
    cases h

theorem meshRun_orderly (hm : Pristine m) {ms : List (Move Event Unit)}
    (h : Meets P m OrderlyCall ms) : Orderly (meshRun P m ms).shared :=
  h.keeps hm.counted hm.orderly (fun _ _ _ henters => henters.orderly)
    fun _ _ _ _ hatom => hatom.orderly

end Orderly

/-! ## Over a run -/

section Run

variable {P : Primitives} {m : Mesh} {ref : ℕ}

theorem Chain.frozen {n : ℕ} {e : Event} {m' : Mesh} (h : Chain P n e m m') (hm : Orderly m) :
    Orderly m' ∧ Frozen m m' := by
  induction h with
  | refl => exact ⟨hm, fun _ _ => .refl _⟩
  | tail hchain hatom ih =>
      refine ⟨hatom.orderly ih.1, ?_⟩
      exact Frozen.trans (Chain.persists hchain) ih.2 (ih.1.frozen hatom.alters)

theorem lt_of_accepted (h : (m.object ref).verdict = .accepted) : ref < m.objects.length := by
  by_contra hge
  rw [(blank_beyond (Nat.not_lt.mp hge)).verdict] at h
  cases h

/-- An object that is accepted after a step was so before, and its keys stayed,
or the step accepted it, with its SAS and its keys. -/
theorem orderly_step (hm : Pristine m) {ms : List (Move Event Unit)} {mv : Move Event Unit}
    (h : Meets P m OrderlyCall (ms ++ [mv]))
    (hv : ((meshRun P m (ms ++ [mv])).shared.object ref).verdict = .accepted) :
    SameKeys ((meshRun P m ms).shared.object ref)
        ((meshRun P m (ms ++ [mv])).shared.object ref) ∧
      (((meshRun P m ms).shared.object ref).verdict = .accepted ∨
        ∃ p, mv = .start (.acceptPeer p) ∧ Decided p ((meshRun P m ms).shared.object ref)) := by
  have horderly := meshRun_orderly (P := P) hm h.init
  have hlast := Pool.Each.last h
  rw [meshRun_concat] at hv ⊢
  -- A chain of atoms accepts nobody and leaves the keys of whom was accepted.
  have hchain : ∀ {n : ℕ} {e : Event} {m₀ m' : Mesh}, Chain P n e m₀ m' → Orderly m₀ →
      (m'.object ref).verdict = .accepted →
      (m₀.object ref).verdict = .accepted ∧ SameKeys (m₀.object ref) (m'.object ref) := by
    intro n e m₀ m' hG hm₀ hv
    have haccepted : (m₀.object ref).verdict = .accepted := by
      rcases Nat.lt_or_ge ref m₀.objects.length with hold | hnew
      · rcases (hG.persists.old ref hold).verdict with hsame | ⟨-, hnobody⟩
        · exact hsame.symm.trans hv
        · exact (hnobody hv).elim
      · obtain ⟨c, hblank, hpersists⟩ := hG.persists.new ref hnew (lt_of_accepted hv)
        rcases hpersists.verdict with hsame | ⟨-, hnobody⟩
        · rw [hblank.verdict, hv] at hsame
          cases hsame
        · exact (hnobody hv).elim
    exact ⟨haccepted, (hG.frozen hm₀).2 ref haccepted⟩
  cases meshRun_stepCase (P := P) hm.counted ms mv with
  | idle _ hidle =>
      rw [hidle] at hv ⊢
      exact ⟨.refl _, Or.inl hv⟩
  | start e m₀ st hE hG _ _ =>
      obtain ⟨haccepted, hsame⟩ := hchain hG.chain (hE.orderly hlast horderly) hv
      rcases hE.accepts_after_sas hlast haccepted with hold | ⟨p, rfl, hdecided⟩
      · exact ⟨(hE.lifts.old ref (lt_of_accepted hold)).keys.trans hsame, Or.inl hold⟩
      · exact ⟨(hE.lifts.old ref (lt_of_sas hdecided.sas)).keys.trans hsame,
          Or.inr ⟨p, rfl, hdecided⟩⟩
  | resume i e r k st _ hG _ _ =>
      obtain ⟨haccepted, hsame⟩ := hchain hG.chain horderly hv
      exact ⟨hsame, Or.inl haccepted⟩

/-- The object was accepted when its handshake had been complete, it had a
session, its SAS and the peer's key, and these have not changed since. -/
def AcceptedAfterSas (P : Primitives) (m : Mesh) (ms : List (Move Event Unit)) (ref : ℕ) : Prop :=
  ∃ pre p post, ms = pre ++ .start (.acceptPeer p) :: post ∧
    Decided p ((meshRun P m pre).shared.object ref) ∧
    ((meshRun P m pre).shared.object ref).session.isSome ∧
    (∃ done, done <+: pre ∧
      ((meshRun P m done).shared.object ref).handshake.isComplete = true) ∧
    SameKeys ((meshRun P m pre).shared.object ref) ((meshRun P m ms).shared.object ref)

theorem meshRun_accepted_after_sas (hm : Pristine m) {ms : List (Move Event Unit)}
    (h : Meets P m OrderlyCall ms) :
    ((meshRun P m ms).shared.object ref).verdict = .accepted → AcceptedAfterSas P m ms ref := by
  induction ms using List.reverseRecOn with
  | nil =>
      intro hv
      have hpending := (hm.blank ref).verdict
      rw [show m.object ref = (meshRun P m []).shared.object ref from rfl, hv] at hpending
      cases hpending
  | append_singleton ms mv ih =>
      intro hv
      obtain ⟨hsame, hold | ⟨p, rfl, hdecided⟩⟩ := orderly_step hm h hv
      · obtain ⟨pre, p, post, heq, hdecided, hsession, hdone, hkeys⟩ := ih h.init hold
        refine ⟨pre, p, post ++ [mv], ?_, hdecided, hsession, hdone, hkeys.trans hsame⟩
        rw [heq, List.append_assoc]
        rfl
      · have hsession := (meshRun_orderly (P := P) hm h.init).session ref hdecided.sas
        exact ⟨ms, p, [], rfl, hdecided, hsession, meshRun_completed hm ms hsession, hsame⟩

/-! ### Decisions on a handshake in progress -/

/-- Nothing but the count of the calls has changed. -/
def Unchanged (m m' : Mesh) : Prop :=
  ∃ flights, m' = { m with calls := m.calls + 1, flights := flights }

theorem decision_unchanged (m' : Mesh) (h : m' = m.number) (i : ℕ) : Unchanged m (m'.land i) := by
  rw [h]
  exact ⟨_, rfl⟩

/-- **A decision on a handshake in progress changes nothing.** -/
theorem decision_in_progress (hm : Pristine m) {ms : List (Move Event Unit)} {e : Event}
    {p : PeerIdHex} (h : Meets P m OrderlyCall (ms ++ [.start e]))
    (he : e = .acceptPeer p ∨ e = .rejectPeer p)
    (hfind : (meshRun P m ms).shared.findPeer p = some ref)
    (hnone : ((meshRun P m ms).shared.object ref).session = none) :
    Unchanged (meshRun P m ms).shared (meshRun P m (ms ++ [.start e])).shared := by
  have horderly := meshRun_orderly (P := P) hm h.init
  have hmay : (meshRun P m ms).shared.MayDecide p := by
    have hlast := Pool.Each.last h
    rcases he with rfl | rfl
    · exact hlast
    · exact hlast
  have hverdict : ((meshRun P m ms).shared.object ref).verdict ≠ .pending := by
    intro hpending
    have hawaits := awaitsDecision_iff.mp (hmay ref hfind hpending)
    have hsession := horderly.session ref hawaits.1
    rw [hnone] at hsession
    cases hsession
  have hfound : ∀ {ref'}, (meshRun P m ms).shared.number.findPeer p = some ref' →
      ((meshRun P m ms).shared.number.object ref').verdict = .pending → False := by
    intro ref' hfind' hpending
    rw [show (meshRun P m ms).shared.number.findPeer p = some ref from hfind] at hfind'
    cases hfind'
    exact hverdict hpending
  rw [meshRun_concat]
  rcases he with rfl | rfl
  · refine decision_unchanged ((meshRun P m ms).shared.number.acceptPeer p) ?_ _
    rcases acceptPeer_cases p (meshRun P m ms).shared.number with hsame | ⟨_, hfind', hpending, -⟩
    · exact hsame
    · exact (hfound hfind' hpending).elim
  · refine decision_unchanged ((meshRun P m ms).shared.number.rejectPeer p) ?_ _
    rcases rejectPeer_cases p (meshRun P m ms).shared.number with hsame | ⟨_, hfind', hpending, -⟩
    · exact hsame
    · exact (hfound hfind' hpending).elim

end Run

/-- **No acceptance before the SAS.** In a run in which the user decides only on
listed peers and handshake frames are processed one at a time, every accepted
object had a complete handshake, a session, its SAS and the peer's key when
`acceptPeer` changed its verdict, and still has the same ones; a decision on a
handshake in progress changes nothing; and frames are sent and delivered with
the sessions of accepted objects only. -/
theorem accepted_after_sas (P : Primitives) (tofu : TofuStore) (now : ℕ)
    (ms : List (Move Event Unit)) (h : Meets P (.initial tofu now) OrderlyCall ms) :
    (∀ ref, ((meshRun P (.initial tofu now) ms).shared.object ref).verdict = .accepted →
      AcceptedAfterSas P (.initial tofu now) ms ref) ∧
    (∀ pre e p post ref, ms = pre ++ .start e :: post → (e = .acceptPeer p ∨ e = .rejectPeer p) →
      (meshRun P (.initial tofu now) pre).shared.findPeer p = some ref →
      ((meshRun P (.initial tofu now) pre).shared.object ref).session = none →
      Unchanged (meshRun P (.initial tofu now) pre).shared
        (meshRun P (.initial tofu now) (pre ++ [.start e])).shared) ∧
    (∀ entry ∈ (meshRun P (.initial tofu now) ms).shared.sent,
      Usable entry.ref (meshRun P (.initial tofu now) ms).shared) ∧
    ∀ entry ∈ (meshRun P (.initial tofu now) ms).shared.delivered,
      Usable entry.ref (meshRun P (.initial tofu now) ms).shared := by
  have hpristine := pristine_initial tofu now
  have hlive := meshRun_live (P := P) hpristine ms
  refine ⟨fun ref => meshRun_accepted_after_sas hpristine h, ?_, hlive.sent, hlive.delivered⟩
  intro pre e p post ref heq he hfind hnone
  have hpre : Meets P (.initial tofu now) OrderlyCall (pre ++ [.start e]) := by
    apply Pool.Each.prefix
    rw [List.append_assoc]
    exact heq ▸ h
  exact decision_in_progress hpristine hpre he hfind hnone

/-! ### A run with a late decision, and one with an early one -/

/-- The test of `OrderlyCall`. -/
def isOrderlyCall : Event → Mesh → Bool
  | .acceptPeer p, m => mayDecide p m
  | .rejectPeer p, m => mayDecide p m
  | .chunk deviceId chunk _ _, m =>
      match (m.reassemble deviceId chunk).2, m.cryptoStates.get? deviceId with
      | some frame, some ref =>
          decide (frame.frameType = FrameType.SessionData) ||
            decide (RefusedOnSight (m.object ref).handshake frame.payload) ||
            ((m.object ref).session.isNone && m.flights.entries.all fun e =>
              match e.2 with
              | .advancing ref' _ => ref' != ref
              | _ => true)
      | _, _ => true
  | _, _ => true
where
  mayDecide (p : PeerIdHex) (m : Mesh) : Bool :=
    match m.findPeer p with
    | some ref => decide ((m.object ref).verdict ≠ .pending) || Mesh.awaitsDecision (m.object ref)
    | none => true

theorem mayDecide_sound {p : PeerIdHex} {m : Mesh} (h : isOrderlyCall.mayDecide p m = true) :
    m.MayDecide p := by
  intro ref hfind hpending
  unfold isOrderlyCall.mayDecide at h
  simp only [hfind, Bool.or_eq_true, decide_eq_true_eq] at h
  exact h.resolve_left fun hne => hne hpending

theorem isOrderlyCall_sound (e : Event) (m : Mesh) (h : isOrderlyCall e m = true) :
    OrderlyCall e m := by
  cases e with
  | acceptPeer p => exact mayDecide_sound h
  | rejectPeer p => exact mayDecide_sound h
  | chunk deviceId chunk id hr =>
      intro frame ref hframe hget htype
      unfold isOrderlyCall at h
      simp only [hframe, hget, Bool.or_eq_true, Bool.and_eq_true, decide_eq_true_eq,
        List.all_eq_true, Option.isNone_iff_eq_none] at h
      rcases h with (hsession | hrefused) | ⟨hnone, hflights⟩
      · exact absurd hsession htype
      · exact Or.inl hrefused
      · refine Or.inr ⟨hnone, fun i d hf => ?_⟩
        have hfree := hflights _ (InsMap.get?_eq_some.mp hf)
        exact bne_iff_ne.mp hfree rfl
  | _ => trivial

theorem accepted_late :
    let m := (meshRun .sample (.initial .empty 0) sendsToPeer).shared
    m.sent ≠ [] ∧ (m.object 0).verdict = .accepted ∧
      AcceptedAfterSas .sample (.initial .empty 0) sendsToPeer 0 := by
  have hlegal : Meets .sample (.initial .empty 0) OrderlyCall sendsToPeer :=
    .of_tests isOrderlyCall_sound (by decide +kernel)
  have hv : ((meshRun .sample (.initial .empty 0) sendsToPeer).shared.object 0).verdict =
      .accepted := by
    decide +kernel
  exact ⟨by decide +kernel, hv, (accepted_after_sas .sample .empty 0 sendsToPeer hlegal).1 0 hv⟩

/-- Peer 2 is sighted and accepted while its handshake is in progress. -/
def acceptsEarly : List (Move Event Unit) :=
  alone 0 (.startMesh sampleStart) 12 ++ alone 1 (sightingOf 2 "A") 40 ++
    [.start (.acceptPeer "0202020202020202")]

/-- The handshake goes on, and a frame is sent. -/
def sendsUndecided : List (Move Event Unit) :=
  acceptsEarly ++ arrives "A" 40 3 (chunksOf sampleMsg2 FrameType.HandshakeMsg2) ++
    alone 9 (.sendFrame "0202020202020202" [1, 2, 3] fun _ => .ok ()) 20

/-- The object is accepted without a SAS, and its later session is used although
nobody has decided on its SAS. -/
theorem early_acceptance :
    let early := ((meshRun .sample (.initial .empty 0) acceptsEarly).shared.object 0)
    let m := (meshRun .sample (.initial .empty 0) sendsUndecided).shared
    early.verdict = .accepted ∧ early.sas = none ∧ early.session.isNone = true ∧
      m.sent.map SentChunk.ref = [0] ∧ (m.object 0).sas.isSome = true := by
  decide +kernel

end Oxpulse.Transport
