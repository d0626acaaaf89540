import Oxpulse.Transport.MeshSend

/-!
# The CryptoState registered for a device

Two paths register a `CryptoState`: `initiateHandshake`, which overwrites the
entry that it finds, and the responder bootstrap, which does not. When a device
has one connect attempt at a time, and none while an entry exists or a bootstrap
is under way, an entry stays until a disconnect or `stopMesh` removes it
(`unrivalled_stays`).
-/

namespace Oxpulse.Transport

open Oxpulse.Coroutine Oxpulse.Crypto

/-! ## What a step does to the entry of a device -/

/-- Where `initiateHandshake` goes on once it has the identity, and would create
a `CryptoState`, none is registered. -/
def UnrivalledMove : Move Event Unit → Mesh → Mesh → Prop
  | .start _, _, _ => True
  | .resume i _, m, _ => ∀ d, m.flight i = some (.opening d) → m.peerId.isSome →
      m.connectedDevices.has d = true → m.cryptoStates.get? d = none

/-- A disconnect of the device, or a step of `stopMesh`. -/
def Removes (p : MeshPool) (d : DeviceId) : Move Event Unit → Prop
  | .start e => e = .disconnected d ∨ e = .connection d false ∨ ∃ r, e = .stopMesh r
  | .resume i _ => ∃ r st, p.calls[i]? = some ⟨.stopMesh r, st⟩

/-- The object is registered for the device; its decided verdict and its session
are those of before. -/
structure StaysRegistered (d : DeviceId) (ref : ℕ) (m m' : Mesh) : Prop where
  registered : m'.cryptoStates.get? d = some ref
  verdict : (m.object ref).verdict ≠ .pending → (m'.object ref).verdict = (m.object ref).verdict
  session : (m.object ref).session.isSome → (m'.object ref).session.isSome

section Step

variable {P : Primitives} {n ref : ℕ} {e : Event} {m m' m'' : Mesh} {d : DeviceId}

theorem StaysRegistered.trans (h : StaysRegistered d ref m m')
    (h' : StaysRegistered d ref m' m'') : StaysRegistered d ref m m'' where
  registered := h'.registered
  verdict := fun hv => by
    have hv' := h.verdict hv
    rw [← hv']
    exact h'.verdict (hv' ▸ hv)
  session := fun hs => h'.session (h.session hs)

theorem Flight.Next.opening_cases {k k' : ℕ} {φ : Option Flight}
    (h : Flight.Next k k' φ (some (.opening d))) :
    φ = some (.opening d) ∨ φ = some (.linked d) := by
  cases h with
  | same => exact Or.inl rfl
  | opening => exact Or.inr rfl

/-- While it waits for the identity, a call leaves the peer id and the entries of
`connectedDevices` alone. -/
theorem Atom.opening_leaves (h : Atom P n e m m') (hf : m.flight n = some (.opening d)) :
    m'.peerId = m.peerId ∧ m'.connectedDevices = m.connectedDevices := by
  have hother : ∀ {f : Flight}, m.flight n = some f → f ≠ .opening d →
      m'.peerId = m.peerId ∧ m'.connectedDevices = m.connectedDevices := by
    intro f hf' hne
    rw [hf] at hf'
    exact absurd (Option.some.inj hf').symm hne
  cases h with
  | failHandshake _ cs _ _ =>
      obtain ⟨_, _, _, heq⟩ := failHandshake_onlyObjects cs m
      rw [heq]
      exact ⟨rfl, rfl⟩
  | setSession _ ref k s _ _ =>
      obtain ⟨_, _, _, heq⟩ := setSession_onlyObjects ref k s m
      rw [heq]
      exact ⟨rfl, rfl⟩
  | connectedOutbound s c id hr _ hf' => exact hother hf' nofun
  | setPeerId r _ hf' => exact hother hf' nofun
  | disconnects r _ hf' => exact hother hf' nofun
  | removed r i handle _ hf' => exact hother hf' nofun
  | clears r i _ hf' => exact hother hf' nofun
  | _ => exact ⟨rfl, rfl⟩

theorem Chain.opening_leaves (h : Chain P n e m m') (hm : ¬ Waiting n m)
    (hf : m'.flight n = some (.opening d)) :
    m.flight n = some (.opening d) ∧ m'.peerId = m.peerId ∧
      m'.connectedDevices = m.connectedDevices := by
  induction h with
  | refl => exact ⟨hf, rfl, rfl⟩
  | tail hchain hatom ih =>
      have hnext := hatom.next
      rw [hf] at hnext
      rcases hnext.opening_cases with hopening | hlinked
      · obtain ⟨hstart, hpeer, hconn⟩ := ih hopening
        obtain ⟨hpeer', hconn'⟩ := hatom.opening_leaves hopening
        exact ⟨hstart, hpeer'.trans hpeer, hconn'.trans hconn⟩
      · have hwaiting := Chain.not_waiting hchain hm
        unfold Waiting at hwaiting
        rw [hlinked] at hwaiting
        exact absurd rfl hwaiting

/-- Only a scan callback that waits for the identity can replace the entry. -/
theorem Chain.registered (h : Chain P n e m m') (hget : m.cryptoStates.get? d = some ref)
    (hfree : ∀ m₁, Chain P n e m m₁ → (∃ s c id hr, e = .sighting s c id hr) →
      m₁.flight n = some (.opening d) → m₁.peerId.isSome →
      m₁.connectedDevices.has d = true → False) :
    m'.cryptoStates.get? d = some ref ∨
      ((∃ r, e = .stopMesh r) ∧ m'.cryptoStates.get? d = none) := by
  induction h with
  | refl => exact Or.inl hget
  | @tail m₁ m₂ hchain hatom ih =>
      rcases hatom.cryptoStates_cases with hsame | ⟨d', c, hcreating, hset, -⟩ | ⟨hstop, hempty⟩
      · rw [hsame]
        exact ih
      · by_cases hd : d' = d
        · subst hd
          cases hcreating with
          | opening s c id hr _ hf hpeer hconn =>
              exact (hfree m₁ hchain ⟨s, c, id, hr, rfl⟩ hf hpeer hconn).elim
          | bootstrapping _ chunk id hr _ _ hhas =>
              rcases ih with hreg | ⟨⟨r, hr⟩, -⟩
              · unfold InsMap.has at hhas
                rw [hreg] at hhas
                cases hhas
              · cases hr
        · rw [hset, InsMap.get?_set_ne _ hd]
          exact ih
      · rw [hempty]
        exact Or.inr ⟨hstop, rfl⟩

/-- Only a sighting and a chunk register. -/
theorem Chain.unregistered (h : Chain P n e m m') (he : e.identity = none)
    (hnone : m.cryptoStates.get? d = none) : m'.cryptoStates.get? d = none := by
  induction h with
  | refl => exact hnone
  | tail _ hatom ih =>
      rcases hatom.cryptoStates_cases with hsame | ⟨_, _, hcreating, -⟩ | ⟨-, hempty⟩
      · rw [hsame]
        exact ih
      · cases hcreating with
        | opening => cases he
        | bootstrapping => cases he
      · rw [hempty]
        rfl

theorem Segment.registered (h : Segment P n e m m') (hget : m.cryptoStates.get? d = some ref)
    (hfree : m.flight n = some (.opening d) → m.peerId.isSome →
      m.connectedDevices.has d = true → m.cryptoStates.get? d = none) :
    m'.cryptoStates.get? d = some ref ∨
      ((∃ r, e = .stopMesh r) ∧ m'.cryptoStates.get? d = none) := by
  by_cases hwaits : (∃ s c id hr, e = .sighting s c id hr) ∧ Waiting n m
  · obtain ⟨⟨s, c, id, hr, rfl⟩, hwaiting⟩ := hwaits
    have hsame : m'.cryptoStates = m.cryptoStates := h.paced hwaiting
    rw [hsame]
    exact Or.inl hget
  · refine h.chain.registered hget fun m₁ hchain hsighting hf hpeer hconn => ?_
    have hm : ¬ Waiting n m := fun hwaiting => hwaits ⟨hsighting, hwaiting⟩
    obtain ⟨hf₀, hpeer₀, hconn₀⟩ := hchain.opening_leaves hm hf
    rw [hpeer₀] at hpeer
    rw [hconn₀] at hconn
    rw [hfree hf₀ hpeer hconn] at hget
    cases hget

/-- A new call removes an entry only with a disconnect. -/
theorem Enters.stays (h : Enters e m m') (hget : m.cryptoStates.get? d = some ref) :
    m'.cryptoStates.get? d = some ref ∨
      ((e = .disconnected d ∨ e = .connection d false) ∧ m'.cryptoStates.get? d = none) := by
  have hdrop : ∀ (d' : DeviceId) (m₁ : Mesh), m₁.cryptoStates = m.cryptoStates →
      (m₁.disconnected d').cryptoStates.get? d = some ref ∨
        (d' = d ∧ (m₁.disconnected d').cryptoStates.get? d = none) := by
    intro d' m₁ hsame
    obtain ⟨_, _, heq⟩ := disconnected_eq d' m₁
    rw [heq]
    dsimp only
    rw [hsame, InsMap.get?_delete]
    by_cases hd : d' = d
    · rw [if_pos hd]
      exact Or.inr ⟨hd, rfl⟩
    · rw [if_neg hd]
      exact Or.inl hget
  cases h with
  | disconnected d' =>
      refine (hdrop d' (m.number.outboundDown d') rfl).imp_right ?_
      rintro ⟨rfl, hnone⟩
      exact ⟨Or.inl rfl, hnone⟩
  | dropped d' =>
      refine (hdrop d' (m.number.inboundDown d') rfl).imp_right ?_
      rintro ⟨rfl, hnone⟩
      exact ⟨Or.inr rfl, hnone⟩
  | connected d' =>
      obtain ⟨_, heq⟩ := connectedInbound_eq d' (m.number.inboundUp d')
      rw [heq]
      exact Or.inl hget
  | timeouts =>
      obtain ⟨_, _, _, heq⟩ := checkHandshakeTimeouts_onlyObjects m.number
      rw [heq]
      exact Or.inl hget
  | accepts p =>
      obtain ⟨_, _, _, heq⟩ := acceptPeer_onlyObjects p m.number
      rw [heq]
      exact Or.inl hget
  | rejects p =>
      obtain ⟨_, _, _, heq⟩ := rejectPeer_onlyObjects p m.number
      rw [heq]
      exact Or.inl hget
  | _ => exact Or.inl hget

/-- What a new scan callback registers, it registers in a later segment. -/
theorem not_opening_of_enters {m₀ : Mesh} (h : Enters e m m₀) (hf : m.flight m.calls = none) :
    m₀.flight m.calls ≠ some (.opening d) := by
  intro hopening
  rcases h.flights hopening with hold | ⟨-, hbegins⟩
  · rw [hf] at hold
    cases hold
  · cases hbegins with
    | takes _ _ _ htakes => cases htakes
    | routes deviceId chunk id hr _ frame _ _ hroutes => cases hroutes

end Step

/-! ## Runs without rivals -/

/-- The device of a scan callback that has created no `CryptoState` yet. -/
def Flight.opener : Flight → Option DeviceId
  | .connecting deviceId => some deviceId
  | .linked deviceId => some deviceId
  | .opening deviceId => some deviceId
  | _ => none

/-- A scan callback that may still create a `CryptoState` for the device. -/
def Opens (i : ℕ) (deviceId : DeviceId) (m : Mesh) : Prop :=
  ∃ f, m.flight i = some f ∧ f.opener = some deviceId

/-- A sighting that passes the checks finds no `CryptoState` of its device and
nothing under way that may create one; the responder bootstrap does not begin
while a scan callback is under way. -/
def UnrivalledCall : Event → Mesh → Prop
  | .sighting s _ _ _, m => m.Connects s.deviceId → m.cryptoStates.get? s.deviceId = none ∧
      ∀ i, ¬ Opens i s.deviceId m ∧ m.flight i ≠ some (.bootstrapping s.deviceId)
  | .chunk deviceId chunk _ _, m => ∀ frame, (m.reassemble deviceId chunk).2 = some frame →
      frame.frameType ≠ FrameType.SessionData → m.cryptoStates.get? deviceId = none →
      ∀ i, ¬ Opens i deviceId m
  | _, _ => True

/-- What such a run keeps. -/
structure Unrivalled (m : Mesh) : Prop where
  single : ∀ i j d, Opens i d m → Opens j d m → i = j
  unregistered : ∀ i d, Opens i d m → m.cryptoStates.get? d = none
  apart : ∀ i j d, Opens i d m → m.flight j ≠ some (.bootstrapping d)

section Unrivalled

variable {P : Primitives} {n : ℕ} {e : Event} {m m' : Mesh}

theorem Flight.Next.opener {k k' : ℕ} {φ : Option Flight} {f : Flight} {d : DeviceId}
    (h : Flight.Next k k' φ (some f)) (hf : f.opener = some d) :
    ∃ g, φ = some g ∧ g.opener = some d := by
  cases h with
  | same => exact ⟨f, rfl, hf⟩
  | linked => exact ⟨_, rfl, hf⟩
  | opening => exact ⟨_, rfl, hf⟩
  | _ => cases hf

theorem Flight.Next.bootstrapping {k k' : ℕ} {φ : Option Flight} {d : DeviceId}
    (h : Flight.Next k k' φ (some (.bootstrapping d))) : φ = some (.bootstrapping d) := by
  cases h with
  | same => rfl

/-- Only a sighting makes a scan callback. -/
theorem Atom.opens (h : Atom P n e m m') {i : ℕ} {d : DeviceId} (hi : Opens i d m') :
    Opens i d m := by
  obtain ⟨f, hf, hd⟩ := hi
  rcases h.flights hf with hold | ⟨rfl, hnext⟩
  · exact ⟨f, hold, hd⟩
  · obtain ⟨g, hg, hgd⟩ := hnext.opener hd
    exact ⟨g, hg, hgd⟩

theorem Atom.bootstrapping (h : Atom P n e m m') {i : ℕ} {d : DeviceId}
    (hi : m'.flight i = some (.bootstrapping d)) : m.flight i = some (.bootstrapping d) := by
  rcases h.flights hi with hold | ⟨rfl, hnext⟩
  · exact hold
  · exact hnext.bootstrapping

theorem not_opens_of_object {i ref : ℕ} {d : DeviceId} {f : Flight} (hf : m.flight i = some f)
    (href : f.object = some ref) : ¬ Opens i d m := by
  rintro ⟨g, hg, hd⟩
  rw [hf] at hg
  cases hg
  cases f with
  | connecting | linked | opening => cases href
  | _ => cases hd

theorem Atom.unrivalled (h : Atom P n e m m') (hm : Unrivalled m) : Unrivalled m' where
  single := fun i j d hi hj => hm.single i j d (h.opens hi) (h.opens hj)
  apart := fun i j d hi hj => hm.apart i j d (h.opens hi) (h.bootstrapping hj)
  unregistered := by
    intro i d hi
    have hnone := hm.unregistered i d (h.opens hi)
    rcases h.cryptoStates_cases with hsame | ⟨d', c, hcreating, hset, -, f, hf, href⟩ | ⟨-, hempty⟩
    · rw [hsame]
      exact hnone
    · by_cases hd : d' = d
      · subst hd
        -- Whoever creates it is the scan callback itself, or a bootstrap.
        cases hcreating with
        | opening s c id hr _ hopening =>
            have hn := hm.single i n s.deviceId (h.opens hi) ⟨_, hopening, rfl⟩
            subst hn
            exact absurd hi (not_opens_of_object hf href)
        | bootstrapping _ chunk id hr _ hbootstrapping =>
            exact absurd hbootstrapping (hm.apart i n d' (h.opens hi))
      · rw [hset, InsMap.get?_set_ne _ hd]
        exact hnone
    · rw [hempty]
      rfl

theorem Begins.opener {f : Flight} {d : DeviceId} (h : Begins e m f) (hd : f.opener = some d)
    (hcall : UnrivalledCall e m) : m.cryptoStates.get? d = none ∧
      ∀ i, ¬ Opens i d m ∧ m.flight i ≠ some (.bootstrapping d) := by
  cases h with
  | takes _ _ _ htakes =>
      cases htakes with
      | sighting s c id hr _ hconnects =>
          cases hd
          exact hcall hconnects
      | _ => cases hd
  | routes deviceId chunk id hr _ frame _ hframe hroutes =>
      cases hroutes with
      | _ => cases hd

theorem Begins.bootstrapping {f : Flight} {d : DeviceId} (h : Begins e m f)
    (hf : f = .bootstrapping d) (hcall : UnrivalledCall e m) : ∀ i, ¬ Opens i d m := by
  subst hf
  cases h with
  | takes _ _ _ htakes => cases htakes
  | routes deviceId chunk id hr _ frame _ hframe hroutes =>
      cases hroutes with
      | bootstrapping ourPeerId _ hnone htype => exact hcall frame hframe htype hnone

theorem Enters.opens (h : Enters e m m') {i : ℕ} {d : DeviceId} (hi : Opens i d m') :
    Opens i d m ∨ (i = m.calls ∧ ∃ f, Begins e m f ∧ f.opener = some d) := by
  obtain ⟨f, hf, hd⟩ := hi
  rcases h.flights hf with hold | ⟨heq, hbegins⟩
  · exact Or.inl ⟨f, hold, hd⟩
  · exact Or.inr ⟨heq, f, hbegins, hd⟩

theorem Enters.unrivalled (h : Enters e m m') (hcall : UnrivalledCall e m) (hm : Unrivalled m) :
    Unrivalled m' where
  single := by
    intro i j d hi hj
    rcases h.opens hi with hi | ⟨hi, f, hbegins, hf⟩
    · rcases h.opens hj with hj | ⟨-, f, hbegins, hf⟩
      · exact hm.single i j d hi hj
      · exact absurd hi ((hbegins.opener hf hcall).2 i).1
    · rcases h.opens hj with hj | ⟨hj, -⟩
      · exact absurd hj ((hbegins.opener hf hcall).2 j).1
      · rw [hi, hj]
  unregistered := by
    intro i d hi
    have hnone : m.cryptoStates.get? d = none := by
      rcases h.opens hi with hi | ⟨-, f, hbegins, hf⟩
      · exact hm.unregistered i d hi
      · exact (hbegins.opener hf hcall).1
    cases hget : m'.cryptoStates.get? d with
    | none => rfl
    | some ref =>
        rw [h.registered hget] at hnone
        cases hnone
  apart := by
    intro i j d hi hj
    rcases h.flights hj with hj | ⟨rfl, hbootstraps⟩
    · rcases h.opens hi with hi | ⟨-, f, hbegins, hf⟩
      · exact hm.apart i j d hi hj
      · exact ((hbegins.opener hf hcall).2 j).2 hj
    · rcases h.opens hi with hi | ⟨rfl, f, hbegins, hf⟩
      · exact hbootstraps.bootstrapping rfl hcall i hi
      · obtain ⟨g, hg, hgd⟩ := hi
        rw [hj] at hg
        cases hg
        cases hgd

theorem Pristine.unrivalled (hm : Pristine m) : Unrivalled m where
  single := fun i _ _ hi _ => by
    obtain ⟨f, hf, -⟩ := hi
    rw [hm.flight i] at hf
    cases hf
  unregistered := fun i _ hi => by
    obtain ⟨f, hf, -⟩ := hi
    rw [hm.flight i] at hf
    cases hf
  apart := fun i _ _ hi => by
    obtain ⟨f, hf, -⟩ := hi
    rw [hm.flight i] at hf
    cases hf

theorem meshRun_unrivalled (hm : Pristine m) {ms : List (Move Event Unit)}
    (h : Meets P m UnrivalledCall ms) : Unrivalled (meshRun P m ms).shared :=
  h.keeps hm.counted hm.unrivalled (fun _ _ _ henters => henters.unrivalled)
    fun _ _ _ _ hatom => hatom.unrivalled

/-- In such a run `initiateHandshake` finds no entry when it goes on. -/
theorem Meets.unrivalled_moves (hm : Pristine m) {ms : List (Move Event Unit)}
    (h : Meets P m UnrivalledCall ms) :
    Pool.Each (handle P) (Pool.fresh m) UnrivalledMove ms := by
  intro pre mv post heq
  cases mv with
  | start e => trivial
  | resume i u =>
      intro d hf _ _
      have hpre : Meets P m UnrivalledCall pre := by
        apply Pool.Each.prefix
        exact heq ▸ h
      exact (meshRun_unrivalled hm hpre).unregistered i d ⟨_, hf, rfl⟩

end Unrivalled

/-! ## Over a run -/

section Run

variable {P : Primitives} {m : Mesh} {d : DeviceId} {ref : ℕ}

/-- The entry of a device stays, or a disconnect or `stopMesh` removes it. -/
theorem meshRun_registered (hm : Pristine m) (ms : List (Move Event Unit)) (mv : Move Event Unit)
    (hmove : UnrivalledMove mv (meshRun P m ms).shared (meshRun P m (ms ++ [mv])).shared)
    (hget : (meshRun P m ms).shared.cryptoStates.get? d = some ref) :
    StaysRegistered d ref (meshRun P m ms).shared (meshRun P m (ms ++ [mv])).shared ∨
      (Removes (meshRun P m ms) d mv ∧
        (meshRun P m (ms ++ [mv])).shared.cryptoStates.get? d = none) := by
  have hlive := meshRun_live (P := P) hm ms
  have hpersists := ((meshRun_step (P := P) hm ms mv).1.old ref (hlive.registered d ref hget))
  have hstays : (meshRun P m (ms ++ [mv])).shared.cryptoStates.get? d = some ref →
      StaysRegistered d ref (meshRun P m ms).shared (meshRun P m (ms ++ [mv])).shared := by
    intro hreg
    refine ⟨hreg, fun hv => ?_, hpersists.session⟩
    exact hpersists.verdict.resolve_right fun h => hv h.1
  have hcount := (meshRun_sound (P := P) hm.counted ms).count
  revert hstays
  rw [meshRun_concat]
  intro hstays
  cases meshRun_stepCase (P := P) hm.counted ms mv with
  | idle _ hidle =>
      refine Or.inl (hstays ?_)
      rw [hidle]
      exact hget
  | start e m₀ st hE hG _ _ =>
      have hnone := hcount.2 _ (le_of_eq hcount.1.symm)
      rcases hE.stays hget with hreg | ⟨he, hgone⟩
      · have hfree : m₀.flight (meshRun P m ms).calls.length = some (.opening d) →
            m₀.peerId.isSome → m₀.connectedDevices.has d = true →
            m₀.cryptoStates.get? d = none := by
          intro hopening
          rw [← hcount.1] at hopening
          exact absurd hopening (not_opening_of_enters hE hnone)
        rcases hG.registered hreg hfree with hreg' | ⟨hstop, hnone'⟩
        · exact Or.inl (hstays hreg')
        · exact Or.inr ⟨Or.inr (Or.inr hstop), hnone'⟩
      · have hidentity : e.identity = none := by
          rcases he with rfl | rfl
          · rfl
          · rfl
        exact Or.inr ⟨he.imp_right Or.inl, hG.chain.unregistered hidentity hgone⟩
  | resume i e r k st hcall hG _ _ =>
      rcases hG.registered hget (hmove d) with hreg | ⟨⟨r', rfl⟩, hnone⟩
      · exact Or.inl (hstays hreg)
      · exact Or.inr ⟨⟨r', _, hcall⟩, hnone⟩

/-- A disconnect of the device or `stopMesh` removed the entry. -/
def RemovedWithin (P : Primitives) (m : Mesh) (d : DeviceId) (ref : ℕ)
    (pre mid : List (Move Event Unit)) : Prop :=
  ∃ mid₁ mv mid₂, mid = mid₁ ++ mv :: mid₂ ∧
    StaysRegistered d ref (meshRun P m pre).shared (meshRun P m (pre ++ mid₁)).shared ∧
    Removes (meshRun P m (pre ++ mid₁)) d mv ∧
    (meshRun P m (pre ++ mid₁ ++ [mv])).shared.cryptoStates.get? d = none

theorem meshRun_stays (hm : Pristine m) {pre mid : List (Move Event Unit)}
    (h : Pool.Each (handle P) (Pool.fresh m) UnrivalledMove (pre ++ mid))
    (hget : (meshRun P m pre).shared.cryptoStates.get? d = some ref) :
    StaysRegistered d ref (meshRun P m pre).shared (meshRun P m (pre ++ mid)).shared ∨
      RemovedWithin P m d ref pre mid := by
  induction mid using List.reverseRecOn with
  | nil =>
      rw [List.append_nil]
      exact Or.inl ⟨hget, fun _ => rfl, fun hs => hs⟩
  | append_singleton mid mv ih =>
      rw [← List.append_assoc] at h ⊢
      rcases ih h.init with hstays | ⟨mid₁, mv', mid₂, heq, hremoved⟩
      · rcases meshRun_registered (P := P) hm (pre ++ mid) mv
          (by rw [meshRun_concat]; exact h.last) hstays.registered with hstays' | ⟨hrem, hnone⟩
        · exact Or.inl (hstays.trans hstays')
        · exact Or.inr ⟨mid, mv, [], rfl, hstays, hrem, hnone⟩
      · refine Or.inr ⟨mid₁, mv', mid₂ ++ [mv], ?_, hremoved⟩
        rw [heq, List.append_assoc]
        rfl

/-- **With one attempt at a time**, and none while an entry exists or a bootstrap is under
way, the entry of a device stays until it is removed. -/
theorem unrivalled_stays (hm : Pristine m) {pre mid : List (Move Event Unit)}
    (h : Meets P m UnrivalledCall (pre ++ mid))
    (hget : (meshRun P m pre).shared.cryptoStates.get? d = some ref) :
    StaysRegistered d ref (meshRun P m pre).shared (meshRun P m (pre ++ mid)).shared ∨
      RemovedWithin P m d ref pre mid :=
  meshRun_stays hm (h.unrivalled_moves hm) hget

end Run

/-- **A CryptoState is not replaced under a live connection.** In a run in which
`initiateHandshake` goes on, once it has the identity, only for a device without
a `CryptoState`, the one registered for a device stays registered, with its
decided verdict and its session, until a disconnect of the device or `stopMesh`
removes it. -/
theorem cryptoState_stays_registered (P : Primitives) (tofu : TofuStore) (now : ℕ)
    (ms : List (Move Event Unit))
    (h : Pool.Each (handle P) (Pool.fresh (.initial tofu now)) UnrivalledMove ms) :
    ∀ pre mid post d ref, ms = pre ++ mid ++ post →
      (meshRun P (.initial tofu now) pre).shared.cryptoStates.get? d = some ref →
      StaysRegistered d ref (meshRun P (.initial tofu now) pre).shared
          (meshRun P (.initial tofu now) (pre ++ mid)).shared ∨
        RemovedWithin P (.initial tofu now) d ref pre mid := by
  rintro pre mid post d ref rfl hget
  exact meshRun_stays (pristine_initial tofu now) h.prefix hget

/-! ### A run with one attempt, and one with two -/

/-- The test of `UnrivalledMove`. -/
def isUnrivalledMove : Move Event Unit → Mesh → Mesh → Bool
  | .start _, _, _ => true
  | .resume i _, m, _ =>
      match m.flight i with
      | some (.opening d) => (m.cryptoStates.get? d).isNone
      | _ => true

theorem isUnrivalledMove_sound (mv : Move Event Unit) (m m' : Mesh)
    (h : isUnrivalledMove mv m m' = true) : UnrivalledMove mv m m' := by
  cases mv with
  | start e => trivial
  | resume i r =>
      intro d hf _ _
      simp only [isUnrivalledMove, hf] at h
      exact Option.isNone_iff_eq_none.mp h

/-- Peer 2 is sighted, shakes hands and is accepted. -/
def acceptsPeer : List (Move Event Unit) :=
  alone 0 (.startMesh sampleStart) 12 ++ alone 1 (sightingOf 2 "A") 40 ++
    arrives "A" 40 2 (chunksOf sampleMsg2 FrameType.HandshakeMsg2) ++
    [.start (.acceptPeer "0202020202020202")]

/-- A frame is sent to it. -/
def sendsOne : List (Move Event Unit) :=
  alone 9 (.sendFrame "0202020202020202" [1, 2, 3] fun _ => .ok ()) 20

theorem accepted_stays_registered :
    let m := (meshRun .sample (.initial .empty 0) acceptsPeer).shared
    let m' := (meshRun .sample (.initial .empty 0) (acceptsPeer ++ sendsOne)).shared
    (m.object 0).verdict = .accepted ∧ (m.object 0).session.isSome = true ∧
      m'.cryptoStates.get? "A" = some 0 ∧
      (StaysRegistered "A" 0 m m' ∨
        RemovedWithin .sample (.initial .empty 0) "A" 0 acceptsPeer sendsOne) := by
  have hlegal : Pool.Each (handle .sample) (Pool.fresh (.initial .empty 0)) UnrivalledMove
      (acceptsPeer ++ sendsOne) :=
    .of_checks isUnrivalledMove_sound (by decide +kernel)
  refine ⟨by decide +kernel, by decide +kernel, by decide +kernel, ?_⟩
  exact cryptoState_stays_registered .sample .empty 0 _ hlegal acceptsPeer sendsOne [] "A" 0
    (List.append_nil _).symm (by decide +kernel)

/-- Peer 2 is sighted twice before it is connected; over the first link it shakes
hands and is accepted. -/
def sightedTwice : List (Move Event Unit) :=
  alone 0 (.startMesh sampleStart) 12 ++
    [.start (sightingOf 2 "A"), .start (sightingOf 2 "A")] ++ List.replicate 40 (.resume 1 ()) ++
    arrives "A" 40 3 (chunksOf sampleMsg2 FrameType.HandshakeMsg2) ++
    [.start (.acceptPeer "0202020202020202")]

/-- The second attempt goes on, and a blank object takes the place of the
accepted one. -/
theorem second_attempt_replaces :
    let m := (meshRun .sample (.initial .empty 0) sightedTwice).shared
    let m' := (meshRun .sample (.initial .empty 0)
      (sightedTwice ++ List.replicate 40 (.resume 2 ()))).shared
    m.cryptoStates.get? "A" = some 0 ∧ (m.object 0).verdict = .accepted ∧
      (m.object 0).session.isSome = true ∧
      m'.connectedDevices.has "A" = true ∧ m'.cryptoStates.get? "A" = some 1 ∧
      (m'.object 1).verdict = .pending ∧ (m'.object 1).session.isSome = false := by
  decide +kernel

end Oxpulse.Transport
