import Oxpulse.Transport.ConnectionLimit

/-!
# `connectedDevices` and the links

An outbound and an inbound link to one address share one entry of
`connectedDevices`. A connection event of the GATT server leaves an entry that is
there alone; both disconnect handlers delete it, with the `CryptoState`, the MTU
and the reassembler, whatever the other link does. The outbound entry is written
some awaits after the link came up, and none for the link of an attempt that was
given up.

`devices_mirror_links` says when the entries are the links nevertheless. A call
that is past the wait for its link stays so, and the link comes up in a segment of
its own (`handle_holds`); besides these, an atom of a call either leaves entries
and links alone or writes the outbound entry.
-/

namespace Oxpulse.Transport

open Oxpulse.Coroutine Oxpulse.Crypto

/-! ## Links, entries and what is kept -/

namespace Mesh

/-- A link to the device is up. -/
def Up (d : DeviceId) (m : Mesh) : Prop := d ∈ m.native.outbound ∨ d ∈ m.native.inbound

/-- A call besides `n` attempts the device. -/
def AttemptedBut (n : ℕ) (d : DeviceId) (m : Mesh) : Prop :=
  ∃ i, i ≠ n ∧ m.attempt i = some d

/-- A disconnect does no harm while another link to the device is up: an attempt
is to write the entry, and nothing else is kept. -/
structure Spare (d : DeviceId) (m : Mesh) : Prop where
  attempted : ∃ i, m.attempt i = some d
  cryptoState : m.cryptoStates.has d = false
  mtu : m.mtuCache.has d = false
  reassembler : m.reassemblers.has d = false

/-- From `m` to `m'` an entry of the device is dropped that is not the one of
`connectedDevices`. -/
def Drops (d : DeviceId) (m m' : Mesh) : Prop :=
  (m.cryptoStates.has d = true ∧ m'.cryptoStates.has d = false) ∨
    (m.mtuCache.has d = true ∧ m'.mtuCache.has d = false) ∨
    (m.reassemblers.has d = true ∧ m'.reassemblers.has d = false)

end Mesh

/-- What a step should find. A disconnect of one link finds the other one down, or
the device to spare. A link that comes up late finds the entry there, or an attempt
that is to write it. An attempt whose link came up and that ends with this step finds
a link up if it succeeds; if it fails, or its link did not come up, it finds the links
down, or the entry there, or another attempt. And `stopMesh` is not called. -/
def Fits (P : Primitives) (p : MeshPool) : Move Event Unit → Prop
  | .start (.stopMesh _) => False
  | .start (.disconnected d) => d ∈ p.shared.native.inbound → p.shared.Spare d
  | .start (.connection d false) => d ∈ p.shared.native.outbound → p.shared.Spare d
  | .start (.lateLink d) =>
      p.shared.connectedDevices.has d = true ∨ ∃ i, p.shared.attempt i = some d
  | .start _ => True
  | .resume i r => ∀ s c id hr st, p.calls[i]? = some ⟨.sighting s c id hr, st⟩ →
      p.shared.attempt i = some s.deviceId →
      (p.step (handle P) (.resume i r)).shared.attempt i ≠ some s.deviceId →
      (c.Succeeds → p.shared.Up s.deviceId) ∧
      (p.shared.flight i = some (.connecting s.deviceId) ∨ ¬ c.Succeeds →
        p.shared.Up s.deviceId →
        p.shared.connectedDevices.has s.deviceId = true ∨ p.shared.AttemptedBut i s.deviceId)

/-! ## The pace of an attempt -/

/-- In a segment that begins before the link is up, the link may come up, and
nothing follows it. -/
def Hold (n : ℕ) (d : DeviceId) (m m' : Mesh) : Prop :=
  m.flight n = some (.connecting d) → m'.connectedDevices = m.connectedDevices ∧
    m'.native.inbound = m.native.inbound ∧
    (m'.native.outbound = m.native.outbound ∨
      m'.native.outbound = insert d m.native.outbound ∧ m'.flight n = some (.linked d))

/-- `Hold`, for the calls that attempt. -/
def Holds (n : ℕ) : Event → Mesh → Mesh → Prop
  | .sighting s _ _ _, m, m' => Hold n s.deviceId m m'
  | _, _, _ => True

section Pace

variable {P : Primitives} {n : ℕ} {e : Event} {α : Type} {m m' : Mesh} {d : DeviceId}
  {s : Mesh.PeerSighting} {c : ConnectReplies} {id : IdentityReplies} {hr : HandshakeReplies}

theorem Hold.of_eq (hentries : m'.connectedDevices = m.connectedDevices)
    (hnative : m'.native = m.native) : Hold n d m m' :=
  fun _ => ⟨hentries, congrArg _ hnative, Or.inl (congrArg _ hnative)⟩

theorem Hold.of_past (h : m.flight n ≠ some (.connecting d)) : Hold n d m m' :=
  fun hconnecting => absurd hconnecting h

/-- No flight leads back to the wait for the link. -/
theorem Flight.Next.connecting {k k' : ℕ} {φ φ' : Option Flight} (h : Flight.Next k k' φ φ')
    (hφ : φ' = some (.connecting d)) : φ = some (.connecting d) := by
  cases h with
  | same => exact hφ
  | _ => cases hφ

theorem Chain.past_link (h : Chain P n e m m') (hm : m.flight n ≠ some (.connecting d)) :
    m'.flight n ≠ some (.connecting d) := by
  induction h with
  | refl => exact hm
  | tail _ hatom ih => exact fun hconnecting => ih (hatom.next.connecting hconnecting)

/-- A call that is past the wait for its link stays so. -/
theorem sat_past_link {Q : Mesh → Except JsError α → Prop} :
    ∀ (o : Outcome Unit Mesh JsError α) {m : Mesh}, m.flight n ≠ some (.connecting d) →
      o.Sat (fun _ => True) (Rely n) (Chain P n e) Q m →
      o.Sat (fun _ => True) (Rely n) (Hold n d) (fun _ _ => True) m
  | .ret _ _, _, hm, _ => ⟨.of_past hm, trivial⟩
  | .throw _ _, _, hm, _ => ⟨.of_past hm, trivial⟩
  | .await s k, _, hm, ⟨_, hG, hk⟩ => by
      refine ⟨trivial, .of_past hm, fun r s' _ hR => ?_⟩
      have hs' : s'.flight n ≠ some (.connecting d) := by
        rw [show s'.flight n = s.flight n from hR]
        exact Chain.past_link hG hm
      exact sat_past_link (k r s') hs' (hk r s' trivial hR)

/-- The scan callback waits for its link, and again after the link came up. -/
theorem onSighting_holds {m₀ : Mesh} (hf : m.flight m.calls = none)
    (henters : Enters (.sighting s c id hr) m m₀) :
    (handle P (.sighting s c id hr) m).Sat (fun _ => True) (Rely m.calls)
      (Hold m.calls s.deviceId) (fun _ _ => True) m₀ := by
  have hsame : m₀.native = m.native ∧ m₀.connectedDevices = m.connectedDevices := by
    cases henters with
    | ignored => exact ⟨rfl, rfl⟩
    | takes => exact ⟨rfl, rfl⟩
  have hfirst : ∀ m₁ : Mesh, m₁.native = m.native → m₁.connectedDevices = m.connectedDevices →
      Hold m.calls s.deviceId m₀ m₁ :=
    fun _ hnative hdevices => .of_eq (hdevices.trans hsame.2.symm) (hnative.trans hsame.1.symm)
  have hlinkUp : ∀ m₂ : Mesh,
      Hold m.calls s.deviceId m₂ (m₂.linkUp m.calls s.deviceId) :=
    fun _ _ => ⟨rfl, rfl, Or.inr ⟨rfl, flight_launch_self⟩⟩
  have hpast : ∀ m₂ m₃ : Mesh, Rely m.calls (m₂.linkUp m.calls s.deviceId) m₃ →
      m₃.flight m.calls ≠ some (.connecting s.deviceId) := by
    intro m₂ m₃ hR hconnecting
    have hlinked : (m₂.linkUp m.calls s.deviceId).flight m.calls = some (.linked s.deviceId) :=
      flight_launch_self
    rw [show m₃.flight m.calls = _ from hR, hlinked] at hconnecting
    cases hconnecting
  obtain ⟨_, -, hsat⟩ := handle_chains (P := P) (.sighting s c id hr) hf
  unfold handle respond landing onSighting at hsat ⊢
  simp only [Co.bind_apply, Co.get_apply, Co.modify_apply, Co.attempt, Outcome.bind,
    Co.ite_apply] at hsat ⊢
  split_ifs at hsat ⊢
  · exact ⟨hfirst _ rfl rfl, trivial⟩
  · exact ⟨hfirst _ rfl rfl, trivial⟩
  · exact ⟨hfirst _ rfl rfl, trivial⟩
  · obtain ⟨connect, discoverServices, _, _⟩ := c
    cases connect with
    | error err =>
        exact ⟨trivial, hfirst _ rfl rfl, fun _ m₂ _ _ => ⟨trivial, .of_eq rfl rfl,
          fun _ m₃ _ _ => ⟨.of_eq rfl rfl, trivial⟩⟩⟩
    | ok u =>
        -- Whatever `discoverServices` answers, it is awaited.
        cases discoverServices with
        | error err =>
            exact ⟨trivial, hfirst _ rfl rfl, fun _ m₂ _ hR₂ => ⟨trivial, hlinkUp m₂,
              fun _ m₃ _ hR₃ => sat_past_link _ (hpast m₂ m₃ hR₃)
                ((hsat.2.2 () m₂ trivial hR₂).2.2 () m₃ trivial hR₃)⟩⟩
        | ok u =>
            exact ⟨trivial, hfirst _ rfl rfl, fun _ m₂ _ hR₂ => ⟨trivial, hlinkUp m₂,
              fun _ m₃ _ hR₃ => sat_past_link _ (hpast m₂ m₃ hR₃)
                ((hsat.2.2 () m₂ trivial hR₂).2.2 () m₃ trivial hR₃)⟩⟩

theorem handle_holds (e : Event) {m₀ : Mesh} (hf : m.flight m.calls = none)
    (henters : Enters e m m₀) :
    (handle P e m).Sat (fun _ => True) (Rely m.calls) (Holds m.calls e) (fun _ _ => True) m₀ := by
  cases e with
  | sighting s c id hr => exact onSighting_holds hf henters
  | _ => exact (Outcome.sat_true _ _).rely fun _ _ _ => trivial

end Pace

/-! ## What a segment does to links and entries -/

/-- Links and entries are left alone. -/
structure SameLinks (m m' : Mesh) : Prop where
  devices : m'.connectedDevices = m.connectedDevices
  outbound : m'.native.outbound = m.native.outbound
  inbound : m'.native.inbound = m.native.inbound

/-- Nothing that is kept for a device is dropped. -/
structure Kept (m m' : Mesh) : Prop where
  cryptoState : ∀ d, m.cryptoStates.has d = true → m'.cryptoStates.has d = true
  mtu : ∀ d, m.mtuCache.has d = true → m'.mtuCache.has d = true
  reassembler : ∀ d, m.reassemblers.has d = true → m'.reassemblers.has d = true

/-- The links are the same, and the outbound entry of the device is written. -/
structure WritesEntry (d : DeviceId) (m m' : Mesh) : Prop where
  devices : m'.connectedDevices = m.connectedDevices.set d .outbound
  outbound : m'.native.outbound = m.native.outbound
  inbound : m'.native.inbound = m.native.inbound

section Segments

variable {P : Primitives} {n : ℕ} {e : Event} {m m' m'' : Mesh} {d : DeviceId}
  {s : Mesh.PeerSighting} {c : ConnectReplies} {id : IdentityReplies} {hr : HandshakeReplies}

theorem SameLinks.refl (m : Mesh) : SameLinks m m := ⟨rfl, rfl, rfl⟩

theorem SameLinks.trans (h : SameLinks m m') (h' : SameLinks m' m'') : SameLinks m m'' :=
  ⟨h'.devices.trans h.devices, h'.outbound.trans h.outbound, h'.inbound.trans h.inbound⟩

theorem SameLinks.up (h : SameLinks m m') : m'.Up d ↔ m.Up d := by
  unfold Mesh.Up
  rw [h.outbound, h.inbound]

theorem Kept.refl (m : Mesh) : Kept m m := ⟨fun _ h => h, fun _ h => h, fun _ h => h⟩

theorem Kept.trans (h : Kept m m') (h' : Kept m' m'') : Kept m m'' :=
  ⟨fun d hd => h'.cryptoState d (h.cryptoState d hd), fun d hd => h'.mtu d (h.mtu d hd),
    fun d hd => h'.reassembler d (h.reassembler d hd)⟩

theorem Kept.not_drops (h : Kept m m') : ¬ m.Drops d m' := by
  rintro (⟨hd, hno⟩ | ⟨hd, hno⟩ | ⟨hd, hno⟩)
  · exact Bool.false_ne_true (hno.symm.trans (h.cryptoState d hd))
  · exact Bool.false_ne_true (hno.symm.trans (h.mtu d hd))
  · exact Bool.false_ne_true (hno.symm.trans (h.reassembler d hd))

theorem has_set {α : Type} (entries : InsMap DeviceId α) (d : DeviceId) (a : α) (d' : DeviceId) :
    (entries.set d a).has d' = true ↔ d' = d ∨ entries.has d' = true := by
  unfold InsMap.has
  rw [InsMap.get?_set]
  split
  next h => simp [h]
  next h => simp [Ne.symm h]

theorem Kept.of_eq (hstates : m'.cryptoStates = m.cryptoStates) (hmtu : m'.mtuCache = m.mtuCache)
    (hreassemblers : m'.reassemblers = m.reassemblers) : Kept m m' :=
  ⟨fun _ h => by rwa [hstates], fun _ h => by rwa [hmtu], fun _ h => by rwa [hreassemblers]⟩

theorem OnlyObjects.sameLinks (h : OnlyObjects m m') : SameLinks m m' ∧ Kept m m' := by
  obtain ⟨_, _, _, rfl⟩ := h
  exact ⟨⟨rfl, rfl, rfl⟩, .of_eq rfl rfl rfl⟩

/-- Besides the two assignments that matter, a call leaves links and entries alone.
Only `stopMesh` drops what is kept. -/
theorem Atom.links (h : Atom P n e m m') (hrunning : ∀ r, e ≠ .stopMesh r) :
    Kept m m' ∧ (SameLinks m m' ∨
      ∃ s c id hr, e = .sighting s c id hr ∧
        ((m.flight n = some (.connecting s.deviceId) ∧ m' = m.linkUp n s.deviceId) ∨
        (m.flight n = some (.linked s.deviceId) ∧ c.Succeeds ∧
          m' = (m.connectedOutbound s).launch n (.opening s.deviceId)))) := by
  cases h with
  | linkUp s c id hr _ hf =>
      exact ⟨.of_eq rfl rfl rfl, Or.inr ⟨s, c, id, hr, rfl, Or.inl ⟨hf, rfl⟩⟩⟩
  | connectedOutbound s c id hr _ hf hsucceeds =>
      exact ⟨.of_eq rfl rfl rfl, Or.inr ⟨s, c, id, hr, rfl, Or.inr ⟨hf, hsucceeds, rfl⟩⟩⟩
  | setMtu s c id hr =>
      refine ⟨⟨fun _ h => h, fun d hd => ?_, fun _ h => h⟩, Or.inl ⟨rfl, rfl, rfl⟩⟩
      exact (has_set _ _ _ _).mpr (Or.inr hd)
  | opened =>
      refine ⟨⟨fun d hd => ?_, fun _ h => h, fun _ h => h⟩, Or.inl ⟨rfl, rfl, rfl⟩⟩
      exact (has_set _ _ _ _).mpr (Or.inr hd)
  | bootstrapped deviceId chunk id hr _ identity role peerIdHex payload =>
      refine ⟨⟨fun d hd => ?_, fun _ h => h, fun _ h => h⟩, Or.inl ⟨rfl, rfl, rfl⟩⟩
      exact (has_set _ _ _ _).mpr (Or.inr hd)
  | failHandshake _ cs _ _ =>
      have h := (failHandshake_onlyObjects cs m).sameLinks
      exact ⟨h.2, Or.inl h.1⟩
  | setSession _ ref k s _ _ =>
      have h := (setSession_onlyObjects ref k s m).sameLinks
      exact ⟨h.2, Or.inl h.1⟩
  | scanOff r | advertisingOff r | gattServerOff r | timersOff r | disconnects r | removes r
  | removed r | clears r => exact absurd rfl (hrunning r)
  | _ => exact ⟨.of_eq rfl rfl rfl, Or.inl ⟨rfl, rfl, rfl⟩⟩

/-- The device of an attempt stays the same. -/
theorem Flight.Next.device {k k' : ℕ} {φ φ' : Option Flight} (h : Flight.Next k k' φ φ')
    (hd : φ'.bind Flight.attempt = some d) : φ.bind Flight.attempt = some d := by
  cases h with
  | same => exact hd
  | linked => exact hd
  | _ => cases hd

theorem Chain.attempt (h : Chain P n e m m') (hd : m'.attempt n = some d) :
    m.attempt n = some d := by
  induction h with
  | refl => exact hd
  | tail _ hatom ih => exact ih (hatom.next.device hd)

/-- A call that makes no attempt leaves links and entries alone. -/
theorem Chain.sameLinks (h : Chain P n e m m') (hrunning : ∀ r, e ≠ .stopMesh r)
    (hm : ∀ d, m.attempt n ≠ some d) : SameLinks m m' := by
  induction h with
  | refl => exact .refl m
  | @tail b b' hchain hatom ih =>
      rcases (hatom.links hrunning).2 with hsame | ⟨s, c, id, hr, -, ⟨hf, -⟩ | ⟨hf, -⟩⟩
      · exact ih.trans hsame
      · exact absurd (Chain.attempt hchain (attempt_of_flight hf)) (hm _)
      · exact absurd (Chain.attempt hchain (attempt_of_flight hf)) (hm _)

theorem Chain.kept (h : Chain P n e m m') (hrunning : ∀ r, e ≠ .stopMesh r) : Kept m m' := by
  induction h with
  | refl => exact .refl m
  | tail _ hatom ih => exact ih.trans (hatom.links hrunning).1

/-- An attempt that has its link keeps it, writes the entry, or fails. -/
theorem Atom.linked (h : Atom P n (.sighting s c id hr) m m')
    (hf : m.flight n = some (.linked s.deviceId)) :
    (SameLinks m m' ∧ m'.flight n = some (.linked s.deviceId)) ∨
      (SameLinks m m' ∧ ¬ c.Succeeds ∧ m'.flight n = none) ∨
      (WritesEntry s.deviceId m m' ∧ c.Succeeds ∧ m'.flight n = some (.opening s.deviceId)) := by
  have hstays : m'.flight n = m.flight n → SameLinks m m' →
      (SameLinks m m' ∧ m'.flight n = some (.linked s.deviceId)) := fun h h' => ⟨h', h.trans hf⟩
  have hother : ∀ f, f.attempt = none → m.flight n ≠ some f := by
    intro f hattempt hflight
    rw [hf] at hflight
    cases hflight
    cases hattempt
  cases h with
  | linkUp _ _ _ _ _ hf' =>
      rw [hf] at hf'
      cases hf'
  | connectedOutbound _ _ _ _ _ _ hsucceeds =>
      exact Or.inr (Or.inr ⟨⟨rfl, rfl, rfl⟩, hsucceeds, flight_launch_self⟩)
  | lands _ _ hends =>
      rw [hf] at hends
      obtain ⟨_, _, _, _, heq, hfails⟩ := hends
      cases heq
      exact Or.inr (Or.inl ⟨⟨rfl, rfl, rfl⟩, hfails, flight_land_self⟩)
  | failHandshake _ cs _ _ =>
      have hobjects := failHandshake_onlyObjects cs m
      exact Or.inl (hstays (flight_of_flights hobjects.flights) hobjects.sameLinks.1)
  | setSession _ ref k s' _ _ =>
      have hobjects := setSession_onlyObjects ref k s' m
      exact Or.inl (hstays (flight_of_flights hobjects.flights) hobjects.sameLinks.1)
  | opened _ _ _ _ _ _ _ hf' => exact absurd hf' (hother _ rfl)
  | concludes _ _ _ _ _ hf' => exact absurd hf' (hother _ rfl)
  | _ => exact Or.inl (hstays rfl ⟨rfl, rfl, rfl⟩)

theorem Chain.linked (h : Chain P n (.sighting s c id hr) m m')
    (hf : m.flight n = some (.linked s.deviceId)) :
    (SameLinks m m' ∧ (m'.flight n = some (.linked s.deviceId) ∨
      (¬ c.Succeeds ∧ m'.flight n ≠ some (.linked s.deviceId)))) ∨
      (WritesEntry s.deviceId m m' ∧ c.Succeeds ∧ m'.flight n ≠ some (.linked s.deviceId)) := by
  have hrunning : ∀ r, Event.sighting s c id hr ≠ .stopMesh r := fun _ h => nomatch h
  induction h using Relation.ReflTransGen.head_induction_on with
  | refl => exact Or.inl ⟨.refl m', Or.inl hf⟩
  | @head a b hatom hchain ih =>
      -- Once the flight is another one there is no way back to an attempt.
      have hover : ∀ φ, b.flight n = φ → φ.bind Flight.attempt = none →
          SameLinks b m' ∧ m'.flight n ≠ some (.linked s.deviceId) := by
        intro φ hφ hnone
        have hb : ∀ d, b.attempt n ≠ some d := by
          intro d hd
          rw [Mesh.attempt, hφ, hnone] at hd
          cases hd
        exact ⟨Chain.sameLinks hchain hrunning hb,
          fun hlinked => hb _ (Chain.attempt hchain (attempt_of_flight hlinked))⟩
      rcases hatom.linked hf with ⟨hsame, hb⟩ | ⟨hsame, hfails, hb⟩ | ⟨hwrites, hsucceeds, hb⟩
      · rcases ih hb with ⟨hsame', hend⟩ | ⟨hwrites, hend⟩
        · exact Or.inl ⟨hsame.trans hsame', hend⟩
        · refine Or.inr ⟨⟨?_, ?_, ?_⟩, hend⟩
          · rw [hwrites.devices, hsame.devices]
          · rw [hwrites.outbound, hsame.outbound]
          · rw [hwrites.inbound, hsame.inbound]
      · obtain ⟨hsame', hend⟩ := hover _ hb rfl
        exact Or.inl ⟨hsame.trans hsame', Or.inr ⟨hfails, hend⟩⟩
      · obtain ⟨hsame', hend⟩ := hover _ hb rfl
        refine Or.inr ⟨⟨?_, ?_, ?_⟩, hsucceeds, hend⟩
        · rw [hsame'.devices, hwrites.devices]
        · rw [hsame'.outbound, hwrites.outbound]
        · rw [hsame'.inbound, hwrites.inbound]

end Segments

/-! ## The invariant -/

/-- **The mirror**: an entry has a link, and a link has its entry, or an attempt
that is to write it. -/
structure Mirrored (m : Mesh) : Prop where
  entry : ∀ d, m.connectedDevices.has d = true → m.Up d
  link : ∀ d, m.Up d → m.connectedDevices.has d = true ∨ ∃ i, m.attempt i = some d

theorem mirrored_initial (tofu : TofuStore) (now : ℕ) : Mirrored (.initial tofu now) := by
  constructor
  · exact fun _ h => nomatch h
  · rintro d (hd | hd)
    · exact absurd hd (Finset.notMem_empty d)
    · exact absurd hd (Finset.notMem_empty d)

section Mirrored

variable {P : Primitives} {n : ℕ} {e : Event} {m m' : Mesh} {d : DeviceId}

theorem attempt_congr {i : ℕ} (h : m'.flight i = m.flight i) : m'.attempt i = m.attempt i := by
  unfold Mesh.attempt
  rw [h]

/-- Another call moves: what it does to links and entries, and to its own attempt. -/
theorem Mirrored.segment (hm : Mirrored m) (hflights : ∀ i, i ≠ n → m'.flight i = m.flight i)
    (h : SameLinks m m' ∨ ∃ d, WritesEntry d m m' ∧ m.Up d)
    (hattempt : ∀ d, m.attempt n = some d →
      m'.attempt n = some d ∨ (m.Up d → m'.connectedDevices.has d = true ∨
        m.AttemptedBut n d)) : Mirrored m' := by
  have hup : ∀ d, m'.Up d ↔ m.Up d := by
    intro d
    unfold Mesh.Up
    rcases h with hsame | ⟨_, hwrites, -⟩
    · rw [hsame.outbound, hsame.inbound]
    · rw [hwrites.outbound, hwrites.inbound]
  have hhas : ∀ d, m.connectedDevices.has d = true → m'.connectedDevices.has d = true := by
    intro d hd
    rcases h with hsame | ⟨_, hwrites, -⟩
    · rwa [hsame.devices]
    · rw [hwrites.devices]
      exact (has_set _ _ _ _).mpr (Or.inr hd)
  constructor
  · intro d hd
    rcases h with hsame | ⟨_, hwrites, hlink⟩
    · rw [hsame.devices] at hd
      exact (hup d).mpr (hm.entry d hd)
    · rw [hwrites.devices] at hd
      rcases (has_set _ _ _ _).mp hd with rfl | hold
      · exact (hup _).mpr hlink
      · exact (hup d).mpr (hm.entry d hold)
  · intro d hd
    rcases hm.link d ((hup d).mp hd) with hold | ⟨i, hi⟩
    · exact Or.inl (hhas d hold)
    · by_cases hin : i = n
      · subst hin
        rcases hattempt d hi with hstays | hends
        · exact Or.inr ⟨i, hstays⟩
        · rcases hends ((hup d).mp hd) with hnew | ⟨j, hj, hjd⟩
          · exact Or.inl hnew
          · exact Or.inr ⟨j, (attempt_congr (hflights j hj)).trans hjd⟩
      · exact Or.inr ⟨i, (attempt_congr (hflights i hin)).trans hi⟩

/-- The link of an attempt comes up. -/
theorem Mirrored.comesUp (hm : Mirrored m) (hflights : ∀ i, i ≠ n → m'.flight i = m.flight i)
    (hmine : ∀ d', m.attempt n = some d' → d' = d)
    (hdevices : m'.connectedDevices = m.connectedDevices)
    (hinbound : m'.native.inbound = m.native.inbound)
    (hinsert : m'.native.outbound = insert d m.native.outbound) (hattempt : m'.attempt n = some d) :
    Mirrored m' := by
  have hup : ∀ d', m'.Up d' ↔ d' = d ∨ m.Up d' := by
    intro d'
    unfold Mesh.Up
    rw [hinsert, hinbound, Finset.mem_insert, or_assoc]
  constructor
  · intro d' hd'
    rw [hdevices] at hd'
    exact (hup d').mpr (Or.inr (hm.entry d' hd'))
  · intro d' hd'
    rcases (hup d').mp hd' with rfl | hold
    · exact Or.inr ⟨n, hattempt⟩
    · rw [hdevices]
      rcases hm.link d' hold with hhas | ⟨i, hi⟩
      · exact Or.inl hhas
      · by_cases hin : i = n
        · subst hin
          exact Or.inr ⟨i, hmine d' hi ▸ hattempt⟩
        · exact Or.inr ⟨i, (attempt_congr (hflights i hin)).trans hi⟩

/-- The link of an attempt comes up, or not yet, or the attempt is over. -/
theorem Mirrored.hold (hm : Mirrored m) (hf : m.flight n = some (.connecting d))
    (hflights : ∀ i, i ≠ n → m'.flight i = m.flight i) (h : Hold n d m m')
    (hends : m'.attempt n ≠ some d → m.Up d →
      m.connectedDevices.has d = true ∨ m.AttemptedBut n d) : Mirrored m' := by
  have hmine : ∀ d', m.attempt n = some d' → d' = d := by
    intro d' hd'
    rw [attempt_of_flight hf] at hd'
    exact (Option.some.inj hd').symm
  obtain ⟨hdevices, hinbound, hsame | ⟨hinsert, hlinked⟩⟩ := h hf
  · refine hm.segment hflights (Or.inl ⟨hdevices, hsame, hinbound⟩) fun d' hd' => ?_
    rw [hmine d' hd', hdevices]
    by_cases hstill : m'.attempt n = some d
    · exact Or.inl hstill
    · exact Or.inr (hends hstill)
  · exact hm.comesUp hflights hmine hdevices hinbound hinsert (attempt_of_flight hlinked)

end Mirrored

/-! ## Every run -/

section Run

variable {P : Primitives} {n : ℕ} {e : Event} {m m' : Mesh} {d : DeviceId}

/-- An attempt is made by a sighting of its device. -/
def Owns (e : Event) (d : DeviceId) : Prop := ∃ s c id hr, e = .sighting s c id hr ∧ s.deviceId = d

/-- What the segment that ends an attempt should find. -/
def EndsWell (n : ℕ) (e : Event) (m m' : Mesh) : Prop :=
  ∀ s c id hr, e = .sighting s c id hr → m.attempt n = some s.deviceId →
    m'.attempt n ≠ some s.deviceId →
    (c.Succeeds → m.Up s.deviceId) ∧
    (m.flight n = some (.connecting s.deviceId) ∨ ¬ c.Succeeds → m.Up s.deviceId →
      m.connectedDevices.has s.deviceId = true ∨ m.AttemptedBut n s.deviceId)

/-- An attempt that had its link and lost the flight is over. -/
theorem Chain.over (h : Chain P n e m m') (hf : m.flight n = some (.linked d))
    (hover : m'.flight n ≠ some (.linked d)) : m'.attempt n ≠ some d := by
  intro hattempt
  obtain ⟨f, hf', hfd⟩ := Option.bind_eq_some_iff.mp hattempt
  cases f with
  | connecting d' =>
      have hpast : m.flight n ≠ some (.connecting d') := by
        rw [hf]
        exact nofun
      exact Chain.past_link h hpast hf'
  | linked d' =>
      cases hfd
      exact hover hf'
  | _ => cases hfd

/-- **A segment keeps the mirror.** -/
theorem Mirrored.chain (hm : Mirrored m) (hrunning : ∀ r, e ≠ .stopMesh r)
    (howns : ∀ d, m.attempt n = some d → Owns e d) (hchain : Chain P n e m m')
    (hholds : Holds n e m m') (hends : EndsWell n e m m') : Mirrored m' := by
  have hflights : ∀ i, i ≠ n → m'.flight i = m.flight i := fun _ hi => hchain.flight_ne hi
  by_cases hattempt : ∀ d, m.attempt n ≠ some d
  · refine hm.segment hflights (Or.inl (hchain.sameLinks hrunning hattempt)) ?_
    exact fun d hd => absurd hd (hattempt d)
  · obtain ⟨d, hd⟩ := not_forall_not.mp hattempt
    obtain ⟨s, c, id, hr, rfl, rfl⟩ := howns d hd
    have hmine : ∀ d', m.attempt n = some d' → d' = s.deviceId := by
      intro d' hd'
      rw [hd] at hd'
      exact (Option.some.inj hd').symm
    obtain ⟨f, hf, hfd⟩ := Option.bind_eq_some_iff.mp hd
    cases f with
    | connecting d' =>
        cases hfd
        exact hm.hold hf hflights hholds fun hover => (hends s c id hr rfl hd hover).2 (Or.inl hf)
    | linked d' =>
        cases hfd
        -- The `try` block goes on, fails, or writes the entry of a link that should be up.
        rcases hchain.linked hf with ⟨hsame, hstays | ⟨hfails, hover⟩⟩ | ⟨hwrites, hsucceeds, hover⟩
        · refine hm.segment hflights (Or.inl hsame) fun d' hd' => Or.inl ?_
          rw [hmine d' hd']
          exact attempt_of_flight hstays
        · refine hm.segment hflights (Or.inl hsame) fun d' hd' => Or.inr ?_
          rw [hmine d' hd', hsame.devices]
          exact (hends s c id hr rfl hd (hchain.over hf hover)).2 (Or.inr hfails)
        · have hup := (hends s c id hr rfl hd (hchain.over hf hover)).1 hsucceeds
          refine hm.segment hflights (Or.inr ⟨_, hwrites, hup⟩) fun d' hd' => Or.inr fun _ => ?_
          rw [hmine d' hd', hwrites.devices]
          exact Or.inl ((has_set _ _ _ _).mpr (Or.inl rfl))
    | _ => cases hfd

/-! ### Entries -/

/-- Three kinds of events change the links: a disconnect, a connection, and a link that
comes up late. -/
theorem Enters.links (h : Enters e m m') :
    (SameLinks m m' ∧ Kept m m') ∨ (∃ d, e = .lateLink d ∧ m' = m.number.outboundUp d) ∨
      (∃ d, e = .disconnected d ∧ m' = (m.number.outboundDown d).disconnected d) ∨
      (∃ d, e = .connection d false ∧ m' = (m.number.inboundDown d).disconnected d) ∨
      ∃ d, e = .connection d true ∧ m' = (m.number.inboundUp d).connectedInbound d := by
  have hobjects : ∀ {m₁ : Mesh}, OnlyObjects m.number m₁ → SameLinks m m₁ ∧ Kept m m₁ := by
    rintro _ ⟨_, _, _, rfl⟩
    exact ⟨⟨rfl, rfl, rfl⟩, .of_eq rfl rfl rfl⟩
  cases h with
  | lateLink d => exact Or.inr (Or.inl ⟨d, rfl, rfl⟩)
  | disconnected d => exact Or.inr (Or.inr (Or.inl ⟨d, rfl, rfl⟩))
  | dropped d => exact Or.inr (Or.inr (Or.inr (Or.inl ⟨d, rfl, rfl⟩)))
  | connected d => exact Or.inr (Or.inr (Or.inr (Or.inr ⟨d, rfl, rfl⟩)))
  | timeouts => exact Or.inl (hobjects (checkHandshakeTimeouts_onlyObjects m.number))
  | accepts p => exact Or.inl (hobjects (acceptPeer_onlyObjects p m.number))
  | rejects p => exact Or.inl (hobjects (rejectPeer_onlyObjects p m.number))
  | reassembles d chunk =>
      refine Or.inl ⟨⟨rfl, rfl, rfl⟩, ⟨fun _ h => h, fun _ h => h, fun d' hd' => ?_⟩⟩
      exact (has_set _ _ _ _).mpr (Or.inr hd')
  | routes d chunk =>
      refine Or.inl ⟨⟨rfl, rfl, rfl⟩, ⟨fun _ h => h, fun _ h => h, fun d' hd' => ?_⟩⟩
      exact (has_set _ _ _ _).mpr (Or.inr hd')
  | _ => exact Or.inl ⟨⟨rfl, rfl, rfl⟩, .of_eq rfl rfl rfl⟩

/-- After a disconnect of one link to the device: its entries are gone, and the
other devices are as before. -/
structure Disconnects (d : DeviceId) (m m' : Mesh) : Prop where
  devices : m'.connectedDevices = m.connectedDevices.delete d
  cryptoStates : m'.cryptoStates = m.cryptoStates.delete d
  mtuCache : m'.mtuCache = m.mtuCache.delete d
  reassemblers : m'.reassemblers = m.reassemblers.delete d
  flights : m'.flights = m.flights
  others : ∀ d', d' ≠ d → (m'.Up d' ↔ m.Up d')
  spare : m'.Up d → m.Spare d

theorem has_delete {α : Type} (entries : InsMap DeviceId α) (d d' : DeviceId) :
    (entries.delete d).has d' = true ↔ d' ≠ d ∧ entries.has d' = true := by
  unfold InsMap.has
  rw [InsMap.get?_delete]
  split
  next h => simp [h]
  next h => simp [Ne.symm h]

theorem outboundDown_disconnects (hspare : d ∈ m.native.inbound → m.Spare d) :
    Disconnects d m ((m.number.outboundDown d).disconnected d) := by
  obtain ⟨_, _, heq⟩ := disconnected_eq d (m.number.outboundDown d)
  rw [heq]
  refine ⟨rfl, rfl, rfl, rfl, rfl, fun d' hne => ?_, ?_⟩
  · exact or_congr_left (Finset.mem_erase.trans (and_iff_right hne))
  · rintro (hd | hd)
    · exact absurd hd (Finset.notMem_erase d _)
    · exact hspare hd

theorem inboundDown_disconnects (hspare : d ∈ m.native.outbound → m.Spare d) :
    Disconnects d m ((m.number.inboundDown d).disconnected d) := by
  obtain ⟨_, _, heq⟩ := disconnected_eq d (m.number.inboundDown d)
  rw [heq]
  refine ⟨rfl, rfl, rfl, rfl, rfl, fun d' hne => ?_, ?_⟩
  · exact or_congr_right (Finset.mem_erase.trans (and_iff_right hne))
  · rintro (hd | hd)
    · exact hspare hd
    · exact absurd hd (Finset.notMem_erase d _)

theorem Mirrored.disconnects (hm : Mirrored m) (h : Disconnects d m m') : Mirrored m' := by
  have hflights : ∀ i, m'.flight i = m.flight i := fun _ => flight_of_flights h.flights
  constructor
  · intro d' hd'
    rw [h.devices] at hd'
    obtain ⟨hne, hold⟩ := (has_delete _ _ _).mp hd'
    exact (h.others d' hne).mpr (hm.entry d' hold)
  · intro d' hd'
    by_cases hne : d' = d
    · subst hne
      obtain ⟨i, hi⟩ := (h.spare hd').attempted
      exact Or.inr ⟨i, (attempt_congr (hflights i)).trans hi⟩
    · rcases hm.link d' ((h.others d' hne).mp hd') with hold | ⟨i, hi⟩
      · left
        rw [h.devices]
        exact (has_delete _ _ _).mpr ⟨hne, hold⟩
      · exact Or.inr ⟨i, (attempt_congr (hflights i)).trans hi⟩

/-- What is dropped is of the device, and its last link went down. -/
theorem Disconnects.not_up {d' : DeviceId} (h : Disconnects d m m') (hdrops : m.Drops d' m') :
    ¬ m'.Up d' := by
  have hdelete : ∀ {α : Type} (entries : InsMap DeviceId α), entries.has d' = true →
      (entries.delete d).has d' = false → d' = d := by
    intro α entries hd hno
    by_contra hne
    rw [(has_delete entries d d').mpr ⟨hne, hd⟩] at hno
    cases hno
  have hsame : d' = d := by
    rcases hdrops with ⟨hd, hno⟩ | ⟨hd, hno⟩ | ⟨hd, hno⟩
    · exact hdelete _ hd (h.cryptoStates ▸ hno)
    · exact hdelete _ hd (h.mtuCache ▸ hno)
    · exact hdelete _ hd (h.reassemblers ▸ hno)
  subst hsame
  intro hup
  have hspare := h.spare hup
  rcases hdrops with ⟨hd, -⟩ | ⟨hd, -⟩ | ⟨hd, -⟩
  · exact Bool.false_ne_true (hspare.cryptoState.symm.trans hd)
  · exact Bool.false_ne_true (hspare.mtu.symm.trans hd)
  · exact Bool.false_ne_true (hspare.reassembler.symm.trans hd)

theorem Mirrored.connected (hm : Mirrored m) :
    Mirrored ((m.number.inboundUp d).connectedInbound d) := by
  have hdevices := connectedDevices_connectedInbound d (m.number.inboundUp d)
  obtain ⟨devices, heq⟩ := connectedInbound_eq d (m.number.inboundUp d)
  rw [heq] at hdevices ⊢
  have hhas : ∀ d', devices.has d' = true ↔ d' = d ∨ m.connectedDevices.has d' = true := by
    intro d'
    rw [show devices = _ from hdevices]
    split_ifs with hd
    · exact ⟨Or.inr, fun h => h.elim (fun heq => heq ▸ hd) fun h => h⟩
    · exact has_set _ _ _ _
  constructor
  · intro d' hd'
    rcases (hhas d').mp hd' with rfl | hold
    · exact Or.inr (Finset.mem_insert_self _ _)
    · exact (hm.entry d' hold).imp_right fun h => Finset.mem_insert_of_mem h
  · intro d' hd'
    have hold : d' = d ∨ m.Up d' := by
      rcases hd' with hd' | hd'
      · exact Or.inr (Or.inl hd')
      · exact (Finset.mem_insert.mp hd').imp_right Or.inr
    rcases hold with rfl | hold
    · exact Or.inl ((hhas d').mpr (Or.inl rfl))
    · exact (hm.link d' hold).imp_left fun h => (hhas d').mpr (Or.inr h)

/-- A link comes up late: its entry is there, or an attempt is to write it. -/
theorem Mirrored.lateLink (hm : Mirrored m)
    (hfits : m.connectedDevices.has d = true ∨ ∃ i, m.attempt i = some d) :
    Mirrored (m.number.outboundUp d) := by
  constructor
  · exact fun d' hd' => (hm.entry d' hd').imp_left fun h => Finset.mem_insert_of_mem h
  · rintro d' (hd' | hd')
    · rcases Finset.mem_insert.mp hd' with rfl | hold
      · exact hfits
      · exact hm.link d' (Or.inl hold)
    · exact hm.link d' (Or.inr hd')

/-! ### Steps -/

theorem Kept.drops {m₀ : Mesh} (h : Kept m₀ m') (hdrops : m.Drops d m') : m.Drops d m₀ := by
  have hkept : ∀ {b b' : Bool}, (b = true → b' = true) → b' = false → b = false := by
    intro b b' himp hno
    cases b with
    | false => rfl
    | true => rw [himp rfl] at hno; cases hno
  rcases hdrops with ⟨hd, hno⟩ | ⟨hd, hno⟩ | ⟨hd, hno⟩
  · exact Or.inl ⟨hd, hkept (h.cryptoState d) hno⟩
  · exact Or.inr (Or.inl ⟨hd, hkept (h.mtu d) hno⟩)
  · exact Or.inr (Or.inr ⟨hd, hkept (h.reassembler d) hno⟩)

/-- What is known of a pool in which every step fits. -/
structure MirrorPool (p : MeshPool) : Prop where
  running : ∀ (i : ℕ) c, p.calls[i]? = some c → ∀ r, c.arg ≠ .stopMesh r
  owned : ∀ (i : ℕ) d, p.shared.attempt i = some d → ∃ c, p.calls[i]? = some c ∧ Owns c.arg d
  mirrored : Mirrored p.shared

/-- **A new call keeps the mirror**, and drops what it drops with the last link. -/
theorem Mirrored.start {m₀ : Mesh} {p : MeshPool} (hp : p.shared = m) (hm : Mirrored m)
    (hfresh : m.flight m.calls = none) (hfits : Fits P p (.start e)) (henters : Enters e m m₀)
    (hchain : Chain P m.calls e m₀ m') (hholds : Holds m.calls e m₀ m') :
    (∀ r, e ≠ .stopMesh r) ∧ (∀ d, m'.attempt m.calls = some d → Owns e d) ∧ Mirrored m' ∧
      ∀ d, m.Drops d m' → ¬ m'.Up d := by
  subst hp
  have hrunning : ∀ r, e ≠ .stopMesh r := by
    rintro r rfl
    exact hfits
  have howns : ∀ d, m₀.attempt p.shared.calls = some d → Owns e d := by
    intro d hd
    obtain ⟨f, hf, hfd⟩ := Option.bind_eq_some_iff.mp hd
    rcases henters.flights hf with hold | ⟨-, hbegins⟩
    · rw [hfresh] at hold
      cases hold
    · cases hbegins with
      | takes _ _ _ htakes =>
          cases htakes with
          | sighting s c id hr =>
              cases hfd
              exact ⟨s, c, id, hr, rfl, rfl⟩
          | _ => cases hfd
      | routes _ _ _ _ _ _ _ _ hroutes =>
          cases hroutes with
          | _ => cases hfd
  have hkept := hchain.kept hrunning
  -- No call begins with its link up.
  have hunlinked : ∀ d, m₀.flight p.shared.calls ≠ some (.linked d) := by
    intro d hd
    rcases henters.flights hd with hold | ⟨-, hbegins⟩
    · rw [hfresh] at hold
      cases hold
    · cases hbegins with
      | takes _ _ _ htakes => cases htakes
      | routes _ _ _ _ _ _ _ _ hroutes => cases hroutes
  have hunattempted : ∀ d, p.shared.attempt p.shared.calls ≠ some d := by
    intro d hd
    rw [Mesh.attempt, hfresh] at hd
    cases hd
  refine ⟨hrunning, fun d hd => howns d (hchain.attempt hd), ?_⟩
  -- A call that changes the links makes no attempt.
  have hquiet : (∀ s c id hr, e ≠ .sighting s c id hr) → SameLinks m₀ m' := by
    intro hno
    refine hchain.sameLinks hrunning fun d hd => ?_
    obtain ⟨s, c, id, hr, heq, -⟩ := howns d hd
    exact hno s c id hr heq
  have hrest : (∀ s c id hr, e ≠ .sighting s c id hr) → Mirrored m₀ → Mirrored m' := by
    intro hno hm₀
    refine hm₀.segment (fun i hi => hchain.flight_ne hi) (Or.inl (hquiet hno)) fun d hd => ?_
    obtain ⟨s, c, id, hr, heq, -⟩ := howns d hd
    exact absurd heq (hno s c id hr)
  rcases henters.links with ⟨hsame, hkept₀⟩ | ⟨d, rfl, rfl⟩ | ⟨d, rfl, rfl⟩ | ⟨d, rfl, rfl⟩ |
    ⟨d, rfl, rfl⟩
  · refine ⟨?_, fun d hdrops => absurd hdrops (hkept₀.trans hkept).not_drops⟩
    have hflights : ∀ i, i ≠ p.shared.calls → m'.flight i = p.shared.flight i := fun i hi =>
      (hchain.flight_ne hi).trans (henters.flight_ne hi)
    have hnone : ∀ d, p.shared.attempt p.shared.calls = some d →
        m'.attempt p.shared.calls = some d ∨ (p.shared.Up d →
          m'.connectedDevices.has d = true ∨ p.shared.AttemptedBut p.shared.calls d) :=
      fun d hd => absurd hd (hunattempted d)
    by_cases hattempt : ∀ d, m₀.attempt p.shared.calls ≠ some d
    · exact hm.segment hflights
        (Or.inl (hsame.trans (hchain.sameLinks hrunning hattempt))) hnone
    · obtain ⟨d, hd⟩ := not_forall_not.mp hattempt
      obtain ⟨s, c, id, hr, rfl, rfl⟩ := howns d hd
      obtain ⟨f, hf, hfd⟩ := Option.bind_eq_some_iff.mp hd
      cases f with
      | connecting d' =>
          cases hfd
          obtain ⟨hdevices, hinbound, houtbound | ⟨hinsert, hlinked⟩⟩ := hholds hf
          · exact hm.segment hflights
              (Or.inl (hsame.trans ⟨hdevices, houtbound, hinbound⟩)) hnone
          · exact hm.comesUp hflights (fun d' hd' => absurd hd' (hunattempted d'))
              (hdevices.trans hsame.devices) (hinbound.trans hsame.inbound)
              (hinsert.trans (by rw [hsame.outbound])) (attempt_of_flight hlinked)
      | linked d' => exact absurd hf (hunlinked d')
      | _ => cases hfd
  · refine ⟨hrest (fun _ _ _ _ h => nomatch h) (hm.lateLink hfits), fun d' hdrops => ?_⟩
    have hkept₀ : Kept p.shared (p.shared.number.outboundUp d) := .of_eq rfl rfl rfl
    exact absurd hdrops (hkept₀.trans hkept).not_drops
  · have hdisconnects := outboundDown_disconnects hfits
    have hno : ∀ s c id hr, Event.disconnected d ≠ .sighting s c id hr := fun _ _ _ _ h => nomatch h
    refine ⟨hrest hno (hm.disconnects hdisconnects), fun d' hdrops hup => ?_⟩
    exact hdisconnects.not_up (hkept.drops hdrops) ((hquiet hno).up.mp hup)
  · have hdisconnects := inboundDown_disconnects hfits
    have hno : ∀ s c id hr, Event.connection d false ≠ .sighting s c id hr :=
      fun _ _ _ _ h => nomatch h
    refine ⟨hrest hno (hm.disconnects hdisconnects), fun d' hdrops hup => ?_⟩
    exact hdisconnects.not_up (hkept.drops hdrops) ((hquiet hno).up.mp hup)
  · refine ⟨hrest (fun _ _ _ _ h => nomatch h) hm.connected, fun d' hdrops => ?_⟩
    have hkept₀ : Kept p.shared ((p.shared.number.inboundUp d).connectedInbound d) := by
      obtain ⟨_, heq⟩ := connectedInbound_eq d (p.shared.number.inboundUp d)
      rw [heq]
      exact .of_eq rfl rfl rfl
    exact absurd hdrops (hkept₀.trans hkept).not_drops

theorem compatible_holds :
    Pool.Compatible Counted (fun (_ : Move Event Unit) _ _ => True) (fun _ => Enters)
      (fun n e m m' => Segment P n e m m' ∧ Holds n e m m') Rely where
  refl := (compatible (P := P) fun _ _ _ => True).refl
  trans := (compatible (P := P) fun _ _ _ => True).trans
  start := fun i j e m m₀ m' hj hcount henters hG =>
    (compatible (P := P) fun _ _ _ => True).start i j e m m₀ m' hj hcount henters hG.1
  resume := fun i j e r m m' hne hG =>
    (compatible (P := P) fun _ _ _ => True).resume i j e r m m' hne hG.1
  enters := fun i e m m₀ m' hcount henters hG =>
    (compatible (P := P) fun _ _ _ => True).enters i e m m₀ m' hcount henters hG.1
  counts := fun k i e m m' hi hcount hG =>
    (compatible (P := P) fun _ _ _ => True).counts k i e m m' hi hcount hG.1

theorem handle_opens_holds (e : Event) (hf : m.flight m.calls = none) :
    Pool.Opens (fun _ => Enters) (fun n e m m' => Segment P n e m m' ∧ Holds n e m m') Rely Settles
      (handle P) m.calls e m := by
  obtain ⟨m₀, henters, hsat⟩ := handle_opens (P := P) e hf
  have hboth := hsat.and (handle_holds (P := P) e hf henters)
  simp only [and_self, and_true] at hboth
  exact ⟨m₀, henters, hboth⟩

/-- What a step of a run does, with the pace of the attempts. -/
theorem meshRun_stepHolds (hm : Counted 0 m) (ms : List (Move Event Unit))
    (mv : Move Event Unit) :
    Pool.StepCase (fun _ => Enters) (fun n e m m' => Segment P n e m m' ∧ Holds n e m m') Settles
      (meshRun P m ms) ((meshRun P m ms).step (handle P) mv) mv := by
  have hopens : ∀ (p : MeshPool) (e : Event), Counted p.calls.length p.shared →
      Pool.Opens (fun _ => Enters) (fun n e m m' => Segment P n e m m' ∧ Holds n e m m') Rely
        Settles (handle P) p.calls.length e p.shared := by
    intro p e hcount
    have h := handle_opens_holds (P := P) e (hcount.2 _ (le_of_eq hcount.1.symm))
    rwa [hcount.1] at h
  have hsound : (meshRun P m ms).Sound Counted
      (fun n e m m' => Segment P n e m m' ∧ Holds n e m m') Rely Settles :=
    Pool.exec_sound compatible_holds (Pool.fresh_sound hm) ms (fun _ _ _ _ => trivial)
      fun pre e _ _ hpre => hopens _ e hpre.count
  exact hsound.stepCase compatible_holds mv fun e _ => hopens _ e hsound.count

/-- **A step that fits keeps the mirror**, and drops what it drops with the last
link. -/
theorem MirrorPool.step (hm : Counted 0 m) {ms : List (Move Event Unit)} {mv : Move Event Unit}
    (hp : MirrorPool (meshRun P m ms)) (hfits : Fits P (meshRun P m ms) mv) :
    MirrorPool (meshRun P m (ms ++ [mv])) ∧
      ∀ d, (meshRun P m ms).shared.Drops d (meshRun P m (ms ++ [mv])).shared →
        ¬ (meshRun P m (ms ++ [mv])).shared.Up d := by
  have hcount := (meshRun_sound (P := P) hm ms).count
  rw [meshRun_concat]
  cases meshRun_stepHolds (P := P) hm ms mv with
  | idle _ hidle =>
      rw [hidle]
      exact ⟨hp, fun d hdrops => absurd hdrops (Kept.refl _).not_drops⟩
  | start e m₀ st henters hG hcalls _ =>
      have hfresh : (meshRun P m ms).shared.flight (meshRun P m ms).shared.calls = none :=
        hcount.2 _ (le_of_eq hcount.1.symm)
      rw [← hcount.1] at hG
      obtain ⟨hrunning, howns, hmirrored, hdrops⟩ :=
        hp.mirrored.start rfl hfresh hfits henters hG.1.chain hG.2
      refine ⟨⟨?_, ?_, hmirrored⟩, hdrops⟩
      · intro i c hc
        rw [hcalls] at hc
        rcases Pool.concat_cases hc with ⟨-, hold⟩ | ⟨-, rfl⟩
        · exact hp.running i c hold
        · exact hrunning
      · intro i d hd
        rw [hcalls]
        by_cases hi : i = (meshRun P m ms).calls.length
        · subst hi
          rw [← hcount.1] at hd
          exact ⟨_, List.getElem?_concat_length, howns d hd⟩
        · have hold : (meshRun P m ms).shared.attempt i = some d := by
            have hin : i ≠ (meshRun P m ms).shared.calls := by rwa [hcount.1]
            unfold Mesh.attempt at hd ⊢
            rwa [hG.1.chain.flight_ne hin, henters.flight_ne hin] at hd
          obtain ⟨c, hc, howns⟩ := hp.owned i d hold
          refine ⟨c, ?_, howns⟩
          rw [List.getElem?_append_left (List.getElem?_eq_some_iff.mp hc).1]
          exact hc
  | resume j e r k st hj hG hcalls _ =>
      have hrunning := hp.running j _ hj
      have howns : ∀ d, (meshRun P m ms).shared.attempt j = some d → Owns e d := by
        intro d hd
        obtain ⟨c, hc, howns⟩ := hp.owned j d hd
        rw [hj] at hc
        cases hc
        exact howns
      have hends : EndsWell j e (meshRun P m ms).shared
          ((meshRun P m ms).step (handle P) (.resume j r)).shared := by
        rintro s c id hr rfl hattempt hover
        exact hfits s c id hr _ hj hattempt hover
      have hkept := hG.1.chain.kept hrunning
      refine ⟨⟨?_, ?_, hp.mirrored.chain hrunning howns hG.1.chain hG.2 hends⟩,
        fun d hdrops => absurd hdrops hkept.not_drops⟩
      · intro i c hc
        rw [hcalls] at hc
        rcases Pool.set_cases hc with ⟨-, hold⟩ | ⟨-, rfl⟩
        · exact hp.running i c hold
        · exact hrunning
      · intro i d hd
        rw [hcalls]
        by_cases hij : i = j
        · subst hij
          refine ⟨_, List.getElem?_set_self (List.getElem?_eq_some_iff.mp hj).1, ?_⟩
          exact howns d (hG.1.chain.attempt hd)
        · have hold : (meshRun P m ms).shared.attempt i = some d := by
            unfold Mesh.attempt at hd ⊢
            rwa [hG.1.chain.flight_ne hij] at hd
          obtain ⟨c, hc, howns⟩ := hp.owned i d hold
          exact ⟨c, by rw [List.getElem?_set_ne (Ne.symm hij)]; exact hc, howns⟩

end Run

/-- Every step fits. -/
def AllFit (P : Primitives) (m : Mesh) (ms : List (Move Event Unit)) : Prop :=
  ∀ pre mv post, ms = pre ++ mv :: post → Fits P (meshRun P m pre) mv

theorem AllFit.init {P : Primitives} {m : Mesh} {ms : List (Move Event Unit)}
    {mv : Move Event Unit} (h : AllFit P m (ms ++ [mv])) : AllFit P m ms := by
  intro pre mv' post heq
  apply h pre mv' (post ++ [mv])
  rw [heq, List.append_assoc]
  rfl

theorem mirrorPool_run {P : Primitives} {tofu : TofuStore} {now : ℕ}
    {ms : List (Move Event Unit)} (h : AllFit P (.initial tofu now) ms) :
    MirrorPool (meshRun P (.initial tofu now) ms) := by
  induction ms using List.reverseRecOn with
  | nil => exact ⟨fun _ _ h => (nomatch h), fun _ _ h => (nomatch h), mirrored_initial tofu now⟩
  | append_singleton ms mv ih =>
      exact ((ih h.init).step ⟨rfl, fun _ _ => rfl⟩ (h ms mv [] rfl)).1

/-- **`connectedDevices` mirrors the links**: where every step fits, a device has an
entry exactly if a link to it is up once the pending calls have run, and what else
is kept for it is dropped only when its last link goes down. -/
theorem devices_mirror_links (P : Primitives) (tofu : TofuStore) (now : ℕ)
    (ms : List (Move Event Unit)) (h : AllFit P (.initial tofu now) ms) :
    ((meshRun P (.initial tofu now) ms).Quiescent → ∀ d,
      (meshRun P (.initial tofu now) ms).shared.connectedDevices.has d = true ↔
        (meshRun P (.initial tofu now) ms).shared.Up d) ∧
    ∀ pre mv post d, ms = pre ++ mv :: post →
      (meshRun P (.initial tofu now) pre).shared.Drops d
        (meshRun P (.initial tofu now) (pre ++ [mv])).shared →
      ¬ (meshRun P (.initial tofu now) (pre ++ [mv])).shared.Up d := by
  have hcounted : Counted 0 (.initial tofu now) := ⟨rfl, fun _ _ => rfl⟩
  constructor
  · intro hquiet d
    have hmirrored := (mirrorPool_run h).mirrored
    refine ⟨hmirrored.entry d, fun hup => (hmirrored.link d hup).resolve_right ?_⟩
    rintro ⟨i, hi⟩
    rw [Mesh.attempt, hquiet.flight hcounted i] at hi
    cases hi
  · intro pre mv post d heq hdrops
    have hpre : AllFit P (.initial tofu now) pre := by
      intro pre' mv' post' heq'
      apply h pre' mv' (post' ++ mv :: post)
      rw [heq, heq', List.append_assoc]
      rfl
    exact ((mirrorPool_run hpre).step hcounted (h pre mv post heq)).2 d hdrops

/-! ### On fixed inputs -/

def ConnectReplies.succeeds (c : ConnectReplies) : Bool :=
  c.connect.isOk && c.discoverServices.isOk && c.startNotifications.isOk

theorem ConnectReplies.succeeds_sound {c : ConnectReplies} (h : c.succeeds = true) :
    c.Succeeds := by
  have hok : ∀ {x : Except JsError Unit}, x.isOk = true → x = .ok () := by
    intro x hx
    cases x with
    | ok u => rfl
    | error err => cases hx
  simp only [succeeds, Bool.and_eq_true] at h
  exact ⟨hok h.1.1, hok h.1.2, hok h.2⟩

/-- A test for `Fits`: one link goes down while the other one is, a link that comes up late
has its entry, and an attempt that ends succeeds with its link up. -/
def fits (P : Primitives) (p : MeshPool) : Move Event Unit → Bool
  | .start (.stopMesh _) => false
  | .start (.disconnected d) => d ∉ p.shared.native.inbound
  | .start (.connection d false) => d ∉ p.shared.native.outbound
  | .start (.lateLink d) => p.shared.connectedDevices.has d
  | .start _ => true
  | .resume i r =>
      match p.calls[i]? with
      | some ⟨.sighting s c _ _, _⟩ =>
          p.shared.attempt i ≠ some s.deviceId ||
            (p.step (handle P) (.resume i r)).shared.attempt i = some s.deviceId ||
            (p.shared.flight i ≠ some (.connecting s.deviceId) && c.succeeds &&
              s.deviceId ∈ p.shared.native.outbound)
      | _ => true

def allFit (P : Primitives) : MeshPool → List (Move Event Unit) → Bool
  | _, [] => true
  | p, mv :: ms => fits P p mv && allFit P (p.step (handle P) mv) ms

theorem fits_sound {P : Primitives} {p : MeshPool} {mv : Move Event Unit}
    (h : fits P p mv = true) : Fits P p mv := by
  cases mv with
  | start e =>
      cases e with
      | stopMesh r => cases h
      | disconnected d => exact fun hd => absurd hd (of_decide_eq_true h)
      | connection d connected =>
          cases connected with
          | false => exact fun hd => absurd hd (of_decide_eq_true h)
          | true => trivial
      | lateLink d => exact Or.inl h
      | _ => trivial
  | resume i r =>
      intro s c id hr st hcall hattempt hover
      simp only [fits, hcall, Bool.or_eq_true, Bool.and_eq_true, decide_eq_true_eq] at h
      obtain ⟨⟨hpast, hsucceeds⟩, hup⟩ :=
        h.resolve_left fun hno => hno.elim (absurd hattempt) hover
      refine ⟨fun _ => Or.inl hup, ?_⟩
      rintro (hconnecting | hfails)
      · exact absurd hconnecting hpast
      · exact absurd (ConnectReplies.succeeds_sound hsucceeds) hfails

theorem AllFit.of_test {P : Primitives} {m : Mesh} {ms : List (Move Event Unit)}
    (h : allFit P (Pool.fresh m) ms = true) : AllFit P m ms := by
  have hfrom : ∀ (ms : List (Move Event Unit)) (p : MeshPool), allFit P p ms = true →
      ∀ pre mv post, ms = pre ++ mv :: post → Fits P (p.exec (handle P) pre) mv := by
    intro ms
    induction ms with
    | nil => exact fun _ _ pre _ _ heq => by cases pre <;> cases heq
    | cons mv₀ ms ih =>
        intro p hp pre mv post heq
        rw [allFit, Bool.and_eq_true] at hp
        cases pre with
        | nil =>
            cases heq
            exact fits_sound hp.1
        | cons mv₁ pre =>
            obtain ⟨rfl, hrest⟩ := List.cons.inj heq
            exact ih _ hp.2 pre mv post hrest
  exact hfrom ms _ h

/-- A peer is connected to and drops the link; another one connects to us. -/
def sampleLinks : List (Move Event Unit) :=
  alone 0 (sightingOf 2 "a") 12 ++ [.start (.connection "b" true), .start (.disconnected "a")]

theorem devices_mirror_links_sample :
    ((meshRun .sample (.initial .empty 0) sampleLinks).Quiescent → ∀ d,
      (meshRun .sample (.initial .empty 0) sampleLinks).shared.connectedDevices.has d = true ↔
        (meshRun .sample (.initial .empty 0) sampleLinks).shared.Up d) ∧
    ∀ pre mv post d, sampleLinks = pre ++ mv :: post →
      (meshRun .sample (.initial .empty 0) pre).shared.Drops d
        (meshRun .sample (.initial .empty 0) (pre ++ [mv])).shared →
      ¬ (meshRun .sample (.initial .empty 0) (pre ++ [mv])).shared.Up d :=
  devices_mirror_links .sample .empty 0 sampleLinks (.of_test rfl)

/-- An outbound and an inbound link to one device; the outbound one goes down. -/
def sharedLinks : List (Move Event Unit) :=
  alone 0 (sightingOf 2 "a") 12 ++ [.start (.connection "a" true), .start (.disconnected "a")]

/-- **Two links to one device**: the entry is deleted though a link is up. -/
theorem shared_entry_deleted :
    (meshRun .sample (.initial .empty 0) sharedLinks).Quiescent ∧
      (meshRun .sample (.initial .empty 0) sharedLinks).shared.connectedDevices.has "a" = false ∧
      (meshRun .sample (.initial .empty 0) sharedLinks).shared.Up "a" := by
  refine ⟨?_, rfl, Or.inr (Finset.mem_insert_self _ _)⟩
  have hall : (meshRun .sample (.initial .empty 0) sharedLinks).calls.all
      (fun c => !c.status.isPending) = true := rfl
  intro c hc
  simpa using List.all_eq_true.mp hall c hc

end Oxpulse.Transport
