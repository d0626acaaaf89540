import Mathlib.Data.Finset.Card
import Oxpulse.Transport.MeshRuns

/-!
# The connection limit

The scan callback reads `connectedDevices` twice — the device must not be in it,
and it must hold fewer than `MAX_BLE_CONNECTIONS` entries — and writes its own
entry some awaits later. A sighting that comes in between passes the same checks.
Neither check counts the attempts under way, and an inbound connection is not
checked at all.

`WithinLimit` is what the checks are for. It holds in every run in which each
attempt that the callback starts, and each inbound connection, finds `Room`:
what the checks would say if they knew of the attempts.
-/

namespace Oxpulse.Transport

open Oxpulse.Coroutine Oxpulse.Crypto

/-! ## Attempts and links -/

def Flight.isAttempt (f : Flight) : Bool := f.attempt.isSome

/-- The attempt waits for its link. -/
def Flight.isConnecting : Flight → Bool
  | .connecting _ => true
  | _ => false

namespace Mesh

/-- The device of call `n`'s outbound attempt. -/
def attempt (n : ℕ) (m : Mesh) : Option DeviceId := (m.flight n).bind Flight.attempt

/-- The outbound attempts under way. -/
def attempts (m : Mesh) : ℕ := m.flights.countP Flight.isAttempt

/-- Those of them whose link is not up yet. -/
def connecting (m : Mesh) : ℕ := m.flights.countP Flight.isConnecting

def links (m : Mesh) : ℕ := m.native.outbound.card + m.native.inbound.card

end Mesh

/-- **The connection limit**: neither the entries nor the links with the attempts
are more than the limit, and a device that is being connected is connected by
one call only and has no outbound link yet. -/
structure WithinLimit (m : Mesh) : Prop where
  entries : m.connectedDevices.size ≤ MAX_BLE_CONNECTIONS
  links : m.links + m.connecting ≤ MAX_BLE_CONNECTIONS
  single : ∀ i j d, m.attempt i = some d → m.attempt j = some d → i = j
  established : ∀ i d, m.attempt i = some d → m.connectedDevices.get? d ≠ some .outbound
  down : ∀ i d, m.flight i = some (.connecting d) → d ∉ m.native.outbound

/-- What each event should find: a sighting that passes the checks, no attempt
and no outbound link for its device; and it, like a connection that adds an entry
or a link, fewer than the limit with the attempts counted. So should a link that
comes up late, and no attempt that waits for a link to its device. -/
def Room : Event → Mesh → Prop
  | .sighting s _ _ _, m => m.Connects s.deviceId →
      (∀ i, m.attempt i ≠ some s.deviceId) ∧ s.deviceId ∉ m.native.outbound ∧
        m.connectedDevices.size + m.attempts < MAX_BLE_CONNECTIONS ∧
        m.links + m.connecting < MAX_BLE_CONNECTIONS
  | .connection d true, m =>
      (m.connectedDevices.has d = false →
        m.connectedDevices.size + m.attempts < MAX_BLE_CONNECTIONS) ∧
      (d ∉ m.native.inbound → m.links + m.connecting < MAX_BLE_CONNECTIONS)
  | .lateLink d, m => d ∉ m.native.outbound →
      (∀ i, m.flight i ≠ some (.connecting d)) ∧ m.links + m.connecting < MAX_BLE_CONNECTIONS
  | _, _ => True

/-! ## What an assignment does to them -/

section Quiet

variable {P : Primitives} {n i : ℕ} {e : Event} {m m' : Mesh} {f : Flight} {d : DeviceId}

/-- No link comes up, no entry is added, and the call makes no attempt from here. -/
structure Quiet (n : ℕ) (m m' : Mesh) : Prop where
  size : m'.connectedDevices.size ≤ m.connectedDevices.size
  entries : ∀ d, m'.connectedDevices.get? d = some .outbound →
    m.connectedDevices.get? d = some .outbound
  outbound : m'.native.outbound ⊆ m.native.outbound
  inbound : m'.native.inbound ⊆ m.native.inbound
  flights : m'.flights = m.flights ∨ m'.flights = m.flights.delete n ∨
    ∃ f, f.isAttempt = false ∧ m'.flights = m.flights.set n f

theorem Quiet.of_eq (hentries : m'.connectedDevices = m.connectedDevices)
    (houtbound : m'.native.outbound = m.native.outbound)
    (hinbound : m'.native.inbound = m.native.inbound)
    (hflights : m'.flights = m.flights ∨ m'.flights = m.flights.delete n ∨
      ∃ f, f.isAttempt = false ∧ m'.flights = m.flights.set n f) : Quiet n m m' :=
  ⟨by rw [hentries], fun d h => by rwa [hentries] at h, by rw [houtbound], by rw [hinbound],
    hflights⟩

theorem OnlyObjects.quiet (h : OnlyObjects m m') : Quiet n m m' := by
  obtain ⟨_, _, _, rfl⟩ := h
  exact .of_eq rfl rfl rfl (Or.inl rfl)

/-- Two assignments matter: the link comes up, and the entry is written. -/
theorem Atom.quiet (h : Atom P n e m m') :
    Quiet n m m' ∨
      (∃ d, m.flight n = some (.connecting d) ∧ m' = m.linkUp n d) ∨
      ∃ s, m.flight n = some (.linked s.deviceId) ∧
        m' = (m.connectedOutbound s).launch n (.opening s.deviceId) := by
  cases h with
  | linkUp s c id hr _ hf => exact Or.inr (Or.inl ⟨s.deviceId, hf, rfl⟩)
  | connectedOutbound s c id hr _ hf => exact Or.inr (Or.inr ⟨s, hf, rfl⟩)
  | failHandshake _ cs _ _ => exact Or.inl (failHandshake_onlyObjects cs m).quiet
  | setSession _ ref k s _ _ => exact Or.inl (setSession_onlyObjects ref k s m).quiet
  | lands => exact Or.inl (.of_eq rfl rfl rfl (Or.inr (Or.inl rfl)))
  | disconnects =>
      exact Or.inl ⟨Nat.zero_le _, fun _ hget => (nomatch hget), Finset.Subset.refl _,
        Finset.Subset.refl _, Or.inr (Or.inr ⟨_, rfl, rfl⟩)⟩
  | removed r j handle =>
      refine Or.inl (.of_eq ?_ ?_ ?_ (Or.inr (Or.inr ⟨.sweeping (j + 1) none, rfl, ?_⟩)))
      all_goals
        split
        · rfl
        · rfl
  | bootstrapped deviceId chunk id hr _ identity role peerIdHex payload =>
      left
      unfold Mesh.engage
      split
      · exact .of_eq rfl rfl rfl (Or.inr (Or.inr ⟨_, rfl, rfl⟩))
      · exact .of_eq rfl rfl rfl (Or.inr (Or.inr ⟨_, rfl, rfl⟩))
  | opened | concludes | begins | listens | pushesRemover | runs | scanOff | advertisingOff
  | gattServerOff | timersOff | removes =>
      exact Or.inl (.of_eq rfl rfl rfl (Or.inr (Or.inr ⟨_, rfl, rfl⟩)))
  | _ => exact Or.inl (.of_eq rfl rfl rfl (Or.inl rfl))

end Quiet

/-! ## The invariant -/

/-- `WithinLimit`, where each attempt counts as the entry that it may write. -/
structure Bounded (m : Mesh) : Prop where
  entries : m.connectedDevices.size + m.attempts ≤ MAX_BLE_CONNECTIONS
  links : m.links + m.connecting ≤ MAX_BLE_CONNECTIONS
  single : ∀ i j d, m.attempt i = some d → m.attempt j = some d → i = j
  established : ∀ i d, m.attempt i = some d → m.connectedDevices.get? d ≠ some .outbound
  down : ∀ i d, m.flight i = some (.connecting d) → d ∉ m.native.outbound

theorem Bounded.withinLimit {m : Mesh} (h : Bounded m) : WithinLimit m :=
  ⟨le_trans (Nat.le_add_right _ _) h.entries, h.links, h.single, h.established, h.down⟩

theorem bounded_initial (tofu : TofuStore) (now : ℕ) : Bounded (.initial tofu now) :=
  ⟨Nat.zero_le _, Nat.zero_le _, fun _ _ _ h => (nomatch h), fun _ _ h => (nomatch h),
    fun _ _ h => (nomatch h)⟩

theorem Bounded.number {m : Mesh} (h : Bounded m) : Bounded m.number :=
  ⟨h.entries, h.links, h.single, h.established, h.down⟩

section Bounded

variable {P : Primitives} {n i : ℕ} {e : Event} {m m' : Mesh} {f : Flight} {d : DeviceId}

theorem attempt_of_flight (h : m.flight i = some f) : m.attempt i = f.attempt := by
  unfold Mesh.attempt
  rw [h]
  rfl

theorem isConnecting_of_isAttempt (h : f.isAttempt = false) : f.isConnecting = false := by
  cases f with
  | connecting d => cases h
  | _ => rfl

theorem countP_launch (p : Flight → Bool) (n : ℕ) (f : Flight) (m : Mesh) :
    (m.launch n f).flights.countP p + (m.flight n).toList.countP p =
      m.flights.countP p + [f].countP p :=
  InsMap.countP_set p m.flights n f

/-- After a quiet assignment a call has the flight it had, or none that attempts. -/
theorem Quiet.flight (h : Quiet n m m') {f : Flight} (hf : m'.flight i = some f)
    (hattempt : f.isAttempt = true) : m.flight i = some f := by
  rcases h.flights with hsame | hdelete | ⟨g, hg, hset⟩
  · rwa [Mesh.flight, hsame] at hf
  · rw [Mesh.flight, hdelete, InsMap.get?_delete] at hf
    split at hf
    · cases hf
    · exact hf
  · rw [Mesh.flight, hset, InsMap.get?_set] at hf
    split at hf
    · cases hf
      rw [hattempt] at hg
      cases hg
    · exact hf

theorem Quiet.attempt (h : Quiet n m m') (hd : m'.attempt i = some d) : m.attempt i = some d := by
  obtain ⟨f, hf, hfd⟩ := Option.bind_eq_some_iff.mp hd
  have hattempt : f.isAttempt = true := by
    unfold Flight.isAttempt
    rw [hfd]
    rfl
  rw [attempt_of_flight (h.flight hf hattempt), hfd]

theorem Quiet.countP_le (h : Quiet n m m') {p : Flight → Bool}
    (hp : ∀ f, f.isAttempt = false → p f = false) : m'.flights.countP p ≤ m.flights.countP p := by
  rcases h.flights with hsame | hdelete | ⟨f, hf, hset⟩
  · rw [hsame]
  · have hcount := InsMap.countP_delete p m.flights n
    rw [hdelete]
    omega
  · have hcount := InsMap.countP_set p m.flights n f
    rw [List.countP_singleton, hp f hf] at hcount
    rw [hset]
    simp only [Bool.false_eq_true, if_false] at hcount
    omega

theorem Quiet.bounded (h : Quiet n m m') (hm : Bounded m) : Bounded m' := by
  have hattempts : m'.attempts ≤ m.attempts := h.countP_le fun _ hf => hf
  have hconnecting : m'.connecting ≤ m.connecting :=
    h.countP_le fun _ hf => isConnecting_of_isAttempt hf
  constructor
  · have hsize := h.size
    have := hm.entries
    omega
  · have houtbound := Finset.card_le_card h.outbound
    have hinbound := Finset.card_le_card h.inbound
    have := hm.links
    unfold Mesh.links at this ⊢
    omega
  · exact fun i j d hi hj => hm.single i j d (h.attempt hi) (h.attempt hj)
  · exact fun i d hi hget => hm.established i d (h.attempt hi) (h.entries d hget)
  · exact fun i d hi hmem => hm.down i d (h.flight hi rfl) (h.outbound hmem)

/-- The link comes up: what was connecting is a link. -/
theorem Bounded.linkUp (hm : Bounded m) (hf : m.flight n = some (.connecting d)) :
    Bounded (m.linkUp n d) := by
  have hlaunch : ∀ i, i ≠ n → (m.linkUp n d).flight i = m.flight i := fun _ hi =>
    flight_launch_ne hi
  have hself : (m.linkUp n d).flight n = some (.linked d) := flight_launch_self
  have hattempt : ∀ i, (m.linkUp n d).attempt i = m.attempt i := by
    intro i
    by_cases hi : i = n
    · subst hi
      rw [attempt_of_flight hself, attempt_of_flight hf]
      rfl
    · unfold Mesh.attempt
      rw [hlaunch i hi]
  have hattempts : (m.linkUp n d).attempts + 1 = m.attempts + 1 := by
    have h := countP_launch Flight.isAttempt n (.linked d) m
    rw [hf] at h
    exact h
  have hconnecting : (m.linkUp n d).connecting + 1 = m.connecting + 0 := by
    have h := countP_launch Flight.isConnecting n (.linked d) m
    rw [hf] at h
    exact h
  constructor
  · have := hm.entries
    show m.connectedDevices.size + (m.linkUp n d).attempts ≤ _
    omega
  · have hcard := Finset.card_insert_le d m.native.outbound
    have := hm.links
    show (insert d m.native.outbound).card + m.native.inbound.card + (m.linkUp n d).connecting ≤ _
    unfold Mesh.links at this
    omega
  · intro i j d' hi hj
    rw [hattempt] at hi hj
    exact hm.single i j d' hi hj
  · intro i d' hi
    rw [hattempt] at hi
    exact hm.established i d' hi
  · intro i d' hi hmem
    by_cases hin : i = n
    · subst hin
      rw [hself] at hi
      cases hi
    · rw [hlaunch i hin] at hi
      rcases Finset.mem_insert.mp hmem with rfl | hold
      · exact hin (hm.single i n d' (attempt_of_flight hi) (attempt_of_flight hf))
      · exact hm.down i d' hi hold

theorem size_set_le {α : Type} (devices : InsMap DeviceId α) (d : DeviceId) (link : α) :
    (devices.set d link).size ≤ devices.size + 1 := by
  have h := InsMap.countP_set (fun _ => true) devices d link
  rw [InsMap.size_eq_countP, InsMap.size_eq_countP]
  simp only [List.countP_singleton, if_true] at h
  omega

theorem size_delete_le {α : Type} (devices : InsMap DeviceId α) (d : DeviceId) :
    (devices.delete d).size ≤ devices.size := by
  have h := InsMap.countP_delete (fun _ => true) devices d
  rw [InsMap.size_eq_countP, InsMap.size_eq_countP]
  omega

/-- The entry is written: what was an attempt is an entry. -/
theorem Bounded.connectedOutbound {s : Mesh.PeerSighting} (hm : Bounded m)
    (hf : m.flight n = some (.linked s.deviceId)) :
    Bounded ((m.connectedOutbound s).launch n (.opening s.deviceId)) := by
  have hlaunch : ∀ i, i ≠ n →
      ((m.connectedOutbound s).launch n (.opening s.deviceId)).flight i = m.flight i := fun _ hi =>
    flight_launch_ne hi
  have hself : ((m.connectedOutbound s).launch n (.opening s.deviceId)).flight n =
      some (.opening s.deviceId) := flight_launch_self
  have hattempt : ∀ i d, ((m.connectedOutbound s).launch n (.opening s.deviceId)).attempt i = some d →
      i ≠ n ∧ m.attempt i = some d := by
    intro i d hi
    have hin : i ≠ n := by
      rintro rfl
      rw [attempt_of_flight hself] at hi
      cases hi
    refine ⟨hin, ?_⟩
    unfold Mesh.attempt at hi ⊢
    rwa [hlaunch i hin] at hi
  have hattempts : ((m.connectedOutbound s).launch n (.opening s.deviceId)).attempts + 1 =
      m.attempts + 0 := by
    have h := countP_launch Flight.isAttempt n (.opening s.deviceId) (m.connectedOutbound s)
    rw [show (m.connectedOutbound s).flight n = _ from hf] at h
    exact h
  have hconnecting : ((m.connectedOutbound s).launch n (.opening s.deviceId)).connecting + 0 =
      m.connecting + 0 := by
    have h := countP_launch Flight.isConnecting n (.opening s.deviceId) (m.connectedOutbound s)
    rw [show (m.connectedOutbound s).flight n = _ from hf] at h
    exact h
  constructor
  · have hsize := size_set_le m.connectedDevices s.deviceId .outbound
    have := hm.entries
    show (m.connectedDevices.set s.deviceId .outbound).size + _ ≤ _
    omega
  · have := hm.links
    show m.links + _ ≤ _
    omega
  · exact fun i j d hi hj => hm.single i j d (hattempt i d hi).2 (hattempt j d hj).2
  · intro i d hi
    obtain ⟨hin, hold⟩ := hattempt i d hi
    have hne : s.deviceId ≠ d := by
      rintro rfl
      exact hin (hm.single i n _ hold (attempt_of_flight hf))
    show (m.connectedDevices.set s.deviceId .outbound).get? d ≠ _
    rw [InsMap.get?_set_ne _ hne]
    exact hm.established i d hold
  · intro i d hi
    have hin := (hattempt i d (attempt_of_flight hi)).1
    rw [hlaunch i hin] at hi
    exact hm.down i d hi

theorem Atom.bounded (h : Atom P n e m m') (hm : Bounded m) : Bounded m' := by
  rcases h.quiet with hquiet | ⟨d, hf, rfl⟩ | ⟨s, hf, rfl⟩
  · exact hquiet.bounded hm
  · exact hm.linkUp hf
  · exact hm.connectedOutbound hf

/-! ### Entries -/

/-- An attempt starts. -/
theorem Bounded.connects (hm : Bounded m) (hfree : m.connectedDevices.has d = false)
    (hunattempted : ∀ i, m.attempt i ≠ some d) (hdown : d ∉ m.native.outbound)
    (hentries : m.connectedDevices.size + m.attempts < MAX_BLE_CONNECTIONS)
    (hlinks : m.links + m.connecting < MAX_BLE_CONNECTIONS) :
    Bounded (m.number.launch m.calls (.connecting d)) := by
  have hlaunch : ∀ i, i ≠ m.calls →
      (m.number.launch m.calls (.connecting d)).flight i = m.flight i := fun _ hi =>
    flight_launch_ne hi
  have hself : (m.number.launch m.calls (.connecting d)).flight m.calls = some (.connecting d) :=
    flight_launch_self
  have hattempt : ∀ i d', (m.number.launch m.calls (.connecting d)).attempt i = some d' →
      (i = m.calls ∧ d' = d) ∨ (i ≠ m.calls ∧ m.attempt i = some d') := by
    intro i d' hi
    by_cases hin : i = m.calls
    · subst hin
      rw [attempt_of_flight hself] at hi
      cases hi
      exact Or.inl ⟨rfl, rfl⟩
    · unfold Mesh.attempt at hi ⊢
      rw [hlaunch i hin] at hi
      exact Or.inr ⟨hin, hi⟩
  have hattempts : (m.number.launch m.calls (.connecting d)).attempts ≤ m.attempts + 1 := by
    have h := countP_launch Flight.isAttempt m.calls (.connecting d) m.number
    exact le_trans (Nat.le_add_right _ _) (le_of_eq h)
  have hconnecting : (m.number.launch m.calls (.connecting d)).connecting ≤ m.connecting + 1 := by
    have h := countP_launch Flight.isConnecting m.calls (.connecting d) m.number
    exact le_trans (Nat.le_add_right _ _) (le_of_eq h)
  constructor
  · show m.connectedDevices.size + _ ≤ _
    omega
  · show m.links + _ ≤ _
    omega
  · intro i j d' hi hj
    rcases hattempt i d' hi with ⟨rfl, rfl⟩ | ⟨-, hold⟩
    · rcases hattempt j _ hj with ⟨rfl, -⟩ | ⟨-, hj⟩
      · rfl
      · exact absurd hj (hunattempted j)
    · rcases hattempt j d' hj with ⟨rfl, rfl⟩ | ⟨-, hj⟩
      · exact absurd hold (hunattempted i)
      · exact hm.single i j d' hold hj
  · intro i d' hi
    show m.connectedDevices.get? d' ≠ _
    rcases hattempt i d' hi with ⟨-, rfl⟩ | ⟨-, hi⟩
    · intro hget
      rw [InsMap.has, hget] at hfree
      cases hfree
    · exact hm.established i d' hi
  · intro i d' hi
    show d' ∉ m.native.outbound
    by_cases hin : i = m.calls
    · subst hin
      rw [hself] at hi
      cases hi
      exact hdown
    · rw [hlaunch i hin] at hi
      exact hm.down i d' hi

/-- A disconnect is quiet, whichever link went down. -/
theorem quiet_disconnected {m₁ : Mesh} (hdevices : m₁.connectedDevices = m.connectedDevices)
    (houtbound : m₁.native.outbound ⊆ m.native.outbound)
    (hinbound : m₁.native.inbound ⊆ m.native.inbound) (hflights : m₁.flights = m.flights) :
    Quiet n m (m₁.disconnected d) := by
  obtain ⟨_, _, heq⟩ := disconnected_eq d m₁
  rw [heq]
  refine ⟨?_, ?_, houtbound, hinbound, Or.inl hflights⟩
  · show (m₁.connectedDevices.delete d).size ≤ _
    rw [hdevices]
    exact size_delete_le _ _
  · intro d' hget
    have hdelete : (m₁.connectedDevices.delete d).get? d' = some .outbound := hget
    rw [hdevices, InsMap.get?_delete] at hdelete
    split at hdelete
    · cases hdelete
    · exact hdelete

theorem connectedDevices_connectedInbound (d : DeviceId) (m : Mesh) :
    (m.connectedInbound d).connectedDevices = if m.connectedDevices.has d then m.connectedDevices
      else m.connectedDevices.set d .inbound := by
  unfold Mesh.connectedInbound
  split
  · rfl
  · rfl

/-- A peer connects to us. -/
theorem Bounded.connected (hm : Bounded m)
    (hentries : m.connectedDevices.has d = false →
      m.connectedDevices.size + m.attempts < MAX_BLE_CONNECTIONS)
    (hlinks : d ∉ m.native.inbound → m.links + m.connecting < MAX_BLE_CONNECTIONS) :
    Bounded ((m.number.inboundUp d).connectedInbound d) := by
  obtain ⟨devices, heq⟩ := connectedInbound_eq d (m.number.inboundUp d)
  have hdevices : devices = if m.connectedDevices.has d then m.connectedDevices
      else m.connectedDevices.set d .inbound := by
    have h := connectedDevices_connectedInbound d (m.number.inboundUp d)
    rw [heq] at h
    exact h
  rw [heq]
  constructor
  · show devices.size + m.attempts ≤ _
    rw [hdevices]
    split_ifs with hhas
    · exact hm.entries
    · have hroom := hentries (Bool.eq_false_iff.mpr hhas)
      have hsize := size_set_le m.connectedDevices d .inbound
      omega
  · show m.native.outbound.card + (insert d m.native.inbound).card + m.connecting ≤ _
    by_cases hmem : d ∈ m.native.inbound
    · rw [Finset.insert_eq_of_mem hmem]
      exact hm.links
    · rw [Finset.card_insert_of_notMem hmem]
      have hroom := hlinks hmem
      unfold Mesh.links at hroom
      omega
  · exact hm.single
  · intro i d' hi hget
    have hdevices' : devices.get? d' = some .outbound := hget
    rw [hdevices] at hdevices'
    split_ifs at hdevices' with hhas
    · exact hm.established i d' hi hdevices'
    · rw [InsMap.get?_set] at hdevices'
      split at hdevices'
      · cases hdevices'
      · exact hm.established i d' hi hdevices'
  · exact hm.down

/-- A link comes up late. -/
theorem Bounded.lateLink (hm : Bounded m)
    (hroom : d ∉ m.native.outbound →
      (∀ i, m.flight i ≠ some (.connecting d)) ∧ m.links + m.connecting < MAX_BLE_CONNECTIONS) :
    Bounded (m.number.outboundUp d) := by
  refine ⟨hm.entries, ?_, hm.single, hm.established, fun i d' hi hmem => ?_⟩
  · show (insert d m.native.outbound).card + m.native.inbound.card + m.connecting ≤ _
    by_cases hmem : d ∈ m.native.outbound
    · rw [Finset.insert_eq_of_mem hmem]
      exact hm.links
    · rw [Finset.card_insert_of_notMem hmem]
      have hlinks := (hroom hmem).2
      unfold Mesh.links at hlinks
      omega
  · rcases Finset.mem_insert.mp hmem with rfl | hold
    · exact (hroom (hm.down i d' hi)).1 i hi
    · exact hm.down i d' hi hold

theorem Takes.isAttempt {f : Flight} (h : Takes e m f) :
    f.isAttempt = false ∨ ∃ s c id hr, e = .sighting s c id hr ∧ m.Connects s.deviceId ∧
      f = .connecting s.deviceId := by
  cases h with
  | sighting s c id hr _ hconnects => exact Or.inr ⟨s, c, id, hr, rfl, hconnects, rfl⟩
  | _ => exact Or.inl rfl

theorem Routes.isAttempt {frame : ReassembledFrame} {f : Flight} (h : Routes d frame m f) :
    f.isAttempt = false := by
  cases h with
  | _ => rfl

theorem Enters.bounded (h : Enters e m m') (hroom : Room e m) (hm : Bounded m) : Bounded m' := by
  cases h with
  | lateLink d => exact hm.lateLink hroom
  | disconnected d =>
      have hquiet : Quiet m.calls m ((m.number.outboundDown d).disconnected d) :=
        quiet_disconnected rfl (Finset.erase_subset _ _) (Finset.Subset.refl _) rfl
      exact hquiet.bounded hm
  | dropped d =>
      have hquiet : Quiet m.calls m ((m.number.inboundDown d).disconnected d) :=
        quiet_disconnected rfl (Finset.Subset.refl _) (Finset.erase_subset _ _) rfl
      exact hquiet.bounded hm
  | connected d => exact hm.connected hroom.1 hroom.2
  | timeouts =>
      have hquiet := (checkHandshakeTimeouts_onlyObjects m.number).quiet (n := m.calls)
      exact hquiet.bounded hm.number
  | accepts p =>
      have hquiet := (acceptPeer_onlyObjects p m.number).quiet (n := m.calls)
      exact hquiet.bounded hm.number
  | rejects p =>
      have hquiet := (rejectPeer_onlyObjects p m.number).quiet (n := m.calls)
      exact hquiet.bounded hm.number
  | takes _ _ f htakes =>
      rcases htakes.isAttempt with hf | ⟨s, c, id, hr, rfl, hconnects, rfl⟩
      · have hquiet : Quiet m.calls m (m.number.launch m.calls f) :=
          .of_eq rfl rfl rfl (Or.inr (Or.inr ⟨f, hf, rfl⟩))
        exact hquiet.bounded hm
      · obtain ⟨hunattempted, hdown, hentries, hlinks⟩ := hroom hconnects
        exact hm.connects hconnects.free hunattempted hdown hentries hlinks
  | routes d chunk id hr _ frame f hframe hroutes =>
      have hquiet : Quiet m.calls m
          ((m.number.setReassembler d (m.reassemble d chunk).1).launch m.calls f) :=
        .of_eq rfl rfl rfl (Or.inr (Or.inr ⟨f, hroutes.isAttempt, rfl⟩))
      exact hquiet.bounded hm
  | gc | clock | ignored | reassembles =>
      exact Quiet.bounded (n := m.calls) (m := m) (.of_eq rfl rfl rfl (Or.inl rfl)) hm

end Bounded

/-! ## Every run -/

/-- **Connection limit and single attempt**: where each attempt and each inbound
connection finds room, every state that the mesh reaches is within the limit. -/
theorem within_limit_of_room (P : Primitives) (tofu : TofuStore) (now : ℕ)
    (ms : List (Move Event Unit)) (h : Meets P (.initial tofu now) Room ms) :
    WithinLimit (meshRun P (.initial tofu now) ms).shared :=
  (h.keeps ⟨rfl, fun _ _ => rfl⟩ (bounded_initial tofu now)
    (fun _ _ _ henters hroom => henters.bounded hroom)
    fun _ _ _ _ hatom => hatom.bounded).withinLimit

/-! ### On fixed inputs -/

/-- `Room`, tested: the calls are told apart by their numbers. -/
def room : Event → Mesh → Bool
  | .sighting s _ _ _, m =>
      (m.connectedDevices.has s.deviceId || m.connectedDevices.size ≥ MAX_BLE_CONNECTIONS ||
        m.now < (m.backoff.get? s.deviceId).getD 0) ||
      (m.flights.values.all (fun f => f.attempt ≠ some s.deviceId) &&
        s.deviceId ∉ m.native.outbound &&
        m.connectedDevices.size + m.attempts < MAX_BLE_CONNECTIONS &&
        m.links + m.connecting < MAX_BLE_CONNECTIONS)
  | .connection d true, m =>
      (m.connectedDevices.has d || m.connectedDevices.size + m.attempts < MAX_BLE_CONNECTIONS) &&
      (d ∈ m.native.inbound || m.links + m.connecting < MAX_BLE_CONNECTIONS)
  | .lateLink d, m =>
      d ∈ m.native.outbound ||
        (m.flights.values.all (fun f => f ≠ .connecting d) &&
          m.links + m.connecting < MAX_BLE_CONNECTIONS)
  | _, _ => true

theorem room_sound (e : Event) (m : Mesh) (h : room e m = true) : Room e m := by
  cases e with
  | sighting s c id hr =>
      intro hconnects
      have hpasses : ¬ (m.connectedDevices.has s.deviceId || m.connectedDevices.size ≥
          MAX_BLE_CONNECTIONS || m.now < (m.backoff.get? s.deviceId).getD 0) = true := by
        simp only [hconnects.free, Bool.false_or, Bool.or_eq_true, decide_eq_true_eq, not_or,
          not_le, not_lt, ge_iff_le]
        exact ⟨hconnects.limit, hconnects.backoff⟩
      simp only [room, Bool.or_eq_true, Bool.and_eq_true, decide_eq_true_eq] at h hpasses
      obtain ⟨⟨⟨hflights, hdown⟩, hentries⟩, hlinks⟩ := h.resolve_left hpasses
      refine ⟨fun i hi => ?_, hdown, hentries, hlinks⟩
      obtain ⟨f, hf, hfd⟩ := Option.bind_eq_some_iff.mp hi
      have hmem : f ∈ m.flights.values := List.mem_map_of_mem (InsMap.get?_eq_some.mp hf)
      exact of_decide_eq_true (List.all_eq_true.mp hflights f hmem) hfd
  | connection d connected =>
      cases connected with
      | false => trivial
      | true =>
          simp only [room, Bool.and_eq_true, Bool.or_eq_true, decide_eq_true_eq] at h
          refine ⟨fun hfree => h.1.resolve_left fun hhas => ?_,
            fun hnew => h.2.resolve_left fun hmem => hnew hmem⟩
          rw [hfree] at hhas
          cases hhas
  | lateLink d =>
      intro hnew
      simp only [room, Bool.or_eq_true, Bool.and_eq_true, decide_eq_true_eq] at h
      obtain ⟨hflights, hlinks⟩ := h.resolve_left hnew
      refine ⟨fun i hi => ?_, hlinks⟩
      have hmem : Flight.connecting d ∈ m.flights.values :=
        List.mem_map_of_mem (InsMap.get?_eq_some.mp hi)
      exact of_decide_eq_true (List.all_eq_true.mp hflights _ hmem) rfl
  | _ => trivial

/-- A peer is connected to, and another one connects to us. -/
theorem within_limit_of_room_sample :
    WithinLimit (meshRun .sample (.initial .empty 0)
      (alone 0 (sightingOf 2 "a") 12 ++ [.start (.connection "b" true)])).shared :=
  within_limit_of_room .sample .empty 0 _ (.of_tests room_sound rfl)

/-- **Two sightings of one device**: both attempts pass the checks. -/
theorem two_attempts :
    ¬∀ ms, WithinLimit (meshRun .sample (.initial .empty 0) ms).shared := by
  intro h
  have hlimit := h [.start (sightingOf 2 "a"), .start (sightingOf 2 "a")]
  exact absurd (hlimit.single 0 1 "a" rfl rfl) (by decide)

end Oxpulse.Transport
