import Oxpulse.Transport.MeshObjects

/-!
# The registry over a run

In every run each peer stands in the registry under the hex form of its id, so a look-up
by `idHex` is one by key.
-/

namespace Oxpulse.Transport

open Oxpulse.Coroutine Oxpulse.Crypto

/-! ## The registry -/

/-- Each peer stands under the hex form of its id. -/
def PeerRegistry.Keyed (r : PeerRegistry) : Prop :=
  ∀ k p, r.byId.get? k = some p → p.idHex = k ∧ k = hex p.id

namespace PeerRegistry

variable {r : PeerRegistry} {now : ℕ} {id : Bytes} {mac : DeviceId} {rssi : Option ℤ}

theorem keyed_new : PeerRegistry.new.Keyed := by
  intro k p hget
  cases hget

theorem Keyed.gc (h : r.Keyed) (now : ℕ) : (r.gc now).Keyed := by
  intro k p hget
  exact h k p (InsMap.get?_filter_eq_some.mp hget).1

/-- What `upsert` leaves under the id. -/
theorem get?_upsert (r : PeerRegistry) (now : ℕ) (id : Bytes) (mac : DeviceId) (rssi : Option ℤ) :
    ∃ p, (r.upsert now id mac rssi).byId = r.byId.set (hex id) p ∧ p.mac = mac ∧
      (r.byId.get? (hex id) = none → p.id = id ∧ p.idHex = hex id) ∧
      ∀ existing, r.byId.get? (hex id) = some existing →
        p.id = existing.id ∧ p.idHex = existing.idHex := by
  unfold upsert
  cases hget : r.byId.get? (hex id) with
  | none =>
      refine ⟨⟨id, hex id, mac, now, rssi⟩, ?_, rfl, fun _ => ⟨rfl, rfl⟩, by rintro _ ⟨⟩⟩
      simp only [hget]
  | some existing =>
      refine ⟨refresh now mac rssi existing, ?_, rfl, by rintro ⟨⟩, fun existing' heq => ?_⟩
      · simp only [hget]
      · cases heq
        exact ⟨rfl, rfl⟩

theorem Keyed.upsert (h : r.Keyed) : (r.upsert now id mac rssi).Keyed := by
  obtain ⟨p, hset, -, hnone, hsome⟩ := get?_upsert r now id mac rssi
  intro k q hget
  rw [hset, InsMap.get?_set] at hget
  split at hget
  next heq =>
    cases hget
    subst heq
    cases hold : r.byId.get? (hex id) with
    | none =>
        obtain ⟨hid, hidHex⟩ := hnone hold
        rw [hid]
        exact ⟨hidHex, rfl⟩
    | some existing =>
        obtain ⟨hid, hidHex⟩ := hsome existing hold
        rw [hid, hidHex]
        exact h _ existing hold
  next => exact h k q hget

/-- A look-up by `idHex` is one by key. -/
theorem Keyed.find?_idHex (h : r.Keyed) (k : PeerIdHex) :
    (r.list.find? fun p => p.idHex == k) = r.byId.get? k := by
  unfold list InsMap.values
  cases hfind : (r.byId.entries.map Prod.snd).find? fun p => p.idHex == k with
  | none =>
      cases hget : r.byId.get? k with
      | none => rfl
      | some p =>
          have hmem : p ∈ r.byId.entries.map Prod.snd :=
            List.mem_map.mpr ⟨_, InsMap.get?_eq_some.mp hget, rfl⟩
          have hne := List.find?_eq_none.mp hfind p hmem
          rw [(h k p hget).1] at hne
          exact absurd (beq_self_eq_true k) hne
  | some p =>
      obtain ⟨⟨k', p'⟩, hmem, rfl⟩ := List.mem_map.mp (List.mem_of_find?_eq_some hfind)
      have hget : r.byId.get? k' = some p' := InsMap.get?_eq_some.mpr hmem
      have hk : p'.idHex = k := eq_of_beq (List.find?_some (p := fun q : Peer => q.idHex == k) hfind)
      rw [← hk, (h k' p' hget).1, hget]

/-- The registry has the address of the last sighting. -/
theorem Keyed.mac_upsert (h : r.Keyed) :
    (((r.upsert now id mac rssi).list.find? fun p => p.idHex == hex id).map Peer.mac) =
      some mac := by
  obtain ⟨p, hset, hmac, -⟩ := get?_upsert r now id mac rssi
  rw [h.upsert.find?_idHex, hset, InsMap.get?_set_self]
  exact congrArg some hmac

end PeerRegistry

/-! ## Over a run -/

section Runs

variable {P : Primitives} {n : ℕ} {e : Event} {m m' : Mesh}

theorem Enters.registry_cases (h : Enters e m m') :
    m'.registry = m.registry ∨ m'.registry = m.registry.gc m.now := by
  cases h with
  | gc => exact Or.inr rfl
  | disconnected d =>
      obtain ⟨_, _, heq⟩ := disconnected_eq d (m.number.outboundDown d)
      rw [heq]
      exact Or.inl rfl
  | dropped d =>
      obtain ⟨_, _, heq⟩ := disconnected_eq d (m.number.inboundDown d)
      rw [heq]
      exact Or.inl rfl
  | connected d =>
      obtain ⟨_, heq⟩ := connectedInbound_eq d (m.number.inboundUp d)
      rw [heq]
      exact Or.inl rfl
  | timeouts =>
      obtain ⟨_, _, _, heq⟩ := checkHandshakeTimeouts_onlyObjects m.number
      rw [heq]
      exact Or.inl rfl
  | accepts p =>
      obtain ⟨_, _, _, heq⟩ := acceptPeer_onlyObjects p m.number
      rw [heq]
      exact Or.inl rfl
  | rejects p =>
      obtain ⟨_, _, _, heq⟩ := rejectPeer_onlyObjects p m.number
      rw [heq]
      exact Or.inl rfl
  | _ => exact Or.inl rfl

theorem Atom.registry_cases (h : Atom P n e m m') :
    m'.registry = m.registry ∨
      (∃ s : Mesh.PeerSighting,
        m'.registry = m.registry.upsert m.now s.peerId s.deviceId (some s.rssi)) ∨
      m'.registry = .new := by
  cases h with
  | connectedOutbound s => exact Or.inr (Or.inl ⟨s, rfl⟩)
  | clears => exact Or.inr (Or.inr rfl)
  | failHandshake _ cs _ _ =>
      obtain ⟨_, _, _, heq⟩ := failHandshake_onlyObjects cs m
      rw [heq]
      exact Or.inl rfl
  | setSession _ ref k s _ _ =>
      obtain ⟨_, _, _, heq⟩ := setSession_onlyObjects ref k s m
      rw [heq]
      exact Or.inl rfl
  | removed r i handle =>
      left
      unfold Mesh.launch
      dsimp only
      split
      · rfl
      · rfl
  | _ => exact Or.inl rfl

/-- **In every run** each peer stands under the hex form of its id. -/
theorem meshRun_keyed (P : Primitives) (tofu : TofuStore) (now : ℕ)
    (ms : List (Move Event Unit)) :
    (meshRun P (.initial tofu now) ms).shared.registry.Keyed := by
  refine meshRun_keeps (L := fun _ _ _ => True) (J := fun m => m.registry.Keyed)
    (pristine_initial tofu now).counted PeerRegistry.keyed_new ?_ ?_ fun _ _ _ _ => trivial
  · intro e m m₀ m' henters _ _ hm
    rcases henters.registry_cases with heq | heq
    · rw [heq]
      exact hm
    · rw [heq]
      exact hm.gc m.now
  · intro i e m m' hatom hm
    rcases hatom.registry_cases with heq | ⟨s, heq⟩ | heq
    · rw [heq]
      exact hm
    · rw [heq]
      exact hm.upsert
    · rw [heq]
      exact PeerRegistry.keyed_new

end Runs

end Oxpulse.Transport
