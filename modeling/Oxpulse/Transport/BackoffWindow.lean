import Oxpulse.Foundation.RetryTable
import Oxpulse.Transport.MeshObjects

/-!
# The backoff window

`backoff` and `backoffCounts` are a table of retry windows (`RetryTable`): the
catch block of the scan callback fails the device, the end of its `try` block
forgets it, a disconnect lets it expire, and the tick of the garbage collector
prunes. So a window that is running is cut short only by an attempt that
succeeds or by `stopMesh`, and a sighting that finds it running attempts nothing
(`backoff_window_holds`).
-/

namespace Oxpulse.Transport

open Oxpulse.Coroutine Oxpulse.Crypto

/-! ## The table -/

namespace Mesh

def retries (m : Mesh) : RetryTable DeviceId := ⟨m.backoff, m.backoffCounts⟩

/-- How long the window is after so many failures. -/
def windowMs (count : ℕ) : ℕ :=
  BACKOFF_STEPS_MS.getD (min count (BACKOFF_STEPS_MS.length - 1)) 0

/-- The windows of the module are sound. -/
def SoundRetries (m : Mesh) : Prop := m.retries.Sound windowMs m.now

end Mesh

open Mesh

theorem windowMs_monotone : Monotone windowMs := by
  have hsteps : ∀ count, windowMs count = if count = 0 then 5000 else
      if count = 1 then 15000 else 60000 := by
    intro count
    match count with
    | 0 => rfl
    | 1 => rfl
    | count + 2 =>
        have hlength : BACKOFF_STEPS_MS.length - 1 = 2 := rfl
        unfold windowMs
        rw [hlength, Nat.min_eq_right (by omega), if_neg (by omega), if_neg (by omega)]
        rfl
  intro a b hab
  rw [hsteps, hsteps]
  split_ifs <;> omega

section Operations

variable {m : Mesh} (d : DeviceId)

theorem retries_armBackoff :
    (m.armBackoff d).retries = m.retries.fail windowMs m.now d := rfl

theorem retries_connectedOutbound (s : PeerSighting) :
    (m.connectedOutbound s).retries = m.retries.forget s.deviceId := rfl

theorem retries_gc : m.gc.retries = m.retries.prune m.now := rfl

theorem retries_clearBackoff : (m.clearBackoff d).retries = m.retries.expire m.now d := by
  unfold Mesh.clearBackoff RetryTable.expire
  show _ = if (m.backoff.get? d).getD 0 > m.now then m.retries else _
  split
  · rfl
  · rfl

theorem now_clearBackoff : (m.clearBackoff d).now = m.now := by
  unfold Mesh.clearBackoff
  split
  · rfl
  · rfl

theorem retries_disconnected : (m.disconnected d).retries = m.retries.expire m.now d :=
  retries_clearBackoff d

theorem now_disconnected : (m.disconnected d).now = m.now := now_clearBackoff d

end Operations

/-! ## Steps -/

/-- Neither the table nor the clock moves. -/
structure SameRetries (m m' : Mesh) : Prop where
  retries : m'.retries = m.retries
  now : m'.now = m.now

/-- `stopMesh` has cleared the maps. -/
structure Cleared (m : Mesh) : Prop where
  peerId : m.peerId = none
  backoff : m.backoff = .empty
  backoffCounts : m.backoffCounts = .empty

section Steps

variable {P : Primitives} {n : ℕ} {e : Event} {m m' : Mesh} {d : DeviceId}

theorem OnlyObjects.sameRetries (h : OnlyObjects m m') : SameRetries m m' := by
  obtain ⟨_, _, _, rfl⟩ := h
  exact ⟨rfl, rfl⟩

theorem SameRetries.number (h : SameRetries m.number m') : SameRetries m m' := ⟨h.retries, h.now⟩

/-- What an assignment does to the table: nothing, or one of the three things a
scan callback and `stopMesh` do. -/
inductive Retries (n : ℕ) (m m' : Mesh) : Event → Prop where
  | same (e : Event) : SameRetries m m' → Retries n m m' e
  | fails (s : PeerSighting) (c : ConnectReplies) (id : IdentityReplies) (hr : HandshakeReplies) :
      m' = m.armBackoff s.deviceId → Retries n m m' (.sighting s c id hr)
  | succeeds (s : PeerSighting) (c : ConnectReplies) (id : IdentityReplies)
      (hr : HandshakeReplies) : c.Succeeds → m.flight n = some (.linked s.deviceId) →
      m'.flight n = some (.opening s.deviceId) → m'.retries = m.retries.forget s.deviceId →
      m'.now = m.now → Retries n m m' (.sighting s c id hr)
  | clears (r : StopReplies) : m' = m.clear → Retries n m m' (.stopMesh r)

theorem Atom.retries (h : Atom P n e m m') : Retries n m m' e := by
  cases h with
  | armBackoff s c id hr => exact .fails s c id hr rfl
  | connectedOutbound s c id hr _ hf hsucceeds =>
      exact .succeeds s c id hr hsucceeds hf flight_launch_self (retries_connectedOutbound s) rfl
  | clears r => exact .clears r rfl
  | failHandshake _ cs => exact .same _ (failHandshake_onlyObjects cs m).sameRetries
  | setSession _ ref k s => exact .same _ (setSession_onlyObjects ref k s m).sameRetries
  | removed r i handle =>
      refine .same _ ?_
      split
      · exact ⟨rfl, rfl⟩
      · exact ⟨rfl, rfl⟩
  | _ => exact .same _ ⟨rfl, rfl⟩

/-- `stopMesh` does not start anything again. -/
theorem Atom.cleared {r : StopReplies} (h : Atom P n (.stopMesh r) m m') (hm : Cleared m) :
    Cleared m' := by
  cases h with
  | clears => exact ⟨rfl, rfl, rfl⟩
  | failHandshake _ cs =>
      obtain ⟨_, _, _, heq⟩ := failHandshake_onlyObjects cs m
      rw [heq]
      exact ⟨hm.peerId, hm.backoff, hm.backoffCounts⟩
  | setSession _ ref k s =>
      obtain ⟨_, _, _, heq⟩ := setSession_onlyObjects ref k s m
      rw [heq]
      exact ⟨hm.peerId, hm.backoff, hm.backoffCounts⟩
  | removed _ i handle =>
      split
      · exact ⟨hm.peerId, hm.backoff, hm.backoffCounts⟩
      · exact ⟨hm.peerId, hm.backoff, hm.backoffCounts⟩
  | _ => exact ⟨hm.peerId, hm.backoff, hm.backoffCounts⟩

/-- What a segment does to the window of the device. -/
inductive Window (d : DeviceId) (n : ℕ) (m m' : Mesh) : Event → Prop where
  | keeps (e : Event) : m.retries.Keeps m.now d m'.retries → Window d n m m' e
  | succeeds (s : PeerSighting) (c : ConnectReplies) (id : IdentityReplies)
      (hr : HandshakeReplies) : s.deviceId = d → c.Succeeds → Waiting n m → ¬ Waiting n m' →
      Window d n m m' (.sighting s c id hr)
  | clears (r : StopReplies) : Cleared m' → Window d n m m' (.stopMesh r)

theorem Retries.sound (h : Retries n m m' e) (hm : m.SoundRetries) : m'.SoundRetries := by
  unfold Mesh.SoundRetries at hm ⊢
  cases h with
  | same _ hsame =>
      rw [hsame.retries, hsame.now]
      exact hm
  | fails s c id hr heq =>
      rw [heq, retries_armBackoff]
      exact hm.fail s.deviceId
  | succeeds s c id hr _ _ _ hforget hnow =>
      rw [hforget, hnow]
      exact hm.forget s.deviceId
  | clears r heq =>
      rw [heq]
      exact RetryTable.sound_empty

theorem Retries.now (h : Retries n m m' e) : m'.now = m.now := by
  cases h with
  | same _ hsame => exact hsame.now
  | fails s c id hr heq => rw [heq]; rfl
  | succeeds s c id hr _ _ _ _ hnow => exact hnow
  | clears r heq => rw [heq]; rfl

theorem waiting_of_linked (h : m.flight n = some (.linked d)) : Waiting n m := by
  unfold Waiting
  rw [h]
  rfl

theorem Retries.window (h : Retries n m m' e) (hm : m.SoundRetries) (d : DeviceId) :
    Window d n m m' e := by
  cases h with
  | same _ hsame =>
      refine .keeps _ ?_
      rw [hsame.retries]
      exact .refl _ _ _
  | fails s c id hr heq =>
      refine .keeps _ ?_
      rw [heq, retries_armBackoff]
      exact hm.keeps_fail windowMs_monotone s.deviceId d
  | succeeds s c id hr hsucceeds hf hf' hforget hnow =>
      by_cases hd : s.deviceId = d
      · exact .succeeds s c id hr hd hsucceeds (waiting_of_linked hf)
          (not_waiting_of_flight hf' rfl)
      · refine .keeps _ ?_
        rw [hforget]
        exact RetryTable.keeps_forget hd
  | clears r heq =>
      refine .clears r ?_
      rw [heq]
      exact ⟨rfl, rfl, rfl⟩

/-- A segment keeps the table sound, and the window of each device unless the
segment ends an attempt well or clears everything. -/
theorem Chain.window (h : Chain P n e m m') (hm : m.SoundRetries) (d : DeviceId) :
    m'.SoundRetries ∧ m'.now = m.now ∧ Window d n m m' e := by
  induction h with
  | refl => exact ⟨hm, rfl, .keeps _ (.refl _ _ _)⟩
  | @tail m₁ m₂ hchain hatom ih =>
      obtain ⟨hm₁, hnow₁, hwindow₁⟩ := ih
      have hretries := hatom.retries
      refine ⟨hretries.sound hm₁, hretries.now.trans hnow₁, ?_⟩
      cases hwindow₁ with
      | keeps _ hkeeps =>
          cases hretries.window hm₁ d with
          | keeps _ hkeeps' =>
              rw [hnow₁] at hkeeps'
              exact .keeps _ (hkeeps.trans hkeeps')
          | succeeds s c id hr hd hsucceeds hwaits hended =>
              refine .succeeds s c id hr hd hsucceeds ?_ hended
              by_contra hnot
              exact Chain.not_waiting hchain hnot hwaits
          | clears r hcleared => exact .clears r hcleared
      | succeeds s c id hr hd hsucceeds hwaits hended =>
          exact .succeeds s c id hr hd hsucceeds hwaits
            (Chain.not_waiting (.single hatom) hended)
      | clears r hcleared => exact .clears r (hatom.cleared hcleared)

/-- Only a sighting and `stopMesh` work on the table. -/
theorem Chain.sameRetries (h : Chain P n e m m') (hsighting : ∀ s c id hr, e ≠ .sighting s c id hr)
    (hstop : ∀ r, e ≠ .stopMesh r) : SameRetries m m' := by
  induction h with
  | refl => exact ⟨rfl, rfl⟩
  | tail _ hatom ih =>
      cases hatom.retries with
      | same _ hsame => exact ⟨hsame.retries.trans ih.retries, hsame.now.trans ih.now⟩
      | fails s c id hr => exact absurd rfl (hsighting s c id hr)
      | succeeds s c id hr => exact absurd rfl (hsighting s c id hr)
      | clears r => exact absurd rfl (hstop r)

/-- **An entry never cuts a window short.** -/
theorem Enters.window (h : Enters e m m') (hm : m.SoundRetries) :
    m'.SoundRetries ∧ m.now ≤ m'.now ∧ ∀ d, m.retries.Keeps m.now d m'.retries := by
  unfold Mesh.SoundRetries at hm ⊢
  have hsame : ∀ m₁ : Mesh, SameRetries m m₁ →
      m₁.retries.Sound windowMs m₁.now ∧ m.now ≤ m₁.now ∧
        ∀ d, m.retries.Keeps m.now d m₁.retries := by
    intro m₁ h
    rw [h.retries, h.now]
    exact ⟨hm, le_refl _, fun d => .refl _ _ _⟩
  have hexpire : ∀ (m₁ : Mesh) (d : DeviceId), SameRetries m m₁ →
      (m₁.disconnected d).retries.Sound windowMs (m₁.disconnected d).now ∧
        m.now ≤ (m₁.disconnected d).now ∧
        ∀ d', m.retries.Keeps m.now d' (m₁.disconnected d).retries := by
    intro m₁ d h
    rw [retries_disconnected, now_disconnected, h.retries, h.now]
    exact ⟨hm.expire d, le_refl _, fun d' => RetryTable.keeps_expire d d'⟩
  cases h with
  | disconnected d => exact hexpire _ d ⟨rfl, rfl⟩
  | dropped d => exact hexpire _ d ⟨rfl, rfl⟩
  | connected d =>
      obtain ⟨_, heq⟩ := connectedInbound_eq d (m.number.inboundUp d)
      rw [heq]
      exact hsame _ ⟨rfl, rfl⟩
  | gc =>
      rw [retries_gc]
      exact ⟨hm.prune, le_refl _, fun d => RetryTable.keeps_prune d⟩
  | timeouts => exact hsame _ (checkHandshakeTimeouts_onlyObjects m.number).sameRetries.number
  | clock ms =>
      have hle : m.now ≤ m.now + ms := Nat.le_add_right _ _
      exact ⟨hm.later hle, hle, fun d => .refl _ _ _⟩
  | accepts p => exact hsame _ (acceptPeer_onlyObjects p m.number).sameRetries.number
  | rejects p => exact hsame _ (rejectPeer_onlyObjects p m.number).sameRetries.number
  | _ => exact hsame _ ⟨rfl, rfl⟩

end Steps

/-! ## New calls -/

section Starts

variable {P : Primitives} {m : Mesh} {s : PeerSighting} {c : ConnectReplies}
  {id : IdentityReplies} {hr : HandshakeReplies}

/-- What follows the checks of the scan callback. -/
theorem handle_attempt (h : m.Connects s.deviceId) :
    handle P (.sighting s c id hr) m =
      landing m.calls (do
        match ← Co.attempt (connectPeer m.calls s c) with
        | .error _ => modify (Mesh.armBackoff s.deviceId)
        | .ok _ => startHandshake P m.calls s id hr)
        (m.number.launch m.calls (.connecting s.deviceId)) := by
  have hnumber : m.number.Connects s.deviceId := ⟨h.free, h.limit, h.backoff⟩
  show landing m.calls (onSighting P m.calls s c id hr) m.number = _
  unfold landing
  rw [Co.bind_apply, Co.attempt, onSighting_attempt c id hr m.calls hnumber]
  rfl

/-- A sighting that passes the checks starts an attempt, and waits for the link. -/
theorem handle_sighting_connects (h : m.Connects s.deviceId) :
    (handle P (.sighting s c id hr) m).state =
      m.number.launch m.calls (.connecting s.deviceId) := by
  rw [handle_attempt h]
  unfold landing connectPeer connect
  cases c.connect with
  | ok u => rfl
  | error err => rfl

/-- Any other one does nothing. -/
theorem handle_sighting_ignored (h : ¬ m.Connects s.deviceId) :
    (handle P (.sighting s c id hr) m).state = m.number.land m.calls := by
  have hnumber : ¬ m.number.Connects s.deviceId := fun hnumber =>
    h ⟨hnumber.free, hnumber.limit, hnumber.backoff⟩
  show (landing m.calls (onSighting P m.calls s c id hr) m.number).state = _
  unfold landing
  rw [Co.bind_apply, Co.attempt, onSighting_ignored c id hr m.calls hnumber]
  rfl

theorem handle_stopMesh (r : StopReplies) :
    (handle P (.stopMesh r) m).state = m.number.launch m.calls (.stopping 0) := by
  unfold handle landing respond stopMesh switchOff
  simp only [Co.bind_apply, Co.get_apply, Co.modify_apply, Outcome.bind, Co.attempt]
  cases r.stopLEScan with
  | ok u => rfl
  | error err => rfl

end Starts

/-! ## Runs -/

/-- An attempt for the device ends with this step, and none of its native calls
fails. -/
def AttemptSucceeds (P : Primitives) (d : DeviceId) (p : MeshPool) (mv : Move Event Unit) : Prop :=
  ∃ i u s c id hr k, mv = .resume i u ∧ p.calls[i]? = some ⟨.sighting s c id hr, .pending k⟩ ∧
    s.deviceId = d ∧ c.Succeeds ∧ Waiting i p.shared ∧
    ¬ Waiting i (p.step (handle P) mv).shared

/-- With this step `stopMesh` has cleared the maps. -/
def StopClears (P : Primitives) (p : MeshPool) (mv : Move Event Unit) : Prop :=
  ∃ i u r k, mv = .resume i u ∧ p.calls[i]? = some ⟨.stopMesh r, .pending k⟩ ∧
    Cleared (p.step (handle P) mv).shared

/-- The sighting starts a connect attempt. -/
def Attempts (P : Primitives) (p : MeshPool) (s : PeerSighting) (c : ConnectReplies)
    (id : IdentityReplies) (hr : HandshakeReplies) : Prop :=
  (p.step (handle P) (.start (.sighting s c id hr))).shared.flight p.shared.calls =
    some (.connecting s.deviceId)

section Runs

variable {P : Primitives} {m : Mesh} {d : DeviceId} {r : ℕ}

/-- What a step of a run does to the window of the device. -/
structure StepWindow (P : Primitives) (d : DeviceId) (p : MeshPool) (mv : Move Event Unit) :
    Prop where
  sound : (p.step (handle P) mv).shared.SoundRetries
  now : p.shared.now ≤ (p.step (handle P) mv).shared.now
  window : p.shared.retries.Keeps p.shared.now d (p.step (handle P) mv).shared.retries ∨
    AttemptSucceeds P d p mv ∨ StopClears P p mv

/-- A step that leaves the table alone. -/
theorem stepWindow_of_same {p : MeshPool} {mv : Move Event Unit} (hp : p.shared.SoundRetries)
    (h : SameRetries p.shared (p.step (handle P) mv).shared) : StepWindow P d p mv where
  sound := by
    unfold Mesh.SoundRetries at hp ⊢
    rw [h.retries, h.now]
    exact hp
  now := le_of_eq h.now.symm
  window := by
    rw [h.retries]
    exact Or.inl (.refl _ _ _)

theorem meshRun_stepWindow (hm : Counted 0 m) (ms : List (Move Event Unit))
    (hsound : (meshRun P m ms).shared.SoundRetries) (mv : Move Event Unit) (d : DeviceId) :
    StepWindow P d (meshRun P m ms) mv := by
  have hcount := (meshRun_sound (P := P) hm ms).count
  have hcase := meshRun_stepCase (P := P) hm ms mv
  cases mv with
  | start e =>
      cases e with
      | sighting s c id hr =>
          refine stepWindow_of_same hsound ?_
          show SameRetries _ (handle P (.sighting s c id hr) (meshRun P m ms).shared).state
          by_cases hconnects : (meshRun P m ms).shared.Connects s.deviceId
          · rw [handle_sighting_connects hconnects]
            exact ⟨rfl, rfl⟩
          · rw [handle_sighting_ignored hconnects]
            exact ⟨rfl, rfl⟩
      | stopMesh r =>
          refine stepWindow_of_same hsound ?_
          show SameRetries _ (handle P (.stopMesh r) (meshRun P m ms).shared).state
          rw [handle_stopMesh]
          exact ⟨rfl, rfl⟩
      | _ =>
          cases hcase with
          | idle _ hidle =>
              refine stepWindow_of_same hsound ?_
              rw [hidle]
              exact ⟨rfl, rfl⟩
          | start _ m₀ st hE hG _ _ =>
              obtain ⟨hsound₀, hnow₀, hkeeps₀⟩ := hE.window hsound
              have hsame := hG.chain.sameRetries (fun _ _ _ _ h => by cases h) fun _ h => by cases h
              unfold Mesh.SoundRetries at hsound₀
              constructor
              · unfold Mesh.SoundRetries
                rw [hsame.retries, hsame.now]
                exact hsound₀
              · exact hnow₀.trans (le_of_eq hsame.now.symm)
              · rw [hsame.retries]
                exact Or.inl (hkeeps₀ d)
  | resume i u =>
      cases hcase with
      | idle _ hidle =>
          refine stepWindow_of_same hsound ?_
          rw [hidle]
          exact ⟨rfl, rfl⟩
      | resume _ e _ k st hi hG _ _ =>
          obtain ⟨hsound', hnow', hwindow⟩ := hG.chain.window hsound d
          refine ⟨hsound', le_of_eq hnow'.symm, ?_⟩
          cases hwindow with
          | keeps _ hkeeps => exact Or.inl hkeeps
          | succeeds s c id hr hd hsucceeds hwaits hended =>
              exact Or.inr (Or.inl ⟨i, u, s, c, id, hr, k, rfl, hi, hd, hsucceeds, hwaits, hended⟩)
          | clears r hcleared => exact Or.inr (Or.inr ⟨i, u, r, k, rfl, hi, hcleared⟩)

theorem meshRun_soundRetries (tofu : TofuStore) (now : ℕ) (ms : List (Move Event Unit)) :
    (meshRun P (.initial tofu now) ms).shared.SoundRetries := by
  induction ms using List.reverseRecOn with
  | nil => exact RetryTable.sound_empty
  | append_singleton ms mv ih =>
      rw [meshRun_concat]
      exact (meshRun_stepWindow (pristine_initial tofu now).counted ms ih mv "").sound

/-- From a window on, it is over or was only prolonged, as long as no attempt for
the device succeeds and nothing is cleared. -/
theorem meshRun_window (tofu : TofuStore) (now : ℕ) (pre mid : List (Move Event Unit))
    (hget : (meshRun P (.initial tofu now) pre).shared.backoff.get? d = some r)
    (hmid : ∀ front mv back, mid = front ++ mv :: back →
      ¬ AttemptSucceeds P d (meshRun P (.initial tofu now) (pre ++ front)) mv ∧
      ¬ StopClears P (meshRun P (.initial tofu now) (pre ++ front)) mv) :
    r ≤ (meshRun P (.initial tofu now) (pre ++ mid)).shared.now ∨
      ∃ r', (meshRun P (.initial tofu now) (pre ++ mid)).shared.backoff.get? d = some r' ∧
        r ≤ r' := by
  induction mid using List.reverseRecOn with
  | nil =>
      rw [List.append_nil]
      exact Or.inr ⟨r, hget, le_refl r⟩
  | append_singleton mid mv ih =>
      have hbefore := ih fun front mv' back heq =>
        hmid front mv' (back ++ [mv]) (by rw [heq, List.append_assoc]; rfl)
      obtain ⟨hsucceeds, hclears⟩ := hmid mid mv [] rfl
      have hstep := meshRun_stepWindow (P := P) (pristine_initial tofu now).counted (pre ++ mid)
        (meshRun_soundRetries tofu now (pre ++ mid)) mv d
      rw [← List.append_assoc, meshRun_concat]
      rcases hbefore with hover | ⟨r₁, hr₁, hle₁⟩
      · exact Or.inl (hover.trans hstep.now)
      by_cases hrun : r ≤ (meshRun P (.initial tofu now) (pre ++ mid)).shared.now
      · exact Or.inl (hrun.trans hstep.now)
      rcases hstep.window with hkeeps | hdone | hdone
      · obtain ⟨r₂, hr₂, hle₂⟩ := hkeeps r₁ hr₁ (by omega)
        exact Or.inr ⟨r₂, hr₂, hle₁.trans hle₂⟩
      · exact absurd hdone hsucceeds
      · exact absurd hdone hclears

/-- While its window runs, a device is not tried. -/
theorem not_attempts_of_window {p : MeshPool} {s : PeerSighting} {c : ConnectReplies}
    {id : IdentityReplies} {hr : HandshakeReplies}
    (hget : p.shared.backoff.get? s.deviceId = some r) (hrun : p.shared.now < r) :
    ¬ Attempts P p s c id hr := by
  have hconnects : ¬ p.shared.Connects s.deviceId := by
    intro h
    have hle := h.backoff
    rw [hget] at hle
    exact Nat.not_lt.mpr hle hrun
  unfold Attempts
  show ¬ (handle P (.sighting s c id hr) p.shared).state.flight p.shared.calls = _
  rw [handle_sighting_ignored hconnects, flight_land_self]
  exact fun h => by cases h

end Runs

/-- **An armed backoff window holds**: the two maps have the same keys; a window
that is running is never shortened, and the device is not tried before it is
over, unless an attempt for it succeeds or `stopMesh` clears the maps. -/
theorem backoff_window_holds (P : Primitives) (tofu : TofuStore) (now : ℕ) :
    (∀ ms d, (meshRun P (.initial tofu now) ms).shared.backoff.has d =
      (meshRun P (.initial tofu now) ms).shared.backoffCounts.has d) ∧
    (∀ ms mv d r, (meshRun P (.initial tofu now) ms).shared.backoff.get? d = some r →
      (meshRun P (.initial tofu now) ms).shared.now < r →
      (∃ r', (meshRun P (.initial tofu now) (ms ++ [mv])).shared.backoff.get? d = some r' ∧
        r ≤ r') ∨
      AttemptSucceeds P d (meshRun P (.initial tofu now) ms) mv ∨
      StopClears P (meshRun P (.initial tofu now) ms) mv) ∧
    ∀ pre mid s c id hr r, (meshRun P (.initial tofu now) pre).shared.backoff.get? s.deviceId =
        some r →
      (∀ front mv back, mid = front ++ mv :: back →
        ¬ AttemptSucceeds P s.deviceId (meshRun P (.initial tofu now) (pre ++ front)) mv ∧
        ¬ StopClears P (meshRun P (.initial tofu now) (pre ++ front)) mv) →
      (meshRun P (.initial tofu now) (pre ++ mid)).shared.now < r →
      ¬ Attempts P (meshRun P (.initial tofu now) (pre ++ mid)) s c id hr := by
  refine ⟨fun ms d => (meshRun_soundRetries tofu now ms).keys d, ?_, ?_⟩
  · intro ms mv d r hget hrun
    have hstep := meshRun_stepWindow (P := P) (pristine_initial tofu now).counted ms
      (meshRun_soundRetries tofu now ms) mv d
    rw [meshRun_concat]
    rcases hstep.window with hkeeps | hdone
    · exact Or.inl (hkeeps r hget hrun)
    · exact Or.inr hdone
  · intro pre mid s c id hr r hget hmid hrun
    rcases meshRun_window tofu now pre mid hget hmid with hover | ⟨r', hr', hle⟩
    · exact absurd hrun (Nat.not_lt.mpr hover)
    · exact not_attempts_of_window hr' (hrun.trans_le hle)

/-- Peer 2 is sighted, and no link comes up. -/
def linkFails : List (Move Event Unit) :=
  alone 0 (.startMesh sampleStart) 12 ++
    alone 1 (.sighting ⟨"A", -50, List.replicate 8 2⟩
      { sampleConnect with connect := .error .library } sampleIdentity sampleReplies) 4

/-- One second later it is not tried again. -/
theorem backed_off_device_waits :
    (meshRun .sample (.initial .empty 0) linkFails).shared.backoff.get? "A" = some 5000 ∧
      ¬ Attempts .sample (meshRun .sample (.initial .empty 0) (linkFails ++ [.start (.clock 1000)]))
        ⟨"A", -50, List.replicate 8 2⟩ sampleConnect sampleIdentity sampleReplies := by
  have hwindow : (meshRun .sample (.initial .empty 0) linkFails).shared.backoff.get? "A" =
      some 5000 := by
    decide +kernel
  refine ⟨hwindow, (backoff_window_holds .sample .empty 0).2.2 linkFails [.start (.clock 1000)] _ _
    _ _ 5000 hwindow ?_ (by decide +kernel)⟩
  intro front mv back heq
  have hmv : mv = .start (.clock 1000) := by
    cases front with
    | nil =>
        cases heq
        rfl
    | cons mv' front =>
        have hlength := congrArg List.length heq
        simp only [List.length_cons, List.length_append, List.length_nil] at hlength
        omega
  subst hmv
  constructor
  · rintro ⟨i, u, s, c, id, hr, k, hmove, -⟩
    cases hmove
  · rintro ⟨i, u, r, k, hmove, -⟩
    cases hmove

end Oxpulse.Transport
