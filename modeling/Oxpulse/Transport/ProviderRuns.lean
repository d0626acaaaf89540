import Oxpulse.Identity.Minting
import Oxpulse.Identity.Restore
import Oxpulse.Transport.LocalIdentity

/-!
# The adapter and the device identity

The adapter is kept for the lifetime of the process, and nothing tells it that the
device identity was wiped or replaced. It agrees with the device as long as that does
not happen once an adapter is being built, and as long as the first keypair is minted
by one call alone.
-/

namespace Oxpulse.Transport

open Oxpulse.Coroutine Oxpulse.Crypto Oxpulse.Identity Pool

/-- **The adapter agrees with the device**: its `dhX25519` is the one of the scalar
whose public key it advertises, and its Ed25519 key is the one of the identity that the
device has now. -/
structure Coherent (P : IdentityPrimitives) (env : Runtime)
    (dh : Bytes → Bytes → Except IdentityError Bytes) (t : Tab) (p : LocalIdentity) : Prop where
  x25519 : ∃ scalar : Key32, p.getX25519PublicKey = P.x25519PublicKey scalar.bytes ∧
    ∀ remotePub : Key32, Co.Triple Alone Anything
      (fun _ x => x = dh scalar.bytes remotePub.bytes) (dhX25519 P env dh remotePub.bytes) t
  ed25519 : ∃ d : DeviceIdentity, fromBase64url d.publicKeyB64 = some p.getPublicKey ∧
    ∀ me, Co.Triple Alone Anything (fun _ x => x = .ok d) (getOrCreateDeviceIdentity P env me) t

/-- No call of the package is under way. -/
def DeviceIdle (p : DevicePool) : Prop := ∀ c ∈ p.calls, c.status.isPending = false

/-- No adapter is built or being built. -/
def Unused (s : Process) : Prop :=
  (∀ h ∈ s.starts, h.stage = .ended) ∧ s.localIdentityProvider = none

/-- The start of the handshake is about to call for the keypair. -/
def wantsKeypair (s : Process) (w : ℕ) : Bool :=
  match s.starts[w]? with
  | some ⟨_, _, .identity _⟩ => true
  | _ => false

/-- **The discipline.** A wipe or a restore starts while no call of the package is under
way and no adapter is built or being built, and no call for the identity or the keypair
starts before it has settled. A call for the keypair starts while no other one is under
way, unless a row that the runtime can use is stored; one that no handshake makes starts
once the identity is in memory. -/
def Disciplined (env : Runtime) (s : Process) : ProcessMove → Prop
  | .clearDeviceIdentity | .replaceDeviceIdentity _ _ => DeviceIdle s.device ∧ Unused s
  | .getOrCreateDeviceIdentity | .initiateHandshake _ | .handshakeFrame _ =>
      ¬ UnderWay .change s.device
  | .getOrCreateX25519Keypair => s.tab.session.cachedIdentity ≠ none ∧
      (HasRow env s.tab.storage ∨ ¬ UnderWay .keypair s.device) ∧ ¬ UnderWay .change s.device
  | .goOn w =>
      wantsKeypair s w = true → HasRow env s.tab.storage ∨ ¬ UnderWay .keypair s.device
  | _ => True

instance (p : DevicePool) : Decidable (DeviceIdle p) :=
  inferInstanceAs (Decidable (∀ c ∈ p.calls, c.status.isPending = false))

instance (s : Process) : Decidable (Unused s) :=
  inferInstanceAs (Decidable ((∀ h ∈ s.starts, h.stage = .ended) ∧ s.localIdentityProvider = none))

instance (env : Runtime) (s : Process) : DecidablePred (Disciplined env s)
  | .clearDeviceIdentity | .replaceDeviceIdentity _ _ =>
      inferInstanceAs (Decidable (DeviceIdle s.device ∧ Unused s))
  | .getOrCreateDeviceIdentity | .initiateHandshake _ | .handshakeFrame _ =>
      inferInstanceAs (Decidable (¬ UnderWay .change s.device))
  | .getOrCreateX25519Keypair =>
      inferInstanceAs (Decidable (s.tab.session.cachedIdentity ≠ none ∧
        (HasRow env s.tab.storage ∨ ¬ UnderWay .keypair s.device) ∧ ¬ UnderWay .change s.device))
  | .goOn w =>
      inferInstanceAs (Decidable
        (wantsKeypair s w = true → HasRow env s.tab.storage ∨ ¬ UnderWay .keypair s.device))
  | .dhX25519 _ | .resume _ _ | .startMesh _ | .disconnectAll | .stopMesh | .connected _ |
    .disconnected _ => .isTrue trivial

/-- Every move of the run is disciplined where it is made. -/
def DisciplinedRun (P : IdentityPrimitives) (env : Runtime)
    (dh : Bytes → Bytes → Except IdentityError Bytes) (s : Process) (ms : List ProcessMove) : Prop :=
  ∀ pre m post, ms = pre ++ m :: post → Disciplined env (s.exec P env dh pre) m

/-- Play a run and test each move. -/
def follows (P : IdentityPrimitives) (env : Runtime)
    (dh : Bytes → Bytes → Except IdentityError Bytes) : Process → List ProcessMove → Bool
  | _, [] => true
  | s, m :: ms => decide (Disciplined env s m) && follows P env dh (s.step P env dh m) ms

/-- The adapter was built of what memory has. -/
structure Built (t : Tab) (p : LocalIdentity) : Prop where
  identity : t.session.cachedIdentity = some p.identity
  pubkeyBytes : fromBase64url p.identity.publicKeyB64 = some p.pubkeyBytes
  x25519PublicKey : ∃ kp, t.session.cachedX25519Keypair = some kp ∧
    p.x25519PublicKey = kp.publicKey

/-- What the start of a handshake has, or waits for, is in memory. -/
def StageOk (s : Process) : Stage → Prop
  | .identity call => ∃ me, Answers s.device call (.getOrCreateDeviceIdentity me)
  | .x25519Kp identity pubkeyBytes call =>
      s.tab.session.cachedIdentity = some identity ∧
        fromBase64url identity.publicKeyB64 = some pubkeyBytes ∧
        Answers s.device call .getOrCreateX25519Keypair
  | .returned provider => s.localIdentityProvider ≠ none ∧ Built s.tab provider
  | .ended => True

/-- **What holds between the moves.** -/
structure Coordinated (P : IdentityPrimitives) (env : Runtime) (s : Process) : Prop where
  device : ∃ base flight, DeviceOk P env base flight s.device
  change : UnderWay .change s.device → Unused s
  stages : ∀ h ∈ s.starts, StageOk s h.stage
  provider : ∀ p, s.localIdentityProvider = some p → Built s.tab p
  handshakes : ∀ p ∈ s.handshakes, s.localIdentityProvider ≠ none ∧ Built s.tab p

section

variable {P : IdentityPrimitives} {env : Runtime} {dh : Bytes → Bytes → Except IdentityError Bytes}
  {s s' : Process} {p : LocalIdentity} {t t' : Tab} {w : ℕ} {h : HandshakeStart}

/-! ## What memory has -/

theorem Built.later (hp : Built t p) (hretains : Retains t t') : Built t' p := by
  obtain ⟨hidentity, hpubkey, kp, hkp, hpublic⟩ := hp
  obtain ⟨hidentity', hkeypair⟩ := hretains _ hidentity
  exact ⟨hidentity', hpubkey, kp, hkeypair kp hkp, hpublic⟩

theorem StageOk.later {stage : Stage} (hstage : StageOk s stage)
    (hprovider : s'.localIdentityProvider = s.localIdentityProvider)
    (hdevice : Continues s.device s'.device) : StageOk s' stage := by
  cases stage with
  | identity call =>
      obtain ⟨me, hcall⟩ := hstage
      exact ⟨me, hdevice.answers call _ (by rintro ⟨⟩) hcall⟩
  | x25519Kp identity pubkeyBytes call =>
      obtain ⟨hidentity, hpubkey, hcall⟩ := hstage
      refine ⟨(hdevice.retains _ hidentity).1, hpubkey, hdevice.answers call _ (fun _ => ?_) hcall⟩
      rw [show s.device.shared.session.cachedIdentity = _ from hidentity]
      exact Option.some_ne_none _
  | returned provider =>
      obtain ⟨hnone, hbuilt⟩ := hstage
      exact ⟨hprovider ▸ hnone, hbuilt.later hdevice.retains⟩
  | ended => trivial

theorem continues_refl (d : DevicePool) : Continues d d :=
  ⟨fun _ hd => ⟨hd, fun _ h => h⟩, fun _ _ _ h => h⟩

/-- **An adapter that was built of what memory has** agrees with the device. -/
theorem Built.coherent (hp : Built t p) (hagrees : KeypairAgrees P env t) :
    Coherent P env dh t p := by
  obtain ⟨hidentity, hpubkey, kp, hkp, hpublic⟩ := hp
  obtain ⟨row, kek, scalar, -, -, hown, rfl⟩ := hagrees.cached kp hkp
  have hpublicKey : (heldKeypair env row scalar).publicKey = row.publicKey := by
    unfold heldKeypair
    split <;> rfl
  refine ⟨⟨scalar, ?_, fun remotePub => dhX25519_held hkp⟩, p.identity, hpubkey, fun me => ?_⟩
  · rw [LocalIdentity.getX25519PublicKey, hpublic, hpublicKey, hown.publicKey]
  · unfold getOrCreateDeviceIdentity
    refine get_bind ?_
    simp only [hidentity]
    exact Co.Triple.value (anything_guarantee env).refl rfl

theorem Coordinated.coherent (hs : Coordinated P env s) {p : LocalIdentity}
    (hp : p ∈ s.handshakes) : Coherent P env dh s.tab p := by
  obtain ⟨base, flight, hdevice⟩ := hs.device
  exact (hs.handshakes p hp).2.coherent hdevice.agrees

/-! ## Moves -/

theorem DeviceIdle.not_underWay {d : DevicePool} (hd : DeviceIdle d) (kind : CallKind) : ¬ UnderWay kind d := by
  rintro ⟨i, a, k, hi, -⟩
  have hsettled := hd _ (List.mem_of_getElem? hi)
  cases hsettled

theorem DisciplinedRun.of_follows {ms : List ProcessMove} (h : follows P env dh s ms = true) :
    DisciplinedRun P env dh s ms := by
  induction ms generalizing s with
  | nil =>
      intro pre m post heq
      cases pre with
      | nil => cases heq
      | cons m₀ pre => cases heq
  | cons m ms ih =>
      rw [follows, Bool.and_eq_true, decide_eq_true_eq] at h
      intro pre m' post heq
      cases pre with
      | nil =>
          cases heq
          exact h.1
      | cons m₀ pre =>
          obtain ⟨rfl, hrest⟩ := List.cons.inj heq
          exact ih h.2 pre m' post hrest

theorem underWay_start {d : DevicePool} {a : DeviceCall} {kind : CallKind}
    (h : UnderWay kind (d.start (deviceCall P env dh) a)) : a.kind = kind ∨ UnderWay kind d := by
  obtain ⟨i, hi⟩ := h
  have htook := took_start P env dh d a
  by_cases hnew : d.calls.length = i
  · subst hnew
    exact Or.inl (htook.pending_kind hi)
  · exact Or.inr ⟨i, htook.pending_old hnew hi⟩

theorem underWay_resume {d : DevicePool} {i : ℕ} {r : PlatformReply} {kind : CallKind}
    (h : UnderWay kind (d.resume i r)) : UnderWay kind d := by
  rcases resume_cases d i r with hidle | ⟨a, k, hi, -⟩
  · rwa [hidle] at h
  · obtain ⟨j, hj⟩ := h
    have htook := took_resume hi r
    by_cases hij : i = j
    · subst hij
      exact htook.pending_kind hj ▸ UnderWay.of_pending hi
    · exact ⟨j, htook.pending_old hij hj⟩

/-- **A step of the package** keeps what the transport has, unless nothing is begun. -/
theorem Coordinated.device_step {d : DevicePool} (hs : Coordinated P env s)
    (hok : ∃ base flight, DeviceOk P env base flight d) (hcontinues : Unused s ∨ Continues s.device d)
    (hchange : UnderWay .change d → Unused s) : Coordinated P env { s with device := d } := by
  rcases hcontinues with hunused | hcontinues
  · refine ⟨hok, fun _ => hunused, fun h hh => ?_, fun p hp => ?_, fun p hp => ?_⟩
    · rw [hunused.1 h hh]
      trivial
    · rw [show s.localIdentityProvider = none from hunused.2] at hp
      cases hp
    · exact absurd hunused.2 (hs.handshakes p hp).1
  · refine ⟨hok, hchange, fun h hh => (hs.stages h hh).later rfl hcontinues,
      fun p hp => (hs.provider p hp).later hcontinues.retains, fun p hp => ?_⟩
    obtain ⟨hnone, hbuilt⟩ := hs.handshakes p hp
    exact ⟨hnone, hbuilt.later hcontinues.retains⟩

/-- **What the links and the mesh do** touches nothing of it. -/
theorem Coordinated.of_same (hs : Coordinated P env s) (hdevice : s'.device = s.device)
    (hstarts : s'.starts = s.starts)
    (hprovider : s'.localIdentityProvider = s.localIdentityProvider)
    (hhandshakes : s'.handshakes = s.handshakes) : Coordinated P env s' := by
  obtain ⟨device, localIdentityProvider, peerId, connectedDevices, cryptoStates, starts,
    handshakes⟩ := s
  obtain ⟨device', localIdentityProvider', peerId', connectedDevices', cryptoStates', starts',
    handshakes'⟩ := s'
  simp only at hdevice hstarts hprovider hhandshakes
  subst hdevice hstarts hprovider hhandshakes
  refine ⟨hs.device, hs.change, fun h hh => ?_, hs.provider, hs.handshakes⟩
  exact (hs.stages h hh).later rfl (continues_refl _)

/-- The start of a handshake is at another stage. -/
theorem Coordinated.set_stage {stage : Stage} (hs : Coordinated P env s)
    (hchange : ¬ UnderWay .change s.device) (hstage : StageOk s stage) :
    Coordinated P env (s.setStage w h stage) := by
  refine ⟨hs.device, fun h => absurd h hchange, fun h' hh => ?_, hs.provider, hs.handshakes⟩
  rcases List.mem_or_eq_of_mem_set hh with hold | rfl
  · exact (hs.stages h' hold).later rfl (continues_refl _)
  · exact hstage.later rfl (continues_refl _)

theorem Coordinated.begin_start {stage : Stage} (hs : Coordinated P env s)
    (hchange : ¬ UnderWay .change s.device) (deviceId : DeviceId) (responds : Bool)
    (hstage : StageOk s stage) :
    Coordinated P env { s with starts := s.starts ++ [⟨deviceId, responds, stage⟩] } := by
  refine ⟨hs.device, fun h => absurd h hchange, fun h hh => ?_, hs.provider, hs.handshakes⟩
  rcases List.mem_append.mp hh with hold | hnew
  · exact (hs.stages h hold).later rfl (continues_refl _)
  · rw [List.mem_singleton.mp hnew]
    exact hstage.later rfl (continues_refl _)

variable (dh) in
/-- A call for the identity. -/
theorem Coordinated.call_identity (hs : Coordinated P env s) (hworks : StorageWorks env)
    (hchange : ¬ UnderWay .change s.device) (me : Agent) :
    Coordinated P env (s.call P env dh (.getOrCreateDeviceIdentity me)) ∧
      ¬ UnderWay .change (s.call P env dh (.getOrCreateDeviceIdentity me)).device ∧
      StageOk (s.call P env dh (.getOrCreateDeviceIdentity me)) (.identity s.next) := by
  obtain ⟨base, flight, hdevice⟩ := hs.device
  obtain ⟨⟨flight', hok⟩, hcontinues, hanswers⟩ :=
    hdevice.start_identity dh hworks hchange me
  have hchange' : ¬ UnderWay .change (s.call P env dh (.getOrCreateDeviceIdentity me)).device := by
    intro h
    rcases underWay_start h with hkind | hold
    · cases hkind
    · exact hchange hold
  exact ⟨hs.device_step ⟨base, flight', hok⟩ (Or.inr hcontinues) fun h => absurd h hchange', hchange',
    me, hanswers⟩

variable (dh) in
/-- A call for the keypair, with an identity in memory. -/
theorem Coordinated.call_keypair {a : DeviceCall} (hs : Coordinated P env s) (laws : AesKwLaws P)
    (hkind : a.kind = .keypair) (hidentity : s.tab.session.cachedIdentity ≠ none)
    (halone : HasRow env s.tab.storage ∨ ¬ UnderWay .keypair s.device)
    (hchange : ¬ UnderWay .change s.device) :
    Coordinated P env (s.call P env dh a) ∧ ¬ UnderWay .change (s.call P env dh a).device ∧
      Continues s.device (s.call P env dh a).device ∧ Answers (s.call P env dh a).device s.next a := by
  obtain ⟨base, flight, hdevice⟩ := hs.device
  obtain ⟨hok, hcontinues, hanswers⟩ :=
    hdevice.start_keypair dh laws hkind hidentity halone hchange
  have hchange' : ¬ UnderWay .change (s.call P env dh a).device := by
    intro h
    rcases underWay_start h with hkind' | hold
    · rw [hkind] at hkind'
      cases hkind'
    · exact hchange hold
  exact ⟨hs.device_step ⟨base, flight, hok⟩ (Or.inr hcontinues) fun h => absurd h hchange', hchange',
    hcontinues, hanswers⟩

variable (dh) in
theorem Coordinated.call_change {a : DeviceCall} (hs : Coordinated P env s)
    (hkind : a.kind = .change) (halone : ∀ kind, ¬ UnderWay kind s.device) (hunused : Unused s) :
    Coordinated P env (s.call P env dh a) := by
  obtain ⟨base, flight, hdevice⟩ := hs.device
  obtain ⟨base', hok⟩ := hdevice.start_change dh hkind halone
  exact hs.device_step ⟨base', none, hok⟩ (Or.inl hunused) fun _ => hunused

theorem Coordinated.begin (hs : Coordinated P env s) (hworks : StorageWorks env)
    (hchange : ¬ UnderWay .change s.device) (deviceId : DeviceId) (responds : Bool) :
    Coordinated P env (s.begin P env dh deviceId responds) := by
  unfold Process.begin
  split
  · next p hprovider =>
      have hstage : StageOk s (.returned p) := by
        refine ⟨?_, hs.provider p hprovider⟩
        rw [hprovider]
        exact Option.some_ne_none p
      exact hs.begin_start hchange deviceId responds hstage
  · obtain ⟨hcall, hchange', hstage⟩ := hs.call_identity dh hworks hchange ⟨0, s.next⟩
    exact hcall.begin_start hchange' deviceId responds hstage

/-- A call that told its caller. -/
theorem result_told {call : ℕ} {a : DeviceCall} {x : Except IdentityError DeviceResult}
    (hanswers : Answers s.device call a) (hresult : s.result call = some x) : Told s.tab a x := by
  obtain ⟨st, hcall, hst⟩ := hanswers
  unfold Process.result at hresult
  rw [hcall] at hresult
  cases st with
  | pending k => cases hresult
  | settled y =>
      cases hresult
      exact hst x rfl

theorem Coordinated.construct (hs : Coordinated P env s) (hchange : ¬ UnderWay .change s.device)
    (hstage : StageOk s (.returned p)) : Coordinated P env (s.construct w h p) := by
  have hended : Coordinated P env (s.setStage w h .ended) := hs.set_stage hchange trivial
  unfold Process.construct
  split
  · refine ⟨hended.device, fun h => absurd h hchange, fun h' hh => ?_, hended.provider, fun q hq => ?_⟩
    · exact (hended.stages h' hh).later rfl (continues_refl _)
    · rcases List.mem_append.mp hq with hold | hnew
      · exact hended.handshakes q hold
      · rw [List.mem_singleton.mp hnew]
        exact hstage
  · exact hended

/-- **The start of a handshake goes on.** -/
theorem Coordinated.goOn (hs : Coordinated P env s) (laws : AesKwLaws P)
    (hw : s.starts[w]? = some h)
    (halone : ∀ call, h.stage = .identity call →
      HasRow env s.tab.storage ∨ ¬ UnderWay .keypair s.device) :
    Coordinated P env (s.goOn P env dh w h) := by
  have hstage := hs.stages h (List.mem_of_getElem? hw)
  have hchange : h.stage ≠ .ended → ¬ UnderWay .change s.device := fun hne hunder =>
    hne ((hs.change hunder).1 h (List.mem_of_getElem? hw))
  unfold Process.goOn
  cases hat : h.stage with
  | identity call =>
      rw [hat] at hstage hchange
      have hchange := hchange (by rintro ⟨⟩)
      obtain ⟨me, hanswers⟩ := hstage
      simp only
      split
      · next identity hresult =>
          have hidentity : s.tab.session.cachedIdentity = some identity :=
            result_told hanswers hresult
          have hsome : s.tab.session.cachedIdentity ≠ none := by
            rw [hidentity]
            exact Option.some_ne_none _
          split
          · next pubkeyBytes hpubkey =>
              obtain ⟨hcall, hchange', hcontinues, hnew⟩ :=
                hs.call_keypair dh (a := .getOrCreateX25519Keypair) laws rfl hsome
                  (halone call hat) hchange
              exact hcall.set_stage hchange'
                ⟨(hcontinues.retains identity hidentity).1, hpubkey, hnew⟩
          · exact hs.set_stage hchange trivial
      · exact hs.set_stage hchange trivial
      · exact hs
  | x25519Kp identity pubkeyBytes call =>
      rw [hat] at hstage hchange
      have hchange := hchange (by rintro ⟨⟩)
      obtain ⟨hidentity, hpubkey, hanswers⟩ := hstage
      simp only
      split
      · next x25519Kp hresult =>
          have hbuilt : Built s.tab ⟨identity, pubkeyBytes, x25519Kp.publicKey⟩ :=
            ⟨hidentity, hpubkey, x25519Kp, result_told hanswers hresult, rfl⟩
          refine ⟨hs.device, fun h => absurd h hchange, fun h' hh => ?_, ?_, fun q hq =>
            ⟨Option.some_ne_none _, (hs.handshakes q hq).2⟩⟩
          · rcases List.mem_or_eq_of_mem_set hh with hold | rfl
            · have hold' := hs.stages h' hold
              cases hat' : h'.stage with
              | identity call => rw [hat'] at hold'; exact hold'
              | x25519Kp identity pubkeyBytes call => rw [hat'] at hold'; exact hold'
              | returned q =>
                  rw [hat'] at hold'
                  exact ⟨Option.some_ne_none _, hold'.2⟩
              | ended => trivial
            · exact ⟨Option.some_ne_none _, hbuilt⟩
          · rintro q ⟨⟩
            exact hbuilt
      · exact hs.set_stage hchange trivial
      · exact hs
  | returned q =>
      rw [hat] at hstage hchange
      exact hs.construct (hchange (by rintro ⟨⟩)) hstage
  | ended => exact hs

/-- **A disciplined move.** -/
theorem Coordinated.step (hs : Coordinated P env s) (laws : AesKwLaws P) (hworks : StorageWorks env)
    (m : ProcessMove) (hm : Disciplined env s m) : Coordinated P env (s.step P env dh m) := by
  cases m with
  | getOrCreateDeviceIdentity => exact (hs.call_identity dh hworks hm ⟨0, s.next⟩).1
  | getOrCreateX25519Keypair =>
      obtain ⟨hidentity, halone, hchange⟩ := hm
      exact (hs.call_keypair dh laws rfl hidentity halone hchange).1
  | clearDeviceIdentity => exact hs.call_change dh rfl hm.1.not_underWay hm.2
  | replaceDeviceIdentity secret publicB64u =>
      exact hs.call_change dh rfl hm.1.not_underWay hm.2
  | dhX25519 remotePub =>
      simp only [Process.step]
      split
      · exact hs
      · next hne =>
          obtain ⟨p, hp⟩ := List.exists_mem_of_ne_nil _ hne
          obtain ⟨hnone, hidentity, -, kp, hkp, -⟩ := hs.handshakes p hp
          obtain ⟨base, flight, hdevice⟩ := hs.device
          refine (hs.call_keypair dh laws rfl ?_ (Or.inl (hdevice.agrees.cached kp hkp).hasRow) ?_).1
          · rw [hidentity]
            exact Option.some_ne_none _
          · exact fun hunder => hnone (hs.change hunder).2
  | resume i r =>
      obtain ⟨base, flight, hdevice⟩ := hs.device
      obtain ⟨hok, hcontinues⟩ := hdevice.resume i r
      exact hs.device_step hok (hcontinues.imp_left hs.change) fun h =>
        hs.change (underWay_resume h)
  | startMesh peerId => exact hs.of_same rfl rfl rfl rfl
  | disconnectAll => exact hs.of_same rfl rfl rfl rfl
  | stopMesh => exact hs.of_same rfl rfl rfl rfl
  | connected deviceId => exact hs.of_same rfl rfl rfl rfl
  | disconnected deviceId => exact hs.of_same rfl rfl rfl rfl
  | initiateHandshake deviceId => exact hs.begin hworks hm deviceId false
  | handshakeFrame deviceId =>
      simp only [Process.step]
      split
      · exact hs.begin hworks hm deviceId true
      · exact hs
  | goOn w =>
      simp only [Process.step]
      cases hw : s.starts[w]? with
      | none => exact hs
      | some h =>
          refine hs.goOn laws hw fun call hat => hm ?_
          obtain ⟨deviceId, responds, stage⟩ := h
          simp only at hat
          rw [wantsKeypair, hw, hat]

theorem Coordinated.exec {ms : List ProcessMove} (hs : Coordinated P env s) (laws : AesKwLaws P)
    (hworks : StorageWorks env) (hms : DisciplinedRun P env dh s ms) :
    Coordinated P env (s.exec P env dh ms) := by
  induction ms using List.reverseRecOn with
  | nil => exact hs
  | append_singleton ms m ih =>
      rw [Process.exec, List.foldl_append]
      refine (ih fun pre m' post heq => ?_).step laws hworks m (hms ms m [] rfl)
      apply hms pre m' (post ++ [m])
      rw [heq, List.append_assoc]
      rfl

/-- A page that was just loaded. -/
theorem loaded_coordinated {storage : Storage} (hrows : RowsOwn P storage) :
    Coordinated P env (Process.loaded storage) := by
  refine ⟨⟨0, none, ?_, ⟨hrows, ?_⟩, ?_, Nat.le_refl 0, rfl, ?_, ?_, ?_⟩, ?_, ?_, ?_, ?_⟩
  · rintro - c ⟨⟩
  · rintro kp ⟨⟩
  · rintro n d - ⟨⟩
  · rintro i n ⟨⟩
  · rintro i a k ⟨⟩
  · rintro - i j ⟨a, k, hi, -⟩
    cases hi
  · rintro ⟨i, a, k, hi, -⟩
    cases hi
  · rintro h ⟨⟩
  · rintro p ⟨⟩
  · rintro p ⟨⟩

end

/-- **Every handshake's adapter agrees with the device**, in every disciplined run of the
process, over storage that works. -/
theorem process_coherent {P : IdentityPrimitives} {env : Runtime}
    {dh : Bytes → Bytes → Except IdentityError Bytes} {storage : Storage} (laws : AesKwLaws P)
    (hworks : StorageWorks env) (hrows : RowsOwn P storage) (ms : List ProcessMove)
    (hms : DisciplinedRun P env dh (Process.loaded storage) ms) (p : LocalIdentity)
    (hp : p ∈ ((Process.loaded storage).exec P env dh ms).handshakes) :
    Coherent P env dh ((Process.loaded storage).exec P env dh ms).tab p :=
  ((loaded_coordinated hrows).exec laws hworks hms).coherent hp

/-- X25519 of the sample keys. -/
def sampleDh (scalar publicKey : Bytes) : Except IdentityError Bytes :=
  .ok (List.zipWith (· + ·) scalar publicKey)

/-- The first handshake of a new device. -/
def firstHandshake : List ProcessMove :=
  [.startMesh [1], .connected "a", .initiateHandshake "a"] ++
    List.replicate 29 (.resume 0 (sampleReply 1)) ++ .goOn 0 ::
    List.replicate 13 (.resume 1 (sampleReply 2)) ++ [.goOn 0, .goOn 0]

/-- The adapter of the first handshake. -/
def firstAdapter : LocalIdentity where
  identity := ⟨toBase64url (sampleKey 2).bytes, some (sampleKey 2).bytes, some (sampleKey 1).bytes,
    some (sampleKey 1).bytes⟩
  pubkeyBytes := (sampleKey 2).bytes
  x25519PublicKey := (sampleKey 3).bytes

theorem process_coherent_first :
    Coherent samplePrimitives (sampleRuntime true) sampleDh
      ((Process.loaded Storage.empty).exec samplePrimitives (sampleRuntime true) sampleDh
        firstHandshake).tab firstAdapter :=
  process_coherent samplePrimitives_laws ⟨⟨rfl, rfl⟩, ⟨rfl, rfl⟩⟩ (by rintro row ⟨⟩) firstHandshake
    (.of_follows (by decide +kernel)) firstAdapter (by decide +kernel)

/-- A device that is wiped afterwards goes on with the adapter, but not with its keys. -/
example : (((Process.loaded Storage.empty).exec samplePrimitives (sampleRuntime true) sampleDh
    (firstHandshake ++ .clearDeviceIdentity :: List.replicate 24 (.resume 2 (sampleReply 3)) ++
      [.connected "b", .initiateHandshake "b", .goOn 1])).handshakes.map
        LocalIdentity.x25519PublicKey) = [(sampleKey 3).bytes, (sampleKey 3).bytes] := by
  decide +kernel

end Oxpulse.Transport
