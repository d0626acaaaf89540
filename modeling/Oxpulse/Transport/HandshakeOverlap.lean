import Oxpulse.Crypto.NoiseRetry
import Oxpulse.Transport.HandshakeSegments

/-!
# Handshake frames that overlap

`handleIncomingChunk` starts one `advanceHandshake` for each handshake frame
and waits for none of them. Two calls that work on the handshake object at the
same time mix their messages into one symmetric state: a duplicate of msg-2
that arrives while the first copy is being decrypted spoils the handshake.

A run is serial when every frame that starts while a call is still working is
one that is refused on sight. `SerialInv` keeps the order in which the frames
could have been processed one after the other: the frames before the one that
is being worked on, that one, and the refused ones that came late.
-/

namespace Oxpulse.Transport

open Oxpulse.Coroutine Oxpulse.Crypto HandshakeView

abbrev AdvanceCall : Type := Call HandshakeFrame Unit HandshakeView JsError Unit
abbrev AdvancePool : Type := Pool HandshakeFrame Unit HandshakeView JsError Unit

/-! ## Frames that are refused on sight -/

/-- Refused now and at every later turn: too long, or past the last message
this role reads. -/
def RefusedFromNow (hs : NoiseXxHandshake) (payload : Bytes) : Prop :=
  payload.length > MAX_HANDSHAKE_MSG_BYTES + 256 ∨ hs.msgIdx = 3 ∨
    (hs.role = .initiator ∧ 2 ≤ hs.msgIdx.val)

/-- Refused now and at every earlier turn: a responder that has not sent msg-2
gets a frame that is too short for a msg-1. -/
def RefusedUntilNow (hs : NoiseXxHandshake) (payload : Bytes) : Prop :=
  hs.role = .responder ∧ hs.msgIdx.val ≤ 1 ∧ payload.length < 32 + MLKEM_PUBLIC_KEY_BYTES

theorem RefusedFromNow.later {hs hs' : NoiseXxHandshake} {payload : Bytes}
    (h : RefusedFromNow hs payload) (hrole : hs'.role = hs.role)
    (hidx : hs.msgIdx.val ≤ hs'.msgIdx.val) : RefusedOnSight hs' payload := by
  rcases h with hbig | hdone | ⟨hinit, hidx₂⟩
  · exact Or.inl hbig
  · right
    have hdone' : hs'.msgIdx = 3 := by
      rw [hdone] at hidx
      exact Fin.ext (le_antisymm (Nat.le_of_lt_succ hs'.msgIdx.isLt) hidx)
    rw [hdone']
    cases hs'.role <;> trivial
  · right
    rw [hrole, hinit]
    generalize hs'.msgIdx = idx at hidx
    match idx with
    | 0 => exact absurd (hidx₂.trans hidx) (by decide)
    | 1 => exact absurd (hidx₂.trans hidx) (by decide)
    | 2 => trivial
    | 3 => trivial

theorem RefusedUntilNow.earlier {hs hs₀ : NoiseXxHandshake} {payload : Bytes}
    (h : RefusedUntilNow hs payload) (hrole : hs.role = hs₀.role)
    (hidx : hs₀.msgIdx.val ≤ hs.msgIdx.val) : RefusedOnSight hs₀ payload := by
  obtain ⟨hresp, hidx₁, hlen⟩ := h
  right
  rw [← hrole, hresp]
  generalize hs₀.msgIdx = idx at hidx
  match idx with
  | 0 => exact hlen
  | 1 => trivial
  | 2 => exact absurd (hidx.trans hidx₁) (by decide)
  | 3 => exact absurd (hidx.trans hidx₁) (by decide)

section Refused

variable {P : Primitives} {deviceId : DeviceId} {f : HandshakeFrame}

/-- A refused frame leaves the object alone. -/
theorem advanceResult_refused {role : Role} {mtu : Option ℕ} {hs : NoiseXxHandshake}
    (h : RefusedOnSight hs f.payload) : advanceResult P f role mtu hs = (hs, false) := by
  obtain ⟨e, hthrow⟩ := readMessage_refused (P := P) f.readDraws h
  unfold advanceResult Co.run
  rw [hthrow]
  rfl

/-- A call for a refused frame only finishes. -/
theorem advanceHandshake_refused {v : HandshakeView} (h : RefusedOnSight v.hs f.payload) :
    Finishes P false v (advanceHandshake P deviceId f v) := by
  obtain ⟨e, hthrow⟩ := readMessage_refused (P := P) f.readDraws h
  rw [advanceHandshake_apply]
  show Finishes P false v
    (((((NoiseXxHandshake.readMessage P f.readDraws f.payload) v.cs.handshake).zoom _
      setHandshake v).later.attempt).bind (readTail P deviceId f))
  rw [show (NoiseXxHandshake.readMessage P f.readDraws f.payload : Co Unit _ _ _)
    v.cs.handshake = .throw v.hs e from hthrow]
  exact ⟨⟨rfl, rfl, rfl⟩, fun _ v' => readFailed_leaves e v'⟩

end Refused

/-! ## One frame after the other -/

section Sequential

variable (P : Primitives) (deviceId : DeviceId)

/-- Process the frames one after the other, each to its end. -/
def advanceAll (v : HandshakeView) (frames : List HandshakeFrame) : HandshakeView :=
  frames.foldl (fun v f => ((advanceHandshake P deviceId f).run () v).1) v

/-- The object and the keys after one frame. -/
def settle (site : Role × Option ℕ)
    (x : NoiseXxHandshake × Option RatchetSession × Option String) (f : HandshakeFrame) :
    NoiseXxHandshake × Option RatchetSession × Option String :=
  let result := advanceResult P f site.1 site.2 x.1
  (result.1, leaveKeys P result.2 site.1 result.1 x.2)

variable {P deviceId}

theorem advanceAll_settle (v : HandshakeView) (frames : List HandshakeFrame) :
    (advanceAll P deviceId v frames).site = v.site ∧
      ((advanceAll P deviceId v frames).hs, (advanceAll P deviceId v frames).keys) =
        frames.foldl (settle P v.site) (v.hs, v.keys) := by
  induction frames using List.reverseRecOn with
  | nil => exact ⟨rfl, rfl⟩
  | append_singleton frames f ih =>
      obtain ⟨hsite, hcore⟩ := ih
      unfold advanceAll at hsite hcore ⊢
      rw [List.foldl_concat, List.foldl_concat]
      generalize frames.foldl _ v = w at hsite hcore ⊢
      have hrun := (@advanceHandshake_works P deviceId f w).run
      obtain ⟨hsite', hhs, hkeys⟩ := hrun
      refine ⟨hsite'.trans hsite, ?_⟩
      have hrole : w.cs.role = v.cs.role := congrArg Prod.fst hsite
      have hmtu : w.mtu = v.mtu := congrArg Prod.snd hsite
      rw [← hcore]
      refine Prod.ext ?_ ?_
      · rw [hrole, hmtu] at hhs
        exact hhs
      · rw [hrole, hmtu] at hkeys
        exact hkeys

theorem settle_refused {site : Role × Option ℕ}
    {x : NoiseXxHandshake × Option RatchetSession × Option String} {f : HandshakeFrame}
    (h : RefusedOnSight x.1 f.payload) : settle P site x f = x := by
  unfold settle
  rw [advanceResult_refused h]
  rfl

theorem settle_refused_all {site : Role × Option ℕ}
    {x : NoiseXxHandshake × Option RatchetSession × Option String} {frames : List HandshakeFrame}
    (h : ∀ g ∈ frames, RefusedOnSight x.1 g.payload) : frames.foldl (settle P site) x = x := by
  induction frames with
  | nil => rfl
  | cons g frames ih =>
      rw [List.foldl_cons, settle_refused (h g List.mem_cons_self)]
      exact ih fun g' hg' => h g' (List.mem_cons_of_mem _ hg')

end Sequential

/-! ## Serial schedules -/

/-- From any state it is resumed in, the call only finishes. -/
def OnlyFinishes (P : Primitives) (derives : Bool)
    (k : Unit → HandshakeView → AdvanceOutcome) : Prop :=
  ∀ r v, Finishes P derives v (k r v)

/-- A msg-3 by its place, labelled as a msg-1, that authenticates. -/
def Mislabelled (P : Primitives) (hs : NoiseXxHandshake) (f : HandshakeFrame) : Prop :=
  hs.role = .responder ∧ hs.msgIdx = 2 ∧ f.frameType = FrameType.HandshakeMsg1 ∧
    opened P hs.state (f.payload.take NoiseXxHandshake.S_CT_BYTES) ≠ none

/-- The frame may start: it is refused on sight wherever it stands in the order,
or no other call in flight has work left on the handshake object. Such a call
may still derive the keys at its end, on the responder; a mislabelled msg-3,
which does not derive them, must not start beside it. -/
def MayStart (P : Primitives) (p : AdvancePool) (f : HandshakeFrame) : Prop :=
  RefusedFromNow p.shared.hs f.payload ∨ RefusedUntilNow p.shared.hs f.payload ∨
  (∀ c ∈ p.calls, ∀ k, c.status = .pending k →
    ¬ Mislabelled P p.shared.hs f ∧
      ∃ derives, (p.shared.cs.role = .initiator → derives = false) ∧ OnlyFinishes P derives k)

/-- The schedule, played from this view. -/
def advanceRun (P : Primitives) (deviceId : DeviceId) (v : HandshakeView)
    (ms : List (Move HandshakeFrame Unit)) : AdvancePool :=
  (Pool.fresh v).exec (advanceHandshake P deviceId) ms

/-- Every frame that starts may start. -/
def Serial (P : Primitives) (deviceId : DeviceId) (v : HandshakeView)
    (ms : List (Move HandshakeFrame Unit)) : Prop :=
  ∀ pre f post, ms = pre ++ .start f :: post → MayStart P (advanceRun P deviceId v pre) f

section Invariant

variable {P : Primitives} {deviceId : DeviceId} {v₀ : HandshakeView} {p : AdvancePool}
  {done late : List HandshakeFrame} {f g : HandshakeFrame} {i : ℕ}

/-- The object and the keys after these frames, one after the other. -/
def settled (P : Primitives) (v₀ : HandshakeView) (done : List HandshakeFrame) :
    NoiseXxHandshake × Option RatchetSession × Option String :=
  done.foldl (settle P v₀.site) (v₀.hs, v₀.keys)

/-- Where the call for `f` takes the object after `done`. -/
def target (P : Primitives) (v₀ : HandshakeView) (done : List HandshakeFrame)
    (f : HandshakeFrame) : NoiseXxHandshake × Bool :=
  advanceResult P f v₀.cs.role v₀.mtu (settled P v₀ done).1

/-- Nobody works on the object: it is as the frames leave it one after the
other. -/
structure Idle (P : Primitives) (v₀ : HandshakeView) (p : AdvancePool)
    (done : List HandshakeFrame) : Prop where
  site : p.shared.site = v₀.site
  role : p.shared.hs.role = v₀.cs.role
  hs : p.shared.hs = (settled P v₀ done).1
  keys : p.shared.keys = (settled P v₀ done).2
  finish : ∀ c ∈ p.calls, ∀ k, c.status = .pending k → ∃ derives, OnlyFinishes P derives k
  /-- What the pending calls may derive is there already. -/
  quiet : deriveKeys P v₀.cs.role p.shared.hs p.shared.keys = p.shared.keys ∨
    ∀ c ∈ p.calls, ∀ k, c.status = .pending k → OnlyFinishes P false k
  perm : done.Perm (p.calls.map Call.arg)

/-- Call `i` works on the object. -/
structure Busy (P : Primitives) (v₀ : HandshakeView) (p : AdvancePool)
    (done : List HandshakeFrame) (i : ℕ) (f : HandshakeFrame) (late : List HandshakeFrame) :
    Prop where
  site : p.shared.site = v₀.site
  role : p.shared.hs.role = v₀.cs.role
  call : ∃ k, p.calls[i]? = some ⟨f, .pending k⟩ ∧
    ∀ r v, v.site = v₀.site → v.hs = p.shared.hs →
      Works P (settled P v₀ done).1 (target P v₀ done f).1 (target P v₀ done f).2 v (k r v)
  between : Between (settled P v₀ done).1 p.shared.hs (target P v₀ done f).1
  finish : ∀ j c k, j ≠ i → p.calls[j]? = some c → c.status = .pending k →
    ∃ derives, OnlyFinishes P derives k
  /-- The other calls derive nothing that this one does not. -/
  quiet : (target P v₀ done f).2 = true ∨ (target P v₀ done f).1.isComplete = false ∨
    ∀ j c k, j ≠ i → p.calls[j]? = some c → c.status = .pending k → OnlyFinishes P false k
  keys : p.shared.keys = (settled P v₀ done).2 ∨
    ((target P v₀ done f).2 = true ∧
      p.shared.keys =
        deriveKeys P v₀.cs.role (target P v₀ done f).1 (settled P v₀ done).2)
  refused : ∀ g ∈ late, RefusedOnSight (target P v₀ done f).1 g.payload
  perm : (done ++ f :: late).Perm (p.calls.map Call.arg)

/-- Some order of the started frames explains the pool. -/
inductive SerialInv (P : Primitives) (v₀ : HandshakeView) (p : AdvancePool) : Prop where
  | idle {done : List HandshakeFrame} (h : Idle P v₀ p done)
  | busy {done late : List HandshakeFrame} {i : ℕ} {f : HandshakeFrame}
      (h : Busy P v₀ p done i f late)

theorem settled_concat_refused (h : RefusedOnSight (settled P v₀ done).1 g.payload) :
    settled P v₀ (done ++ [g]) = settled P v₀ done := by
  unfold settled at h ⊢
  rw [List.foldl_concat]
  exact settle_refused h

theorem settled_concat :
    settled P v₀ (done ++ [f]) = ((target P v₀ done f).1,
      leaveKeys P (target P v₀ done f).2 v₀.cs.role (target P v₀ done f).1
        (settled P v₀ done).2) := by
  unfold target settled
  rw [List.foldl_concat]
  rfl

theorem settled_late (hlate : ∀ g ∈ late, RefusedOnSight (target P v₀ done f).1 g.payload) :
    settled P v₀ (done ++ f :: late) = settled P v₀ (done ++ [f]) := by
  have hcut : done ++ f :: late = (done ++ [f]) ++ late := by simp
  rw [hcut]
  unfold settled at *
  rw [List.foldl_append]
  refine settle_refused_all ?_
  have htarget : (List.foldl (settle P v₀.site) (v₀.hs, v₀.keys) (done ++ [f])).1 =
      (target P v₀ done f).1 := congrArg Prod.fst settled_concat
  rw [htarget]
  exact hlate

/-! ### One segment -/

/-- A segment of a call that only finishes. -/
theorem Finishes.segment {b : Bool} : ∀ {o : AdvanceOutcome} {v : HandshakeView},
    Finishes P b v o →
      o.state.site = v.site ∧ o.state.hs = v.hs ∧
        (o.state.keys = v.keys ∨ o.state.keys = leaveKeys P b v.cs.role v.hs v.keys) ∧
        ∀ k, o.status = .pending k → OnlyFinishes P b k
  | .ret _ _, _, h => ⟨h.site, h.hs, Or.inr h.keys, fun _ hk => by cases hk⟩
  | .throw _ _, _, h => ⟨h.site, h.hs, Or.inr h.keys, fun _ hk => by cases hk⟩
  | .await _ _, _, ⟨h, hk⟩ =>
      ⟨h.site, h.hs, Or.inl h.keys, fun _ heq => by cases heq; exact hk⟩

/-- A segment of a call that works: it ends at the target, or goes on working. -/
theorem Works.segment {hs₀ hs' : NoiseXxHandshake} {b : Bool} :
    ∀ {o : AdvanceOutcome} {v : HandshakeView}, Works P hs₀ hs' b v o →
      o.state.site = v.site ∧
      ((∃ r, o.status = .settled r ∧ o.state.hs = hs' ∧
          o.state.keys = leaveKeys P b v.cs.role hs' v.keys) ∨
        (∃ k, o.status = .pending k ∧ o.state.keys = v.keys ∧ Between hs₀ o.state.hs hs' ∧
          ∀ r w, w.site = v.site → w.hs = o.state.hs → Works P hs₀ hs' b w (k r w)))
  | .ret _ _, _, ⟨hsite, hhs, hkeys⟩ => ⟨hsite, Or.inl ⟨_, rfl, hhs, hkeys⟩⟩
  | .throw _ _, _, ⟨hsite, hhs, hkeys⟩ => ⟨hsite, Or.inl ⟨_, rfl, hhs, hkeys⟩⟩
  | .await _ k, _, ⟨hsite, hkeys, hb, hk⟩ =>
      ⟨hsite, Or.inr ⟨k, rfl, hkeys, hb, fun r w hw hhs => hk r w (hw.trans hsite.symm) hhs⟩⟩

/-! ### Moves while nobody works -/

theorem Idle.resume (h : Idle P v₀ p done) (j : ℕ) : Idle P v₀ (p.resume j ()) done := by
  rcases Pool.resume_cases p j () with hsame | ⟨a, k, hj, hstep⟩
  · rw [hsame]
    exact h
  have hmem : (⟨a, .pending k⟩ : AdvanceCall) ∈ p.calls :=
    List.mem_of_getElem? hj
  have hrole : p.shared.cs.role = v₀.cs.role := congrArg Prod.fst h.site
  -- whatever the call derives is there already
  have hkeys : (k () p.shared).state.keys = p.shared.keys := by
    rcases h.quiet with hquiet | hquiet
    · obtain ⟨b, hb⟩ := h.finish _ hmem k rfl
      rcases (hb () p.shared).segment.2.2.1 with hsame | hleave
      · exact hsame
      · rw [hleave, hrole]
        cases b with
        | false => rfl
        | true => exact hquiet
    · rcases (hquiet _ hmem k rfl () p.shared).segment.2.2.1 with hsame | hleave
      · exact hsame
      · exact hleave
  obtain ⟨b, hb⟩ := h.finish _ hmem k rfl
  obtain ⟨hsite', hhs', -, hpend⟩ := (hb () p.shared).segment
  rw [hstep]
  refine ⟨hsite'.trans h.site, ?_, hhs'.trans h.hs, hkeys.trans h.keys, ?_, ?_, ?_⟩
  · exact (congrArg _ hhs').trans h.role
  · intro c hc k' hk'
    rcases List.mem_or_eq_of_mem_set hc with hc | rfl
    · exact h.finish c hc k' hk'
    · exact ⟨b, hpend k' hk'⟩
  · show deriveKeys P v₀.cs.role (k () p.shared).state.hs (k () p.shared).state.keys =
      (k () p.shared).state.keys ∨ _
    rw [hhs', hkeys]
    rcases h.quiet with hquiet | hquiet
    · exact Or.inl hquiet
    · right
      intro c hc k' hk'
      rcases List.mem_or_eq_of_mem_set hc with hc | rfl
      · exact hquiet c hc k' hk'
      · exact (hquiet _ hmem k rfl () p.shared).segment.2.2.2 k' hk'
  · show done.Perm ((p.calls.set j _).map Call.arg)
    rw [Pool.map_arg_set hj]
    exact h.perm

/-- A frame that is refused on sight can stand last. -/
theorem Idle.start_refused (h : Idle P v₀ p done) (hg : RefusedOnSight p.shared.hs g.payload) :
    Idle P v₀ (p.start (advanceHandshake P deviceId) g) (done ++ [g]) := by
  have hfin := @advanceHandshake_refused P deviceId g _ hg
  obtain ⟨hsite', hhs', hkeys', hpend⟩ := hfin.segment
  have hkeys : ((advanceHandshake P deviceId g) p.shared).state.keys = p.shared.keys := by
    rcases hkeys' with hsame | hleave
    · exact hsame
    · exact hleave
  have hsettled : settled P v₀ (done ++ [g]) = settled P v₀ done := by
    apply settled_concat_refused
    rw [← h.hs]
    exact hg
  refine ⟨hsite'.trans h.site, (congrArg _ hhs').trans h.role, ?_, ?_, ?_, ?_, ?_⟩
  · rw [hsettled]
    exact hhs'.trans h.hs
  · rw [hsettled]
    exact hkeys.trans h.keys
  · intro c hc k hk
    rcases List.mem_append.mp hc with hc | hc
    · exact h.finish c hc k hk
    · rw [List.mem_singleton.mp hc] at hk
      exact ⟨false, hpend k hk⟩
  · show deriveKeys P v₀.cs.role ((advanceHandshake P deviceId g) p.shared).state.hs
      ((advanceHandshake P deviceId g) p.shared).state.keys = _ ∨ _
    rw [hhs', hkeys]
    rcases h.quiet with hquiet | hquiet
    · exact Or.inl (hquiet.trans hkeys.symm)
    · right
      intro c hc k hk
      rcases List.mem_append.mp hc with hc | hc
      · exact hquiet c hc k hk
      · rw [List.mem_singleton.mp hc] at hk
        exact hpend k hk
  · show (done ++ [g]).Perm ((p.calls ++ [_]).map Call.arg)
    rw [List.map_append]
    exact h.perm.append_right _

/-- A msg-3 whose static key does not open is not read. -/
theorem readMessage_unopened {hs : NoiseXxHandshake} (draws : NoiseDraws) {payload : Bytes}
    (hrole : hs.role = .responder) (hidx : hs.msgIdx = 2)
    (hopen : opened P hs.state (payload.take NoiseXxHandshake.S_CT_BYTES) = none) :
    ∃ e, ((NoiseXxHandshake.readMessage P draws payload : Co Unit _ _ _).run () hs).2 =
      .error e := by
  rw [NoiseXxHandshake.readMessage_run]
  split
  · exact ⟨_, rfl⟩
  have hturn : (NoiseXxHandshake.readTurn P draws payload hs : Co Unit _ _ _) =
      NoiseXxHandshake.readMsg3 P payload := by
    unfold NoiseXxHandshake.readTurn
    rw [hrole, hidx]
    rfl
  rw [hturn]
  cases he : hs.eSecret with
  | none =>
      unfold NoiseXxHandshake.readMsg3
      simp only [Co.run_bind, Co.run_get, he, Co.run_orThrow]
      exact ⟨_, rfl⟩
  | some eSecret =>
      rw [NoiseXxHandshake.readMsg3_run _ _ he]
      simp only [hopen]
      exact ⟨_, rfl⟩

/-- What completes the handshake on the responder is a msg-3, and unless it is
mislabelled the call goes on to derive the keys. -/
theorem advanceResult_responder (mtu : Option ℕ) {hs : NoiseXxHandshake}
    (hrole : hs.role = .responder) (hsight : ¬ RefusedOnSight hs g.payload)
    (hlabel : ¬ Mislabelled P hs g) :
    (advanceResult P g .responder mtu hs).2 = true ∨
      (advanceResult P g .responder mtu hs).1.isComplete = false := by
  have hm : NoiseXxHandshake.IsMessage
      (NoiseXxHandshake.readMessage P g.readDraws g.payload) :=
    NoiseXxHandshake.readMessage_isMessage _ _
  have hle := hm.run_le hs
  have herror : ∀ e, ((NoiseXxHandshake.readMessage P g.readDraws g.payload :
      Co Unit _ _ _).run () hs).2 = .error e → _ := fun e => hm.run_error (e := e)
  have hincomplete : ∀ {h : NoiseXxHandshake}, h.msgIdx.val ≤ 2 → h.isComplete = false := by
    intro h hidx
    apply beq_eq_false_iff_ne.mpr
    intro hdone
    rw [hdone] at hidx
    exact absurd hidx (by decide)
  have hcase : hs.msgIdx = 0 ∨ hs.msgIdx = 2 := by
    by_contra hne
    apply hsight
    right
    rw [hrole]
    generalize hs.msgIdx = idx at hne
    match idx with
    | 0 => exact absurd (Or.inl rfl) hne
    | 1 => trivial
    | 2 => exact absurd (Or.inr rfl) hne
    | 3 => trivial
  rcases hcase with hidx | hidx
  · -- a msg-1: at most one more message is written
    right
    apply hincomplete
    have hafter := afterReadResult_le (P := P) (f := g) .responder mtu
      ((NoiseXxHandshake.readMessage P g.readDraws g.payload : Co Unit _ _ _).run () hs)
    rw [hidx] at hle
    exact hafter.trans (Nat.succ_le_succ hle)
  · unfold advanceResult
    cases hres : ((NoiseXxHandshake.readMessage P g.readDraws g.payload :
        Co Unit _ _ _).run () hs) with
    | mk hs' res =>
        cases res with
        | error e =>
            right
            apply hincomplete
            have hstay := herror e (by rw [hres])
            rw [hres] at hstay
            show hs'.msgIdx.val ≤ 2
            rw [show hs'.msgIdx = hs.msgIdx from hstay, hidx]
            decide
        | ok payload =>
            left
            have htype : g.frameType ≠ FrameType.HandshakeMsg1 := by
              intro htype
              apply hlabel
              refine ⟨hrole, hidx, htype, fun hopen => ?_⟩
              obtain ⟨e, he⟩ := readMessage_unopened g.readDraws hrole hidx hopen
              rw [hres] at he
              cases he
            unfold afterReadResult
            dsimp only
            rw [if_neg (fun hc => htype hc.1), if_neg (fun hc => by cases hc.2)]

/-- When the frame passes the guard, the call derives the keys if it completes
the handshake, or no other call will. -/
theorem target_quiet (h : Idle P v₀ p done) (hg : ¬ RefusedOnSight p.shared.hs g.payload)
    (hmay : ∀ c ∈ p.calls, ∀ k, c.status = .pending k →
      ¬ Mislabelled P p.shared.hs g ∧
        ∃ b, (p.shared.cs.role = .initiator → b = false) ∧ OnlyFinishes P b k) :
    (target P v₀ done g).2 = true ∨ (target P v₀ done g).1.isComplete = false ∨
      ∀ c ∈ p.calls, ∀ k, c.status = .pending k → OnlyFinishes P false k := by
  have hrole : p.shared.cs.role = v₀.cs.role := congrArg Prod.fst h.site
  by_cases hsome : ∃ c ∈ p.calls, ∃ k, c.status = .pending k
  · obtain ⟨c, hc, k, hk⟩ := hsome
    unfold target
    rw [← h.hs]
    cases hside : v₀.cs.role with
    | initiator =>
        right
        right
        intro c' hc' k' hk'
        obtain ⟨-, b, hb, hfin⟩ := hmay c' hc' k' hk'
        rw [← hb (hrole.trans hside)]
        exact hfin
    | responder =>
        have hresp := advanceResult_responder (P := P) v₀.mtu
          (h.role.trans hside) hg (hmay c hc k hk).1
        exact hresp.imp id Or.inl
  · right
    right
    exact fun c hc k hk => absurd ⟨c, hc, k, hk⟩ hsome

/-- The call that works settles: its frame and the late ones come next. -/
theorem settle_idle {q : AdvancePool} {b : Bool} {h' : NoiseXxHandshake}
    (htarget : target P v₀ done f = (h', b)) (hsite : q.shared.site = v₀.site)
    (hrole : q.shared.hs.role = v₀.cs.role) (hhs : q.shared.hs = h')
    (hkeys : q.shared.keys = leaveKeys P b v₀.cs.role h' (settled P v₀ done).2)
    (hrefused : ∀ g ∈ late, RefusedOnSight h' g.payload)
    (hfinish : ∀ c ∈ q.calls, ∀ k, c.status = .pending k → ∃ derives, OnlyFinishes P derives k)
    (hquiet : b = true ∨ h'.isComplete = false ∨
      ∀ c ∈ q.calls, ∀ k, c.status = .pending k → OnlyFinishes P false k)
    (hperm : (done ++ f :: late).Perm (q.calls.map Call.arg)) :
    Idle P v₀ q (done ++ f :: late) := by
  have hsettled : settled P v₀ (done ++ f :: late) =
      (h', leaveKeys P b v₀.cs.role h' (settled P v₀ done).2) := by
    have hlate := @settled_late P v₀ done late f
    rw [htarget] at hlate
    rw [hlate hrefused, settled_concat, htarget]
  refine ⟨hsite, hrole, by rw [hsettled]; exact hhs, by rw [hsettled]; exact hkeys, hfinish,
    ?_, hperm⟩
  rw [hhs, hkeys]
  rcases hquiet with rfl | hinc | hnone
  · exact Or.inl (deriveKeys_idem _ _ _ _)
  · exact Or.inl (deriveKeys_of_incomplete hinc _)
  · exact Or.inr hnone

/-- **A frame starts to be worked on.** -/
theorem Idle.start_works (h : Idle P v₀ p done)
    (hquiet : (target P v₀ done g).2 = true ∨ (target P v₀ done g).1.isComplete = false ∨
      ∀ c ∈ p.calls, ∀ k, c.status = .pending k → OnlyFinishes P false k) :
    SerialInv P v₀ (p.start (advanceHandshake P deviceId) g) := by
  have hrole : p.shared.cs.role = v₀.cs.role := congrArg Prod.fst h.site
  have hmtu : p.shared.mtu = v₀.mtu := congrArg Prod.snd h.site
  have hworks := @advanceHandshake_works P deviceId g p.shared
  have htarget : advanceResult P g p.shared.cs.role p.shared.mtu p.shared.hs =
      target P v₀ done g := by
    unfold target
    rw [hrole, hmtu, h.hs]
  rw [htarget] at hworks
  obtain ⟨hsite', hcase⟩ := hworks.segment
  rcases hcase with ⟨r, hst, hhs', hkeys'⟩ | ⟨k, hst, hkeys', hb, hk⟩
  · have hmem : ∀ c ∈ (p.start (advanceHandshake P deviceId) g).calls, ∀ k,
        c.status = .pending k → c ∈ p.calls := by
      intro c hc k hk
      rcases List.mem_append.mp hc with hc | hc
      · exact hc
      · rw [List.mem_singleton.mp hc] at hk
        exact absurd (hst.symm.trans hk) (by simp)
    rw [hrole, h.keys] at hkeys'
    have hpair : target P v₀ done g = ((target P v₀ done g).1, (target P v₀ done g).2) := rfl
    refine SerialInv.idle (settle_idle hpair (hsite'.trans h.site) ?_ hhs' hkeys'
      (fun g' (hg' : g' ∈ []) => absurd hg' List.not_mem_nil) ?_ ?_ ?_)
    · show ((advanceHandshake P deviceId g) p.shared).state.hs.role = _
      rw [hhs']
      exact (advanceResult_role _ _ _ _).trans ((congrArg _ h.hs.symm).trans h.role)
    · exact fun c hc k hk => h.finish c (hmem c hc k hk) k hk
    · exact hquiet.imp id (Or.imp id fun hnone c hc k hk => hnone c (hmem c hc k hk) k hk)
    · show (done ++ [g]).Perm ((p.calls ++ [_]).map Call.arg)
      rw [List.map_append]
      exact h.perm.append_right _
  · have hother : ∀ j c k', j ≠ p.calls.length →
        (p.start (advanceHandshake P deviceId) g).calls[j]? = some c →
        c.status = .pending k' → c ∈ p.calls := by
      intro j c k' hne hj _
      rcases List.mem_append.mp (List.mem_of_getElem? hj) with hc | hc
      · exact hc
      · have hlt : j < (p.calls ++ [_]).length := (List.getElem?_eq_some_iff.mp hj).1
        rw [List.length_append, List.length_singleton] at hlt
        have hin : j < p.calls.length := lt_of_le_of_ne (Nat.le_of_lt_succ hlt) hne
        have hj' : p.calls[j]? = some c := by
          rw [← hj]
          exact (List.getElem?_append_left hin).symm
        exact List.mem_of_getElem? hj'
    rw [h.hs] at hb
    refine @SerialInv.busy P v₀ _ done [] p.calls.length g ⟨hsite'.trans h.site, ?_,
      ⟨k, ?_, ?_⟩, hb, ?_, ?_, Or.inl ?_, fun g hg => absurd hg List.not_mem_nil, ?_⟩
    · show ((advanceHandshake P deviceId g) p.shared).state.hs.role = _
      rw [hb.role₀, ← h.hs]
      exact h.role
    · show (p.calls ++ [_])[p.calls.length]? = _
      rw [List.getElem?_concat_length, hst]
    · intro r v hv hvhs
      rw [← h.hs]
      exact hk r v (hv.trans h.site.symm) hvhs
    · exact fun j c k' hne hj hk' => h.finish c (hother j c k' hne hj hk') k' hk'
    · exact hquiet.imp id (Or.imp id fun hnone j c k' hne hj hk' =>
        hnone c (hother j c k' hne hj hk') k' hk')
    · exact hkeys'.trans h.keys
    · show (done ++ [g]).Perm ((p.calls ++ [_]).map Call.arg)
      rw [List.map_append]
      exact h.perm.append_right _

/-! ### Moves while a call works -/

theorem Busy.settledKeys (h : Busy P v₀ p done i f late) :
    leaveKeys P (target P v₀ done f).2 v₀.cs.role (target P v₀ done f).1 p.shared.keys =
      leaveKeys P (target P v₀ done f).2 v₀.cs.role (target P v₀ done f).1
        (settled P v₀ done).2 := by
  rcases h.keys with hkeys | ⟨hderives, hkeys⟩
  · rw [hkeys]
  · rw [hkeys, hderives]
    exact deriveKeys_idem _ _ _ _

/-- The call that works goes on, or settles. -/
theorem Busy.resume_self (h : Busy P v₀ p done i f late) :
    SerialInv P v₀ (p.resume i ()) := by
  obtain ⟨k, hi, hk⟩ := h.call
  have hrole : p.shared.cs.role = v₀.cs.role := congrArg Prod.fst h.site
  have hlt : i < p.calls.length := (List.getElem?_eq_some_iff.mp hi).1
  obtain ⟨hsite', hcase⟩ := (hk () p.shared h.site rfl).segment
  have hargs : ∀ st, (p.calls.set i ⟨f, st⟩).map Call.arg = p.calls.map Call.arg :=
    fun st => Pool.map_arg_set hi
  have hother : ∀ {st : Status Unit HandshakeView JsError Unit} {j : ℕ}, j ≠ i →
      (p.calls.set i ⟨f, st⟩)[j]? = p.calls[j]? :=
    fun hne => List.getElem?_set_ne hne.symm
  rw [Pool.resume_of_pending hi]
  rcases hcase with ⟨r, hst, hhs', hkeys'⟩ | ⟨k', hst, hkeys', hb, hk'⟩
  · rw [hst]
    have hindex : ∀ c ∈ p.calls.set i ⟨f, .settled r⟩, ∀ k, c.status = .pending k →
        ∃ j, j ≠ i ∧ p.calls[j]? = some c := by
      intro c hc k hk
      obtain ⟨j, hj⟩ := List.mem_iff_getElem?.mp hc
      have hne : j ≠ i := by
        rintro rfl
        rw [List.getElem?_set_self hlt] at hj
        cases hj
        cases hk
      exact ⟨j, hne, (hother hne).symm.trans hj⟩
    have hpair : target P v₀ done f = ((target P v₀ done f).1, (target P v₀ done f).2) := rfl
    refine SerialInv.idle (settle_idle hpair (hsite'.trans h.site) ?_ hhs' ?_ h.refused ?_ ?_ ?_)
    · show (k () p.shared).state.hs.role = _
      rw [hhs']
      exact h.between.role'.trans h.role
    · rw [hrole, h.settledKeys] at hkeys'
      exact hkeys'
    · intro c hc k hk
      obtain ⟨j, hne, hj⟩ := hindex c hc k hk
      exact h.finish j c k hne hj hk
    · refine h.quiet.imp id (Or.imp id fun hnone c hc k hk => ?_)
      obtain ⟨j, hne, hj⟩ := hindex c hc k hk
      exact hnone j c k hne hj hk
    · show (done ++ f :: late).Perm ((p.calls.set i _).map Call.arg)
      rw [hargs]
      exact h.perm
  · rw [hst]
    refine @SerialInv.busy P v₀ _ done late i f ⟨hsite'.trans h.site, ?_, ⟨k', ?_, ?_⟩, hb, ?_, ?_,
      ?_, h.refused, ?_⟩
    · exact (hb.role₀.trans h.between.role₀.symm).trans h.role
    · exact List.getElem?_set_self hlt
    · exact fun r v hv hvhs => hk' r v (hv.trans h.site.symm) hvhs
    · exact fun j c k hne hj hk => h.finish j c k hne ((hother hne).symm.trans hj) hk
    · exact h.quiet.imp id (Or.imp id fun hnone j c k hne hj hk =>
        hnone j c k hne ((hother hne).symm.trans hj) hk)
    · show (k () p.shared).state.keys = _ ∨ _
      rw [hkeys']
      exact h.keys
    · show (done ++ f :: late).Perm ((p.calls.set i _).map Call.arg)
      rw [hargs]
      exact h.perm

/-- Another call finishes beside it. -/
theorem Busy.resume_other (h : Busy P v₀ p done i f late) {j : ℕ} (hne : j ≠ i) :
    Busy P v₀ (p.resume j ()) done i f late := by
  rcases Pool.resume_cases p j () with hsame | ⟨a, k, hj, hstep⟩
  · rw [hsame]
    exact h
  obtain ⟨b, hb⟩ := h.finish j _ k hne hj rfl
  obtain ⟨kf, hi, hkf⟩ := h.call
  obtain ⟨hsite', hhs', hkeys', hpend⟩ := (hb () p.shared).segment
  have hlt : j < p.calls.length := (List.getElem?_eq_some_iff.mp hj).1
  have hrole : p.shared.cs.role = v₀.cs.role := congrArg Prod.fst h.site
  have hget : ∀ {st : Status Unit HandshakeView JsError Unit} {l : ℕ}, l ≠ j →
      (p.calls.set j ⟨a, st⟩)[l]? = p.calls[l]? :=
    fun hl => List.getElem?_set_ne hl.symm
  -- what it derives, the call that works derives too
  have hkeys : (k () p.shared).state.keys = (settled P v₀ done).2 ∨
      ((target P v₀ done f).2 = true ∧ (k () p.shared).state.keys =
        deriveKeys P v₀.cs.role (target P v₀ done f).1 (settled P v₀ done).2) := by
    have hsame : (k () p.shared).state.keys = p.shared.keys ∨
        ((target P v₀ done f).2 = true ∧ (k () p.shared).state.keys =
          deriveKeys P v₀.cs.role (target P v₀ done f).1 p.shared.keys) := by
      rcases hkeys' with hsame | hleave
      · exact Or.inl hsame
      rw [hrole] at hleave
      cases hdone : p.shared.hs.isComplete with
      | false =>
          left
          rw [hleave]
          cases b with
          | false => rfl
          | true => exact deriveKeys_of_incomplete hdone _
      | true =>
          have hat : p.shared.hs = (target P v₀ done f).1 := h.between.done (beq_iff_eq.mp hdone)
          rcases h.quiet with hderives | hinc | hnone
          · cases b with
            | false => exact Or.inl hleave
            | true =>
                refine Or.inr ⟨hderives, ?_⟩
                rw [← hat]
                exact hleave
          · rw [← hat, hdone] at hinc
            cases hinc
          · left
            rcases (hnone j _ k hne hj rfl () p.shared).segment.2.2.1 with hs | hs
            · exact hs
            · exact hs
    rcases hsame with hsame | ⟨hderives, hsame⟩
    · rw [hsame]
      exact h.keys
    · refine Or.inr ⟨hderives, ?_⟩
      rw [hsame]
      rcases h.keys with hkeys | ⟨-, hkeys⟩
      · rw [hkeys]
      · rw [hkeys]
        exact deriveKeys_idem _ _ _ _
  rw [hstep]
  refine ⟨hsite'.trans h.site, (congrArg _ hhs').trans h.role, ⟨kf, ?_, ?_⟩, ?_, ?_, ?_, hkeys,
    h.refused, ?_⟩
  · exact (hget hne.symm).trans hi
  · exact fun r v hv hvhs => hkf r v hv (hvhs.trans hhs')
  · show Between _ (k () p.shared).state.hs _
    rw [hhs']
    exact h.between
  · intro l c k' hl hc hk'
    by_cases hlj : l = j
    · subst hlj
      rw [show (p.calls.set l _)[l]? = _ from List.getElem?_set_self hlt] at hc
      cases hc
      exact ⟨b, hpend k' hk'⟩
    · exact h.finish l c k' hl ((hget hlj).symm.trans hc) hk'
  · refine h.quiet.imp id (Or.imp id fun hnone l c k' hl hc hk' => ?_)
    by_cases hlj : l = j
    · subst hlj
      rw [show (p.calls.set l _)[l]? = _ from List.getElem?_set_self hlt] at hc
      cases hc
      exact (hnone l _ k hne hj rfl () p.shared).segment.2.2.2 k' hk'
    · exact hnone l c k' hl ((hget hlj).symm.trans hc) hk'
  · show (done ++ f :: late).Perm ((p.calls.set j _).map Call.arg)
    rw [Pool.map_arg_set hj]
    exact h.perm

/-- A refused frame starts beside it, before it or after it in the order. -/
theorem Busy.start_refused (h : Busy P v₀ p done i f late)
    (hg : RefusedOnSight p.shared.hs g.payload) {done' late' : List HandshakeFrame}
    (hdone : settled P v₀ done' = settled P v₀ done)
    (hlate : ∀ g ∈ late', RefusedOnSight (target P v₀ done f).1 g.payload)
    (hperm : (done' ++ f :: late').Perm (done ++ f :: late ++ [g])) :
    Busy P v₀ (p.start (advanceHandshake P deviceId) g) done' i f late' := by
  obtain ⟨kf, hi, hkf⟩ := h.call
  have hfin := @advanceHandshake_refused P deviceId g _ hg
  obtain ⟨hsite', hhs', hkeys', hpend⟩ := hfin.segment
  have htarget : target P v₀ done' f = target P v₀ done f := by
    unfold target
    rw [hdone]
  have hkeys : ((advanceHandshake P deviceId g) p.shared).state.keys = p.shared.keys := by
    rcases hkeys' with hsame | hleave
    · exact hsame
    · exact hleave
  have hlt : i < p.calls.length := (List.getElem?_eq_some_iff.mp hi).1
  have hnew : ∀ (l : ℕ) (c : AdvanceCall) k, (p.start (advanceHandshake P deviceId) g).calls[l]? = some c →
      c.status = .pending k → p.calls[l]? = some c ∨ OnlyFinishes P false k := by
    intro l c k hc hk
    by_cases hl : l < p.calls.length
    · exact Or.inl ((List.getElem?_append_left hl).symm.trans hc)
    · right
      rw [show (p.start (advanceHandshake P deviceId) g).calls[l]? = _ from
        List.getElem?_append_right (Nat.not_lt.mp hl)] at hc
      obtain rfl := List.mem_singleton.mp (List.mem_of_getElem? hc)
      exact hpend k hk
  refine ⟨hsite'.trans h.site, (congrArg _ hhs').trans h.role, ⟨kf, ?_, ?_⟩, ?_, ?_, ?_, ?_, ?_, ?_⟩
  · exact (List.getElem?_append_left hlt).trans hi
  · rw [hdone, htarget]
    exact fun r v hv hvhs => hkf r v hv (hvhs.trans hhs')
  · show Between _ ((advanceHandshake P deviceId g) p.shared).state.hs _
    rw [hhs', hdone, htarget]
    exact h.between
  · intro l c k hl hc hk
    rcases hnew l c k hc hk with hold | hfalse
    · exact h.finish l c k hl hold hk
    · exact ⟨false, hfalse⟩
  · rw [htarget]
    refine h.quiet.imp id (Or.imp id fun hnone l c k hl hc hk => ?_)
    rcases hnew l c k hc hk with hold | hfalse
    · exact hnone l c k hl hold hk
    · exact hfalse
  · rw [show (p.start (advanceHandshake P deviceId) g).shared.keys = p.shared.keys from hkeys,
      hdone, htarget]
    exact h.keys
  · rw [htarget]
    exact hlate
  · show (done' ++ f :: late').Perm ((p.calls ++ [_]).map Call.arg)
    rw [List.map_append]
    exact hperm.trans (h.perm.append_right _)

/-- The call that works has only its end left: the object is at its target. -/
theorem Busy.release (h : Busy P v₀ p done i f late)
    (hincomplete : p.shared.hs.msgIdx ≠ 3)
    (hfinish : ∀ c ∈ p.calls, ∀ k, c.status = .pending k → ∃ b, OnlyFinishes P b k) :
    Idle P v₀ p (done ++ f :: late) := by
  obtain ⟨k, hi, hk⟩ := h.call
  obtain ⟨b, hb⟩ := hfinish _ (List.mem_of_getElem? hi) k rfl
  have hat : p.shared.hs = (target P v₀ done f).1 :=
    (hk () p.shared h.site rfl).target_of_finishes (hb () p.shared)
  have hinc : (target P v₀ done f).1.isComplete = false := by
    rw [← hat]
    exact beq_eq_false_iff_ne.mpr hincomplete
  have hsame : ∀ b keys, leaveKeys P b v₀.cs.role (target P v₀ done f).1 keys = keys := by
    intro b keys
    cases b with
    | false => rfl
    | true => exact deriveKeys_of_incomplete hinc keys
  have hkeys : p.shared.keys = leaveKeys P (target P v₀ done f).2 v₀.cs.role
      (target P v₀ done f).1 (settled P v₀ done).2 := by
    rw [hsame]
    rcases h.keys with hkeys | ⟨-, hkeys⟩
    · exact hkeys
    · exact hkeys.trans (deriveKeys_of_incomplete hinc _)
  have hpair : target P v₀ done f = ((target P v₀ done f).1, (target P v₀ done f).2) := rfl
  exact settle_idle hpair h.site h.role hat hkeys h.refused hfinish (Or.inr (Or.inl hinc)) h.perm

/-! ### Runs -/

theorem Idle.start (h : Idle P v₀ p done) (hmay : MayStart P p g) :
    SerialInv P v₀ (p.start (advanceHandshake P deviceId) g) := by
  by_cases hg : RefusedOnSight p.shared.hs g.payload
  · exact SerialInv.idle (h.start_refused hg)
  rcases hmay with hfrom | huntil | hfree
  · exact absurd (hfrom.later rfl (le_refl _)) hg
  · exact absurd (huntil.earlier rfl (le_refl _)) hg
  · exact h.start_works (target_quiet h hg hfree)

theorem Busy.start (h : Busy P v₀ p done i f late) (hmay : MayStart P p g) :
    SerialInv P v₀ (p.start (advanceHandshake P deviceId) g) := by
  by_cases hfrom : RefusedFromNow p.shared.hs g.payload
  · -- the frame stands last
    have hlast : ∀ g' ∈ late ++ [g], RefusedOnSight (target P v₀ done f).1 g'.payload := by
      intro g' hg'
      rcases List.mem_append.mp hg' with hg' | hg'
      · exact h.refused g' hg'
      · rw [List.mem_singleton.mp hg']
        exact hfrom.later h.between.role' h.between.idx'
    exact SerialInv.busy (h.start_refused (hfrom.later rfl (le_refl _)) rfl hlast (by simp))
  rcases hmay with hfrom' | huntil | hfree
  · exact absurd hfrom' hfrom
  · -- the frame stands before the one that is being worked on
    have hbefore : settled P v₀ (done ++ [g]) = settled P v₀ done :=
      settled_concat_refused (huntil.earlier h.between.role₀ h.between.idx₀)
    have hperm : (done ++ [g] ++ f :: late).Perm (done ++ f :: late ++ [g]) := by
      rw [List.append_assoc, List.append_assoc]
      exact List.Perm.append_left done List.perm_append_comm
    exact SerialInv.busy (h.start_refused (huntil.earlier rfl (le_refl _)) hbefore h.refused hperm)
  · have hincomplete : p.shared.hs.msgIdx ≠ 3 := fun hdone => hfrom (Or.inr (Or.inl hdone))
    have hidle := h.release hincomplete fun c hc k hk => by
      obtain ⟨-, b, -, hb⟩ := hfree c hc k hk
      exact ⟨b, hb⟩
    exact hidle.start (Or.inr (Or.inr hfree))

theorem SerialInv.start (h : SerialInv P v₀ p) (hmay : MayStart P p g) :
    SerialInv P v₀ (p.start (advanceHandshake P deviceId) g) := by
  cases h with
  | idle h => exact h.start hmay
  | busy h => exact h.start hmay

theorem SerialInv.resume (h : SerialInv P v₀ p) (j : ℕ) : SerialInv P v₀ (p.resume j ()) := by
  cases h with
  | idle h => exact SerialInv.idle (h.resume j)
  | @busy done late i f h =>
      by_cases hj : j = i
      · rw [hj]
        exact h.resume_self
      · exact SerialInv.busy (h.resume_other hj)

/-- Every serial schedule keeps an order that explains it. -/
theorem advanceRun_inv (hrole : v₀.hs.role = v₀.cs.role) (ms : List (Move HandshakeFrame Unit))
    (hserial : Serial P deviceId v₀ ms) : SerialInv P v₀ (advanceRun P deviceId v₀ ms) := by
  induction ms using List.reverseRecOn with
  | nil =>
      refine SerialInv.idle ⟨rfl, hrole, rfl, rfl, ?_, Or.inr ?_, List.Perm.nil⟩
      · exact fun c hc => absurd hc List.not_mem_nil
      · exact fun c hc => absurd hc List.not_mem_nil
  | append_singleton ms m ih =>
      have hinit : Serial P deviceId v₀ ms := by
        intro pre f post heq
        exact hserial pre f (post ++ [m]) (by rw [heq]; simp)
      unfold advanceRun
      rw [Pool.exec_concat]
      cases m with
      | start g => exact (ih hinit).start (hserial ms g [] rfl)
      | resume j r => exact (ih hinit).resume j

end Invariant

/-- **Frames that may start are processed as if one after the other.** Take any
schedule of `advanceHandshake` calls of one `CryptoState` in which every frame
that starts may start. Once all calls have settled, the handshake object, the
session and the SAS are those of some order of the same frames, each processed
to its end before the next. -/
theorem serial_frames_are_sequential {P : Primitives} {deviceId : DeviceId} {v : HandshakeView}
    (hrole : v.hs.role = v.cs.role) {ms : List (Move HandshakeFrame Unit)}
    (hserial : Serial P deviceId v ms)
    (hsettled : ∀ c ∈ (advanceRun P deviceId v ms).calls, ∃ r, c.status = .settled r) :
    ∃ order : List HandshakeFrame,
      order.Perm (starts ms) ∧
      (advanceRun P deviceId v ms).shared.cs.handshake =
        (advanceAll P deviceId v order).cs.handshake ∧
      (advanceRun P deviceId v ms).shared.cs.session =
        (advanceAll P deviceId v order).cs.session ∧
      (advanceRun P deviceId v ms).shared.cs.sas = (advanceAll P deviceId v order).cs.sas := by
  cases advanceRun_inv hrole ms hserial with
  | @idle done h =>
      obtain ⟨-, hall⟩ := @advanceAll_settle P deviceId v done
      obtain ⟨hhs, hkeys⟩ := Prod.mk.inj hall
      obtain ⟨hsession, hsas⟩ := Prod.mk.inj (h.keys.trans hkeys.symm)
      have hperm : done.Perm (starts ms) := by
        have hargs := h.perm
        unfold advanceRun at hargs
        rw [Pool.exec_args] at hargs
        exact hargs
      exact ⟨done, hperm, h.hs.trans hhs.symm, hsession, hsas⟩
  | busy h =>
      obtain ⟨k, hi, -⟩ := h.call
      obtain ⟨r, hr⟩ := hsettled _ (List.mem_of_getElem? hi)
      cases hr

/-! ## Schedules with a duplicate of msg-2 -/

/-- An initiator that has written msg-1. -/
def sampleView : HandshakeView where
  cs := { CryptoState.new .sample .initiator sampleInitiator.identity "0202020202020202" 0 with
    handshake := handshakeRun .sample sampleInitiator [.write (.sample 5) []] }
  mtu := some 247
  now := 0
  tofu := .empty
  error := none
  written := []
  notified := 0

def msg2Frame : HandshakeFrame where
  frameType := FrameType.HandshakeMsg2
  payload := sampleMsg2
  readDraws := .sample 8
  writeDraws := .sample 9
  writeRx := fun _ => .ok ()

theorem serial_start {P : Primitives} {deviceId : DeviceId} {v : HandshakeView}
    {ms : List (Move HandshakeFrame Unit)} {f : HandshakeFrame} (h : Serial P deviceId v ms)
    (hmay : MayStart P (advanceRun P deviceId v ms) f) :
    Serial P deviceId v (ms ++ [.start f]) := by
  intro pre g post heq
  rcases List.eq_nil_or_concat post with rfl | ⟨post', m, rfl⟩
  · obtain ⟨rfl, hlast⟩ := List.append_inj' heq rfl
    cases hlast
    exact hmay
  · rw [List.concat_eq_append, ← List.cons_append, ← List.append_assoc] at heq
    exact h pre g post' (List.append_inj' heq rfl).1

theorem serial_resume {P : Primitives} {deviceId : DeviceId} {v : HandshakeView} (i n : ℕ)
    {ms : List (Move HandshakeFrame Unit)} (h : Serial P deviceId v ms) :
    Serial P deviceId v (ms ++ List.replicate n (.resume i ())) := by
  induction n with
  | zero =>
      rw [List.replicate_zero, List.append_nil]
      exact h
  | succ n ih =>
      rw [List.replicate_succ', ← List.append_assoc]
      intro pre g post heq
      rcases List.eq_nil_or_concat post with rfl | ⟨post', m, rfl⟩
      · cases (List.append_inj' heq rfl).2
      · rw [List.concat_eq_append, ← List.cons_append, ← List.append_assoc] at heq
        exact ih pre g post' (List.append_inj' heq rfl).1

/-- msg-2, and its duplicate while msg-3 is being written. -/
def lateDuplicate : List (Move HandshakeFrame Unit) :=
  [] ++ [.start msg2Frame] ++ List.replicate 10 (.resume 0 ()) ++ [.start msg2Frame] ++
    List.replicate 2 (.resume 1 ()) ++ List.replicate 20 (.resume 0 ())

theorem late_duplicate_is_sequential :
    ∃ order : List HandshakeFrame, order.Perm (starts lateDuplicate) ∧
      (advanceRun .sample "d" sampleView lateDuplicate).shared.cs.handshake =
        (advanceAll .sample "d" sampleView order).cs.handshake ∧
      (advanceRun .sample "d" sampleView lateDuplicate).shared.cs.session =
        (advanceAll .sample "d" sampleView order).cs.session ∧
      (advanceRun .sample "d" sampleView lateDuplicate).shared.cs.sas =
        (advanceAll .sample "d" sampleView order).cs.sas := by
  have hnil : Serial .sample "d" sampleView [] := by
    intro pre f post heq
    simp at heq
  have hfirst : Serial .sample "d" sampleView ([] ++ [.start msg2Frame]) :=
    serial_start hnil (Or.inr (Or.inr fun c hc => absurd hc List.not_mem_nil))
  have hwriting : RefusedFromNow (advanceRun .sample "d" sampleView
      ([] ++ [.start msg2Frame] ++ List.replicate 10 (.resume 0 ()))).shared.hs
      msg2Frame.payload :=
    Or.inr (Or.inr (by decide +kernel))
  have hserial : Serial .sample "d" sampleView lateDuplicate :=
    serial_resume 0 20 (serial_resume 1 2
      (serial_start (serial_resume 0 10 hfirst) (Or.inl hwriting)))
  have hdone : (advanceRun .sample "d" sampleView lateDuplicate).calls.all
      (fun c => !c.status.isPending) = true := by
    decide +kernel
  have hrole : sampleView.hs.role = sampleView.cs.role := by decide +kernel
  refine serial_frames_are_sequential hrole hserial fun c hc => ?_
  exact Status.exists_settled (Bool.not_eq_true' _ ▸ List.all_eq_true.mp hdone c hc)

/-- msg-2 twice, the calls taking turns. -/
def overlappingDuplicates : List (Move HandshakeFrame Unit) :=
  [.start msg2Frame, .start msg2Frame] ++
    (List.replicate 25 [.resume 0 (), .resume 1 ()]).flatten

/-- A duplicate that arrives while msg-2 is being decrypted spoils the
handshake: both calls end, no session exists, and in every order one after the
other the same frames establish one. -/
theorem duplicate_msg2_spoils_handshake :
    (∀ c ∈ (advanceRun .sample "d" sampleView overlappingDuplicates).calls,
      ∃ r, c.status = .settled r) ∧
    ∀ order : List HandshakeFrame, order.Perm (starts overlappingDuplicates) →
      (advanceRun .sample "d" sampleView overlappingDuplicates).shared.cs.session = none ∧
      (advanceRun .sample "d" sampleView overlappingDuplicates).shared.cs.handshake.isComplete =
        false ∧
      (advanceAll .sample "d" sampleView order).cs.session ≠ none ∧
      (advanceAll .sample "d" sampleView order).cs.handshake.isComplete = true := by
  have hdone : (advanceRun .sample "d" sampleView overlappingDuplicates).calls.all
      (fun c => !c.status.isPending) = true := by
    decide +kernel
  refine ⟨fun c hc => Status.exists_settled
    (Bool.not_eq_true' _ ▸ List.all_eq_true.mp hdone c hc), fun order horder => ?_⟩
  have hstarts : starts overlappingDuplicates = List.replicate 2 msg2Frame := rfl
  have hsame : order = [msg2Frame, msg2Frame] := by
    rw [hstarts] at horder
    exact List.perm_replicate.mp horder
  have hnone : (advanceRun .sample "d" sampleView
      overlappingDuplicates).shared.cs.session.isSome = false := by
    decide +kernel
  have hsome : (advanceAll .sample "d" sampleView
      [msg2Frame, msg2Frame]).cs.session.isSome = true := by
    decide +kernel
  rw [hsame]
  refine ⟨Option.not_isSome_iff_eq_none.mp (by rw [hnone]; exact Bool.false_ne_true),
    by decide +kernel, fun heq => ?_, by decide +kernel⟩
  rw [heq] at hsome
  cases hsome

end Oxpulse.Transport
