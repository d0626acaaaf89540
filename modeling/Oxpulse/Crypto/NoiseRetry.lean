import Mathlib.Data.List.Induction
import Oxpulse.Crypto.NoiseSteps

/-!
# Reads that fail

A read that throws may have mixed part of its message into the symmetric state
and stored remote keys before it did. `RefusedEarly` lists the failures that
happen before anything is written; every other failure leaves a remote key
behind that was not there before, so it can be told from the untouched object.

A run whose failing reads are all refused early is the run without them.
-/

namespace Oxpulse.Crypto

open Oxpulse.Coroutine

/-- One call on a handshake object. -/
inductive HandshakeOp : Type where
  | write (draws : NoiseDraws) (payload : Bytes)
  | read (draws : NoiseDraws) (message : Bytes)

def HandshakeOp.call (P : Primitives) : HandshakeOp → Co Unit NoiseXxHandshake JsError Bytes
  | .write draws payload => NoiseXxHandshake.writeMessage P draws payload
  | .read draws message => NoiseXxHandshake.readMessage P draws message

/-- One call, awaited. -/
def HandshakeOp.step (P : Primitives) (op : HandshakeOp) (hs : NoiseXxHandshake) :
    NoiseXxHandshake × Except JsError Bytes :=
  (op.call P).run () hs

/-- The object after these calls, each awaited before the next one. -/
def handshakeRun (P : Primitives) (hs : NoiseXxHandshake) (ops : List HandshakeOp) :
    NoiseXxHandshake :=
  ops.foldl (fun hs op => (op.step P hs).1) hs

/-- The read throws before it has changed anything: the message is too large,
it is not this object's turn to read, msg-1 is too short, or the encrypted
static key of msg-3 does not open. -/
def RefusedEarly (P : Primitives) (hs : NoiseXxHandshake) (message : Bytes) : Prop :=
  message.length > MAX_HANDSHAKE_MSG_BYTES + 256 ∨
  match hs.role, hs.msgIdx with
  | .responder, 0 => message.length < 32 + MLKEM_PUBLIC_KEY_BYTES
  | .initiator, 1 => False
  | .responder, 2 => opened P hs.state (message.take NoiseXxHandshake.S_CT_BYTES) = none
  | _, _ => True

theorem refusedEarly_msg1 {hs : NoiseXxHandshake} (hrole : hs.role = .responder)
    (hidx : hs.msgIdx = 0) (message : Bytes) :
    RefusedEarly P hs message ↔
      message.length > MAX_HANDSHAKE_MSG_BYTES + 256 ∨
        message.length < 32 + MLKEM_PUBLIC_KEY_BYTES := by
  unfold RefusedEarly
  rw [hrole, hidx]
  exact Iff.rfl

theorem refusedEarly_msg2 {hs : NoiseXxHandshake} (hrole : hs.role = .initiator)
    (hidx : hs.msgIdx = 1) (message : Bytes) :
    RefusedEarly P hs message ↔ message.length > MAX_HANDSHAKE_MSG_BYTES + 256 ∨ False := by
  unfold RefusedEarly
  rw [hrole, hidx]
  exact Iff.rfl

theorem refusedEarly_msg3 {hs : NoiseXxHandshake} (hrole : hs.role = .responder)
    (hidx : hs.msgIdx = 2) (message : Bytes) :
    RefusedEarly P hs message ↔
      message.length > MAX_HANDSHAKE_MSG_BYTES + 256 ∨
        opened P hs.state (message.take NoiseXxHandshake.S_CT_BYTES) = none := by
  unfold RefusedEarly
  rw [hrole, hidx]
  exact Iff.rfl

theorem refusedEarly_of_no_turn {hs : NoiseXxHandshake}
    (hne₀ : hs.role = .responder → hs.msgIdx = 0 → False)
    (hne₁ : hs.role = .initiator → hs.msgIdx = 1 → False)
    (hne₂ : hs.role = .responder → hs.msgIdx = 2 → False) (message : Bytes) :
    RefusedEarly P hs message := by
  refine Or.inr ?_
  split
  · next hrole hidx => exact absurd hidx (hne₀ hrole)
  · next hrole hidx => exact absurd hidx (hne₁ hrole)
  · next hrole hidx => exact absurd hidx (hne₂ hrole)
  · trivial

/-- Every read of the run that throws is refused early. -/
def FailsEarly (P : Primitives) (hs : NoiseXxHandshake) (ops : List HandshakeOp) : Prop :=
  ∀ pre draws message post, ops = pre ++ .read draws message :: post →
    (∃ e, ((HandshakeOp.read draws message).step P (handshakeRun P hs pre)).2 = .error e) →
      RefusedEarly P (handshakeRun P hs pre) message

/-- The calls of the run, without the reads that throw in it. -/
def dropFailedReads (P : Primitives) : NoiseXxHandshake → List HandshakeOp → List HandshakeOp
  | _, [] => []
  | hs, op :: ops =>
      let rest := dropFailedReads P (op.step P hs).1 ops
      match op, (op.step P hs).2 with
      | .read _ _, .error _ => rest
      | _, _ => op :: rest

/-- At this turn, no remote key is stored yet that a later read would store,
and the keys that read needs are there. -/
def CleanAt : Role → Fin 4 → NoiseXxHandshake → Prop
  | .initiator, 0, hs => hs.rePublic = none
  | .initiator, 1, hs => hs.rePublic = none ∧ hs.eSecret.isSome ∧ hs.mlkemKeypair.isSome
  | .responder, 0, hs => hs.rePublic = none ∧ hs.rsPublic = none
  | .responder, 1, hs => hs.rsPublic = none
  | .responder, 2, hs => hs.rsPublic = none ∧ hs.eSecret.isSome
  | _, _, _ => True

def Clean (hs : NoiseXxHandshake) : Prop := CleanAt hs.role hs.msgIdx hs

namespace NoiseXxHandshake

variable {P : Primitives} {hs : NoiseXxHandshake} {draws : NoiseDraws} {payload message : Bytes}

theorem cleanAt (h : Clean hs) {role : Role} {idx : Fin 4} (hrole : hs.role = role)
    (hidx : hs.msgIdx = idx) : CleanAt role idx hs := by
  rw [← hrole, ← hidx]
  exact h

theorem new_clean (role : Role) (identity : DeviceIdentityProvider) :
    Clean (new P role identity) := by
  cases role with
  | initiator => exact rfl
  | responder => exact ⟨rfl, rfl⟩

/-! ## What the reads store -/

/-- A msg-1 that is long enough leaves its ephemeral behind. -/
theorem readMsg1_rePublic (hlen : ¬ message.length < 32 + MLKEM_PUBLIC_KEY_BYTES) :
    ((readMsg1 P draws message : Co Unit _ _ _).run () hs).1.rePublic =
      some (message.take 32) := by
  rw [readMsg1_run, if_neg hlen]
  simp only
  split
  · rfl
  · split <;> rfl

/-- Every msg-2 leaves its ephemeral behind. -/
theorem readMsg2_rePublic (he : hs.eSecret.isSome) (hkp : hs.mlkemKeypair.isSome) :
    ((readMsg2 P message : Co Unit _ _ _).run () hs).1.rePublic = some (message.take 32) := by
  obtain ⟨eSecret, he⟩ := Option.isSome_iff_exists.mp he
  obtain ⟨keypair, hkp⟩ := Option.isSome_iff_exists.mp hkp
  rw [readMsg2_run hs message he hkp]
  simp only
  split
  · rfl
  split
  · rfl
  split
  · rfl
  split
  · rfl
  split <;> rfl

/-- A msg-3 whose static key opens leaves that key behind; any other changes
nothing. -/
theorem readMsg3_rsPublic (he : hs.eSecret.isSome) :
    (opened P hs.state (message.take S_CT_BYTES) = none ∧
      (readMsg3 P message : Co Unit _ _ _).run () hs = (hs, .error .library)) ∨
    (opened P hs.state (message.take S_CT_BYTES) ≠ none ∧
      ((readMsg3 P message : Co Unit _ _ _).run () hs).1.rsPublic.isSome) := by
  obtain ⟨eSecret, he⟩ := Option.isSome_iff_exists.mp he
  rw [readMsg3_run hs message he]
  cases hopen : opened P hs.state (message.take S_CT_BYTES) with
  | none =>
      dsimp only
      rw [hopen]
      exact Or.inl ⟨rfl, rfl⟩
  | some sPayload =>
      simp only [hopen]
      refine Or.inr ⟨Option.some_ne_none _, ?_⟩
      split
      · rfl
      split <;> rfl

/-- **A read leaves the object unchanged exactly when it is refused early.** -/
theorem readMessage_unchanged_iff (hclean : Clean hs) :
    ((readMessage P draws message : Co Unit _ _ _).run () hs).1 = hs ↔
      RefusedEarly P hs message := by
  rw [readMessage_run]
  by_cases hbig : message.length > MAX_HANDSHAKE_MSG_BYTES + 256
  · rw [if_pos hbig]
    exact iff_of_true rfl (Or.inl hbig)
  rw [if_neg hbig]
  unfold readTurn
  split
  · next hrole hidx =>
      -- the responder waits for msg-1
      rw [refusedEarly_msg1 hrole hidx]
      by_cases hlen : message.length < 32 + MLKEM_PUBLIC_KEY_BYTES
      · rw [readMsg1_run, if_pos hlen]
        exact iff_of_true rfl (Or.inr hlen)
      · refine iff_of_false (fun heq => ?_) (fun h => h.elim hbig hlen)
        have hstored := @readMsg1_rePublic P hs draws message hlen
        rw [heq, (cleanAt hclean hrole hidx).1] at hstored
        cases hstored
  · next hrole hidx =>
      -- the initiator waits for msg-2
      rw [refusedEarly_msg2 hrole hidx]
      obtain ⟨hre, he, hkp⟩ := cleanAt hclean hrole hidx
      refine iff_of_false (fun heq => ?_) (fun h => h.elim hbig id)
      have hstored := @readMsg2_rePublic P hs message he hkp
      rw [heq, hre] at hstored
      cases hstored
  · next hrole hidx =>
      -- the responder waits for msg-3
      rw [refusedEarly_msg3 hrole hidx]
      obtain ⟨hrs, he⟩ := cleanAt hclean hrole hidx
      rcases @readMsg3_rsPublic P hs message he with ⟨hopen, hrun⟩ | ⟨hopen, hsome⟩
      · rw [hrun]
        exact iff_of_true rfl (Or.inr hopen)
      · refine iff_of_false (fun heq => ?_) (fun h => h.elim hbig hopen)
        rw [heq, hrs] at hsome
        cases hsome
  · next hne₀ hne₁ hne₂ =>
      exact iff_of_true rfl (refusedEarly_of_no_turn hne₀ hne₁ hne₂ message)

/-! ## Calls that keep the object clean -/

theorem writeMsg1_clean (hrole : hs.role = .initiator) (hidx : hs.msgIdx = 0)
    (hclean : Clean hs) :
    Clean ((writeMsg1 P draws payload : Co Unit _ _ _).run () hs).1 := by
  have hre : hs.rePublic = none := cleanAt hclean hrole hidx
  rw [writeMsg1_run]
  cases generateMlkemKeypair P draws.mlkemSeed with
  | error e =>
      show CleanAt hs.role hs.msgIdx _
      rw [hrole, hidx]
      exact hre
  | ok keypair =>
      show CleanAt hs.role 1 _
      rw [hrole]
      exact ⟨hre, rfl, rfl⟩

theorem writeMsg2_clean (hrole : hs.role = .responder) (hidx : hs.msgIdx = 1)
    (hclean : Clean hs) :
    Clean ((writeMsg2 P draws payload : Co Unit _ _ _).run () hs).1 := by
  have hrs : hs.rsPublic = none := cleanAt hclean hrole hidx
  -- as long as msg-2 is not finished the responder stays at its turn
  have hstay : ∀ hs' : NoiseXxHandshake, hs'.role = hs.role → hs'.msgIdx = hs.msgIdx →
      hs'.rsPublic = hs.rsPublic → Clean hs' := by
    intro hs' hrole' hidx' hrs'
    unfold Clean
    rw [hrole', hidx', hrole, hidx]
    exact hrs'.trans hrs
  cases hre : hs.rePublic with
  | none =>
      unfold writeMsg2
      simp only [Co.run_bind, Co.run_get, hre, Co.run_orThrow]
      exact hclean
  | some rePublic =>
      cases hkp : hs.mlkemKeypair with
      | none =>
          unfold writeMsg2
          simp only [Co.run_bind, Co.run_get, hre, hkp, Co.run_orThrow]
          exact hclean
      | some keypair =>
          cases hss : hs.mlkemSharedSecret with
          | none =>
              unfold writeMsg2
              simp only [Co.run_bind, Co.run_get, hre, hkp, hss, Co.run_orThrow]
              exact hclean
          | some sharedSecret =>
              rw [writeMsg2_run hs draws payload hre hkp hss]
              dsimp only
              split
              · exact hstay _ rfl rfl rfl
              split
              · exact hstay _ rfl rfl rfl
              split
              · exact hstay _ rfl rfl rfl
              · show CleanAt hs.role 2 _
                rw [hrole]
                exact ⟨hrs, rfl⟩

theorem writeMsg3_clean (hrole : hs.role = .initiator) (hidx : hs.msgIdx = 2)
    (hclean : Clean hs) :
    Clean ((writeMsg3 P payload : Co Unit _ _ _).run () hs).1 := by
  have hstay : ∀ hs' : NoiseXxHandshake, hs'.role = hs.role → hs'.msgIdx = hs.msgIdx →
      Clean hs' := by
    intro hs' hrole' hidx'
    unfold Clean
    rw [hrole', hidx', hrole, hidx]
    trivial
  cases he : hs.eSecret with
  | none =>
      unfold writeMsg3
      simp only [Co.run_bind, Co.run_get, he, Co.run_orThrow]
      exact hclean
  | some eSecret =>
      cases hre : hs.rePublic with
      | none =>
          unfold writeMsg3
          simp only [Co.run_bind, Co.run_get, he, hre, Co.run_orThrow]
          exact hclean
      | some rePublic =>
          rw [writeMsg3_run hs payload he hre]
          split
          · exact hclean
          dsimp only
          split
          · exact hstay _ rfl rfl
          · show CleanAt hs.role 3 _
            rw [hrole]
            trivial

/-- A write, whether it succeeds or not. -/
theorem writeMessage_clean (hclean : Clean hs) :
    Clean ((writeMessage P draws payload : Co Unit _ _ _).run () hs).1 := by
  rw [writeMessage_run]
  split
  · exact hclean
  unfold writeTurn
  split
  · next hrole hidx => exact writeMsg1_clean hrole hidx hclean
  · next hrole hidx => exact writeMsg2_clean hrole hidx hclean
  · next hrole hidx => exact writeMsg3_clean hrole hidx hclean
  · exact hclean

/-- A msg-1 that was read moves the responder on. -/
theorem readMsg1_ok {pt : Bytes}
    (hok : ((readMsg1 P draws message : Co Unit _ _ _).run () hs).2 = .ok pt) :
    let hs' := ((readMsg1 P draws message : Co Unit _ _ _).run () hs).1
    hs'.role = hs.role ∧ hs'.msgIdx = 1 ∧ hs'.rsPublic = hs.rsPublic := by
  rw [readMsg1_run] at hok ⊢
  split at hok
  · cases hok
  next hlen =>
  rw [if_neg hlen]
  dsimp only at hok ⊢
  split at hok
  · cases hok
  split at hok
  · cases hok
  · exact ⟨rfl, rfl, rfl⟩

theorem readMsg2_ok (he : hs.eSecret.isSome) (hkp : hs.mlkemKeypair.isSome) {pt : Bytes}
    (hok : ((readMsg2 P message : Co Unit _ _ _).run () hs).2 = .ok pt) :
    let hs' := ((readMsg2 P message : Co Unit _ _ _).run () hs).1
    hs'.role = hs.role ∧ hs'.msgIdx = 2 := by
  obtain ⟨eSecret, he⟩ := Option.isSome_iff_exists.mp he
  obtain ⟨keypair, hkp⟩ := Option.isSome_iff_exists.mp hkp
  rw [readMsg2_run hs message he hkp] at hok ⊢
  dsimp only at hok ⊢
  split at hok
  · cases hok
  split at hok
  · cases hok
  split at hok
  · cases hok
  split at hok
  · cases hok
  split at hok
  · cases hok
  · exact ⟨rfl, rfl⟩

theorem readMsg3_ok (he : hs.eSecret.isSome) {pt : Bytes}
    (hok : ((readMsg3 P message : Co Unit _ _ _).run () hs).2 = .ok pt) :
    let hs' := ((readMsg3 P message : Co Unit _ _ _).run () hs).1
    hs'.role = hs.role ∧ hs'.msgIdx = 3 := by
  obtain ⟨eSecret, he⟩ := Option.isSome_iff_exists.mp he
  rw [readMsg3_run hs message he] at hok ⊢
  dsimp only at hok ⊢
  split at hok
  · cases hok
  split at hok
  · cases hok
  split at hok
  · cases hok
  · exact ⟨rfl, rfl⟩

/-- A read that succeeds. -/
theorem readMessage_clean (hclean : Clean hs) {pt : Bytes}
    (hok : ((readMessage P draws message : Co Unit _ _ _).run () hs).2 = .ok pt) :
    Clean ((readMessage P draws message : Co Unit _ _ _).run () hs).1 := by
  rw [readMessage_run] at hok ⊢
  split at hok
  · cases hok
  next hbig =>
  rw [if_neg hbig]
  unfold readTurn at hok ⊢
  unfold Clean
  split at hok
  · next hrole hidx =>
      obtain ⟨hrole', hidx', hrs'⟩ := readMsg1_ok hok
      rw [hrole', hidx', hrole]
      exact hrs'.trans (cleanAt hclean hrole hidx).2
  · next hrole hidx =>
      obtain ⟨-, he, hkp⟩ := cleanAt hclean hrole hidx
      obtain ⟨hrole', hidx'⟩ := readMsg2_ok he hkp hok
      rw [hrole', hidx', hrole]
      trivial
  · next hrole hidx =>
      obtain ⟨-, he⟩ := cleanAt hclean hrole hidx
      obtain ⟨hrole', hidx'⟩ := readMsg3_ok he hok
      rw [hrole', hidx', hrole]
      trivial
  · cases hok

end NoiseXxHandshake

/-! ## Whole runs -/

section Runs

variable {P : Primitives} {hs : NoiseXxHandshake}

theorem handshakeRun_concat (ops : List HandshakeOp) (op : HandshakeOp) :
    handshakeRun P hs (ops ++ [op]) = (op.step P (handshakeRun P hs ops)).1 := by
  simp [handshakeRun]

/-- A call that is not a late failure keeps the object clean. -/
theorem Clean.step (hclean : Clean hs) {op : HandshakeOp}
    (hop : ∀ draws message, op = .read draws message →
      (∃ e, (op.step P hs).2 = .error e) → RefusedEarly P hs message) :
    Clean (op.step P hs).1 := by
  cases op with
  | write draws payload => exact NoiseXxHandshake.writeMessage_clean hclean
  | read draws message =>
      cases hres : ((HandshakeOp.read draws message).step P hs).2 with
      | ok pt => exact NoiseXxHandshake.readMessage_clean hclean hres
      | error e =>
          have hearly := hop draws message rfl ⟨e, hres⟩
          have hsame : ((HandshakeOp.read draws message).step P hs).1 = hs :=
            (NoiseXxHandshake.readMessage_unchanged_iff hclean).mpr hearly
          rw [hsame]
          exact hclean

theorem Clean.run (hclean : Clean hs) :
    ∀ ops, FailsEarly P hs ops → Clean (handshakeRun P hs ops) := by
  intro ops
  induction ops using List.reverseRecOn with
  | nil => exact fun _ => hclean
  | append_singleton ops op ih =>
      intro hearly
      have hinit : FailsEarly P hs ops := by
        intro pre draws message post heq
        exact hearly pre draws message (post ++ [op]) (by rw [heq]; simp)
      rw [handshakeRun_concat]
      refine (ih hinit).step ?_
      rintro draws message rfl hthrow
      exact hearly ops draws message [] rfl hthrow

theorem FailsEarly.tail {op : HandshakeOp} {ops : List HandshakeOp}
    (h : FailsEarly P hs (op :: ops)) : FailsEarly P (op.step P hs).1 ops := by
  intro pre draws message post heq hthrow
  exact h (op :: pre) draws message post (by rw [heq]; rfl) hthrow

/-- **Failing reads that are refused early can be left out.** -/
theorem handshakeRun_dropFailedReads (hclean : Clean hs) (ops : List HandshakeOp)
    (hearly : FailsEarly P hs ops) :
    handshakeRun P hs (dropFailedReads P hs ops) = handshakeRun P hs ops := by
  induction ops generalizing hs with
  | nil => rfl
  | cons op ops ih =>
      have hop : ∀ draws message, op = .read draws message →
          (∃ e, (op.step P hs).2 = .error e) → RefusedEarly P hs message := by
        rintro draws message rfl hthrow
        exact hearly [] draws message ops rfl hthrow
      have hrest := ih (hclean.step hop) hearly.tail
      unfold dropFailedReads
      dsimp only
      split
      · next draws message e hres =>
          -- this read throws, and changes nothing
          have hsame : ((HandshakeOp.read draws message).step P hs).1 = hs :=
            (NoiseXxHandshake.readMessage_unchanged_iff hclean).mpr
              (hop draws message rfl ⟨e, hres⟩)
          rw [hsame] at hrest ⊢
          show _ = handshakeRun P ((HandshakeOp.read draws message).step P hs).1 ops
          rw [hsame]
          exact hrest
      · exact hrest

end Runs

/-- **Retrying works exactly after early failures.** On a run of a new object
whose failing reads were all refused early, the next failing read leaves the
object as it was if and only if it is refused early too; and the run ends in
the state it reaches without its failing reads. -/
theorem failed_read_unchanged_iff {P : Primitives} {role : Role}
    {identity : DeviceIdentityProvider} {ops : List HandshakeOp}
    (hearly : FailsEarly P (.new P role identity) ops) :
    (∀ draws message e,
      ((NoiseXxHandshake.readMessage P draws message : Co Unit _ _ _).run ()
        (handshakeRun P (.new P role identity) ops)).2 = .error e →
      (((NoiseXxHandshake.readMessage P draws message : Co Unit _ _ _).run ()
          (handshakeRun P (.new P role identity) ops)).1 =
          handshakeRun P (.new P role identity) ops ↔
        RefusedEarly P (handshakeRun P (.new P role identity) ops) message)) ∧
    handshakeRun P (.new P role identity)
        (dropFailedReads P (.new P role identity) ops) =
      handshakeRun P (.new P role identity) ops := by
  have hnew : Clean (.new P role identity) := NoiseXxHandshake.new_clean role identity
  refine ⟨fun draws message e _ => ?_, handshakeRun_dropFailedReads hnew ops hearly⟩
  exact NoiseXxHandshake.readMessage_unchanged_iff (hnew.run ops hearly)

/-- The two ends of a handshake between devices with in-memory keys. -/
def sampleInitiator : NoiseXxHandshake :=
  .new .sample .initiator (.ofKeys .sample (List.replicate 32 1) (List.replicate 32 3))

def sampleResponder : NoiseXxHandshake :=
  .new .sample .responder (.ofKeys .sample (List.replicate 32 2) (List.replicate 32 4))

/-- The wire message of a call that succeeds. -/
def HandshakeOp.wire (op : HandshakeOp) (hs : NoiseXxHandshake) : Bytes :=
  match (op.step .sample hs).2 with
  | .ok m => m
  | .error _ => []

def sampleMsg1 : Bytes := (HandshakeOp.write (.sample 5) []).wire sampleInitiator

def sampleMsg2 : Bytes :=
  (HandshakeOp.write (.sample 7) []).wire
    (handshakeRun .sample sampleResponder [.read (.sample 6) sampleMsg1])

/-- A truncated msg-1 leaves a fresh responder as it was, and so does the next one. -/
theorem short_msg1_unchanged :
    let retried := handshakeRun .sample sampleResponder [.read (.sample 6) [1, 2, 3]]
    ((HandshakeOp.read (.sample 6) [1, 2, 3]).step .sample sampleResponder).2 =
      .error (.error "msg-1: too short") ∧
    sampleResponder = retried ∧
    ((NoiseXxHandshake.readMessage .sample (.sample 6) [4] : Co Unit _ _ _).run () retried).1 =
      retried := by
  intro retried
  have hshort : ∀ message : Bytes, message.length < 32 + MLKEM_PUBLIC_KEY_BYTES →
      RefusedEarly .sample sampleResponder message := fun _ h => Or.inr h
  have hthrow : ((HandshakeOp.read (.sample 6) [1, 2, 3]).step .sample sampleResponder).2 =
      .error (.error "msg-1: too short") := by
    decide +kernel
  have hearly : FailsEarly .sample sampleResponder [.read (.sample 6) [1, 2, 3]] := by
    intro pre draws message post heq _
    rcases pre with _ | ⟨op, pre⟩
    · cases heq
      exact hshort _ (by decide)
    · simp at heq
  have hretry := failed_read_unchanged_iff hearly
  have hdropped : dropFailedReads .sample sampleResponder [.read (.sample 6) [1, 2, 3]] = [] := by
    unfold dropFailedReads
    simp only [hthrow]
    rfl
  -- The run without its failing read is the empty one.
  have hsame : sampleResponder = retried := by
    have hrun := hretry.2
    change handshakeRun .sample sampleResponder (dropFailedReads .sample sampleResponder _) =
      retried at hrun
    rw [hdropped] at hrun
    exact hrun
  have hthrow' : ((NoiseXxHandshake.readMessage .sample (.sample 6) [4] :
      Co Unit _ _ _).run () retried).2 = .error (.error "msg-1: too short") := by
    rw [← hsame]
    decide +kernel
  refine ⟨hthrow, hsame, (hretry.1 _ _ _ hthrow').mpr ?_⟩
  show RefusedEarly .sample retried _
  rw [← hsame]
  exact hshort _ (by decide)

/-- An empty msg-2 throws, has replaced the initiator's state, and the genuine
msg-2 fails after it. -/
theorem empty_msg2_spoils_handshake :
    let waiting := handshakeRun .sample sampleInitiator [.write (.sample 5) []]
    let spoilt := handshakeRun .sample sampleInitiator
      [.write (.sample 5) [], .read (.sample 0) []]
    ((HandshakeOp.read (.sample 0) []).step .sample waiting).2 = .error .library ∧
    spoilt ≠ waiting ∧
    ((HandshakeOp.read (.sample 0) sampleMsg2).step .sample waiting).2 = .ok [] ∧
    ((HandshakeOp.read (.sample 0) sampleMsg2).step .sample spoilt).2 = .error .library := by
  intro waiting spoilt
  have hre : waiting.rePublic = none := by decide +kernel
  have hre' : spoilt.rePublic = some [] := by decide +kernel
  refine ⟨by decide +kernel, fun heq => ?_, by decide +kernel, by decide +kernel⟩
  rw [heq, hre] at hre'
  cases hre'

end Oxpulse.Crypto
