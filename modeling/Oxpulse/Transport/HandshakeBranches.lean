import Oxpulse.Transport.MeshSegments

/-!
# What a user sees of a handshake call

A verdict, a SAS, the error shown and the notifications: a segment of a handshake
call leaves them alone, or it is one of the four branches of `advanceHandshake`
that write one of them (`Branches`). The failing branches are the first thing
their segment does, so each finds the state that its segment began with.
-/

namespace Oxpulse.Transport

open Oxpulse.Coroutine Oxpulse.Crypto

/-- What the user sees of an object. -/
structure SameFace (c c' : CryptoState) : Prop where
  verdict : c'.verdict = c.verdict
  sas : c'.sas = c.sas

/-- The user sees no change. -/
structure Unseen (v v' : HandshakeView) : Prop where
  face : SameFace v.cs v'.cs
  error : v'.error = v.error
  notified : v'.notified = v.notified

/-- The branches of `advanceHandshake` that write a verdict, a SAS or the error. -/
inductive HandshakeBranch : Type where
  /-- The catch block of the read. -/
  | readFailed (e : JsError)
  /-- The catch block of an answer. -/
  | answerFailed
  /-- The catch block of `split()`. -/
  | splitFailed
  /-- The session and the SAS are set. -/
  | established (session : RatchetSession) (sas : String)

def HandshakeBranch.act : HandshakeBranch → HandshakeView → HandshakeView
  | .readFailed e, v => v.readFailed e
  | .answerFailed, v => v.reject
  | .splitFailed, v => v.reject
  | .established session sas, v => (v.setSession session).established sas

/-- A segment of which the user sees nothing, or one that is a branch. -/
def Branches (v v' : HandshakeView) : Prop :=
  Unseen v v' ∨ ∃ b : HandshakeBranch, v' = b.act v

theorem SameFace.refl (c : CryptoState) : SameFace c c := ⟨rfl, rfl⟩

theorem SameFace.trans {c c' c'' : CryptoState} (h : SameFace c c') (h' : SameFace c' c'') :
    SameFace c c'' :=
  ⟨h'.verdict.trans h.verdict, h'.sas.trans h.sas⟩

theorem Unseen.refl (v : HandshakeView) : Unseen v v := ⟨.refl v.cs, rfl, rfl⟩

theorem Branches.refl (v : HandshakeView) : Branches v v := Or.inl (.refl v)

theorem branches_act (b : HandshakeBranch) (v : HandshakeView) : Branches v (b.act v) :=
  Or.inr ⟨b, rfl⟩

section Calls

variable {P : Primitives} {deviceId : DeviceId} {α : Type}

/-- Two guarantees of one call. -/
theorem Segments.and {G G' : HandshakeView → HandshakeView → Prop}
    {o : Outcome Unit HandshakeView JsError α} {v : HandshakeView} (h : Segments G o v)
    (h' : Segments G' o v) : Segments (fun v v' => G v v' ∧ G' v v') o v := by
  simpa only [and_true] using Outcome.Sat.and h h'

theorem onHandshake_unseen (m : Co Unit NoiseXxHandshake JsError α) (v : HandshakeView) :
    Segments Unseen (onHandshake m v) v := by
  refine Outcome.Sat.zoom (I := fun _ => True) (R := fun _ _ => True) (G := fun _ _ => True)
    (Q := fun _ _ => True) ?_ ?_ ?_ ?_ trivial (Outcome.sat_true (m v.cs.handshake) v.cs.handshake)
  · exact fun _ _ _ _ _ => trivial
  · exact fun _ _ _ _ _ _ _ => ⟨trivial, trivial⟩
  · exact fun _ _ _ _ => ⟨⟨rfl, rfl⟩, rfl, rfl⟩
  · exact fun _ _ _ _ _ _ => trivial

theorem completeHandshake_branches (v : HandshakeView) :
    Segments Branches (completeHandshake P v) v := by
  unfold completeHandshake
  simp only [Co.bind_apply, Co.get_apply, Outcome.bind, Co.ite_apply]
  split
  next =>
    cases v.cs.handshake.split P with
    | error e => exact ⟨branches_act .splitFailed v, trivial⟩
    | ok split =>
        dsimp only
        cases RatchetSession.new P ⟨split.sendKey, split.recvKey, v.cs.role⟩ with
        | error e => exact ⟨.refl v, trivial⟩
        | ok session =>
            cases v.cs.handshake.sas with
            | error e => exact ⟨Or.inl ⟨⟨rfl, rfl⟩, rfl, rfl⟩, trivial⟩
            | ok sas => exact ⟨branches_act (.established session sas) v, trivial⟩
  next => exact ⟨.refl v, trivial⟩

/-- The chunks of an answer, and what follows the last one. -/
theorem writeChunks_branches (outcome : ℕ → Except JsError Unit) (chunks : List Bytes) :
    ∀ (i : ℕ) (v : HandshakeView), Segments Branches
      ((writeChunks deviceId outcome chunks i v).attempt.bind (afterAnswer P)) v := by
  induction chunks with
  | nil => exact fun i v => completeHandshake_branches v
  | cons chunk chunks ih =>
      intro i v
      have hwrite : Branches v { v with written := v.written ++ [(deviceId, chunk)] } :=
        Or.inl ⟨⟨rfl, rfl⟩, rfl, rfl⟩
      unfold writeChunks
      simp only [Co.bind_apply, writeRx, Co.modify_apply, Outcome.bind, Co.await]
      cases outcome i with
      | ok u => exact ⟨trivial, hwrite, fun _ v' _ _ => ih (i + 1) v'⟩
      | error e =>
          exact ⟨trivial, hwrite, fun _ v' _ _ => ⟨branches_act .answerFailed v', trivial⟩⟩

theorem afterWrite_branches (f : HandshakeFrame) (mtu : ℕ) (next : FrameType)
    (x : Except JsError Bytes) (v : HandshakeView) :
    Segments Branches (afterWrite P deviceId f mtu next x v) v := by
  cases x with
  | error e => exact ⟨branches_act .answerFailed v, trivial⟩
  | ok msg =>
      unfold afterWrite
      dsimp only
      cases chunkFrame msg mtu next with
      | error e => exact ⟨branches_act .answerFailed v, trivial⟩
      | ok chunks => exact writeChunks_branches f.writeRx chunks 0 v

theorem onHandshake_bind_branches {G : HandshakeView → HandshakeView → Prop} {β : Type}
    (hsub : ∀ v v', Unseen v v' → G v v') (m : Co Unit NoiseXxHandshake JsError α)
    {f : Except JsError α → HandshakeView → Outcome Unit HandshakeView JsError β}
    (v : HandshakeView) (hf : ∀ x v, Segments G (f x v) v) :
    Segments G ((onHandshake m v).later.attempt.bind f) v := by
  have hcall : Segments G (onHandshake m v) v :=
    (onHandshake_unseen m v).mono hsub fun _ _ _ => trivial
  exact Outcome.Sat.await_bind (fun v => hsub v v (.refl v)) (fun _ _ _ => trivial)
    (fun _ _ _ _ _ _ => trivial) (fun v x _ => hf x v) hcall

theorem answer_branches (f : HandshakeFrame) (mtu : ℕ) (next : FrameType) (v : HandshakeView) :
    Segments Branches (answer P deviceId f mtu next v) v := by
  rw [answer_apply]
  exact onHandshake_bind_branches (fun _ _ => Or.inl) _ v
    fun x v => afterWrite_branches f mtu next x v

/-- **The segments of `advanceHandshake`**, as the user sees them. -/
theorem advanceHandshake_branches (f : HandshakeFrame) (v : HandshakeView) :
    Segments Branches (advanceHandshake P deviceId f v) v := by
  rw [advanceHandshake_apply]
  refine onHandshake_bind_branches (fun _ _ => Or.inl) _ v fun x v => ?_
  cases x with
  | error e => exact ⟨branches_act (.readFailed e) v, trivial⟩
  | ok payload =>
      unfold readTail afterRead
      simp only [Co.bind_apply, Co.get_apply, Outcome.bind, Co.ite_apply]
      split
      · exact answer_branches f _ _ v
      split
      · exact answer_branches f _ _ v
      · exact completeHandshake_branches v

theorem writeChunks_unseen (outcome : ℕ → Except JsError Unit) (chunks : List Bytes) :
    ∀ (i : ℕ) (v : HandshakeView),
      Segments Unseen (writeChunks deviceId outcome chunks i v) v := by
  induction chunks with
  | nil => exact fun i v => ⟨.refl v, trivial⟩
  | cons chunk chunks ih =>
      intro i v
      have hwrite : Unseen v { v with written := v.written ++ [(deviceId, chunk)] } :=
        ⟨⟨rfl, rfl⟩, rfl, rfl⟩
      unfold writeChunks
      simp only [Co.bind_apply, writeRx, Co.modify_apply, Outcome.bind, Co.await]
      cases outcome i with
      | ok u => exact ⟨trivial, hwrite, fun _ v' _ _ => ih (i + 1) v'⟩
      | error e => exact ⟨trivial, hwrite, fun _ v' _ _ => ⟨.refl v', trivial⟩⟩

/-- Sending msg-1 is not seen. -/
theorem sendMsg1_unseen (hr : HandshakeReplies) (v : HandshakeView) :
    Segments Unseen (sendMsg1 P deviceId hr v) v := by
  rw [sendMsg1_apply]
  refine onHandshake_bind_branches (fun _ _ h => h) _ v fun x v => ?_
  cases x with
  | error e => exact ⟨.refl v, trivial⟩
  | ok msg1 =>
      unfold afterMsg1
      dsimp only
      cases chunkFrame msg1 (v.mtu.getD GATT_MTU_DEFAULT) FrameType.HandshakeMsg1 with
      | error e => exact ⟨.refl v, trivial⟩
      | ok chunks => exact writeChunks_unseen hr.writeRx chunks 0 v

end Calls

end Oxpulse.Transport
