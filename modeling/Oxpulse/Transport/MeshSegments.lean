import Oxpulse.Transport.HandshakeSegments
import Oxpulse.Transport.MeshEvents

/-!
# What a segment of an event does to the CryptoState objects

Between two suspensions a handshake call either works on the handshake object
and leaves what was derived from it alone, or it leaves the object alone and
derives session and SAS from a complete one. The second kind of segment is the
last one of its call. Everything else leaves both alone and at most decides a
verdict.
-/

namespace Oxpulse.Transport

open Oxpulse.Coroutine Oxpulse.Crypto

/-! ## Steps of one object -/

/-- What no step undoes: the peer id, a verdict, a session. Only a peer in
`A` becomes accepted. -/
structure Persists (A : PeerIdHex → Prop) (c c' : CryptoState) : Prop where
  peerIdHex : c'.peerIdHex = c.peerIdHex
  verdict : c'.verdict = c.verdict ∨
    (c.verdict = .pending ∧ (c'.verdict = .accepted → A c.peerIdHex))
  session : c.session.isSome → c'.session.isSome

/-- What is derived from a complete handshake is left alone. The session itself
moves with its use. -/
structure SameKeys (c c' : CryptoState) : Prop where
  session : c'.session.isSome = c.session.isSome
  sessionCount : c'.sessionCount = c.sessionCount
  sas : c'.sas = c.sas
  peerPubkeyB64 : c'.peerPubkeyB64 = c.peerPubkeyB64

/-- A segment that may work on the handshake object. -/
structure KeepsKeys (A : PeerIdHex → Prop) (c c' : CryptoState) : Prop where
  persists : Persists A c c'
  keys : SameKeys c c'

/-- A segment that derives the keys. -/
structure Derives (c c' : CryptoState) : Prop where
  peerIdHex : c'.peerIdHex = c.peerIdHex
  verdict : c'.verdict = c.verdict
  handshake : c'.handshake = c.handshake
  complete : c'.handshake.isComplete = true
  session : c'.session.isSome

/-- A segment that does neither. -/
structure Keeps (A : PeerIdHex → Prop) (c c' : CryptoState) : Prop where
  persists : Persists A c c'
  handshake : c'.handshake = c.handshake
  keys : SameKeys c c'

section Objects

variable {A B : PeerIdHex → Prop} {c c' c'' : CryptoState}

theorem Persists.refl (c : CryptoState) : Persists A c c :=
  ⟨rfl, Or.inl rfl, id⟩

theorem Persists.trans (h : Persists A c c') (h' : Persists A c' c'') :
    Persists A c c'' := by
  refine ⟨h'.peerIdHex.trans h.peerIdHex, ?_, fun hs => h'.session (h.session hs)⟩
  rcases h.verdict with hsame | ⟨hpending, haccept⟩
  · rw [← hsame, ← h.peerIdHex]
    exact h'.verdict
  · right
    refine ⟨hpending, fun hacc => ?_⟩
    rcases h'.verdict with hsame' | ⟨-, haccept'⟩
    · exact haccept (hsame'.symm.trans hacc)
    · rw [← h.peerIdHex]
      exact haccept' hacc

theorem Persists.mono (hsub : ∀ p, A p → B p) (h : Persists A c c') :
    Persists B c c' := by
  refine ⟨h.peerIdHex, ?_, h.session⟩
  rcases h.verdict with hsame | ⟨hpending, haccept⟩
  · exact Or.inl hsame
  · exact Or.inr ⟨hpending, fun hacc => hsub _ (haccept hacc)⟩

/-- An accepted object stays accepted. -/
theorem Persists.accepted (h : Persists A c c') (hc : c.verdict = .accepted) :
    c'.verdict = .accepted := by
  rcases h.verdict with hsame | ⟨hpending, -⟩
  · exact hsame.trans hc
  · rw [hc] at hpending
    cases hpending

theorem SameKeys.refl (c : CryptoState) : SameKeys c c := ⟨rfl, rfl, rfl, rfl⟩

theorem SameKeys.trans (h : SameKeys c c') (h' : SameKeys c' c'') : SameKeys c c'' where
  session := h'.session.trans h.session
  sessionCount := h'.sessionCount.trans h.sessionCount
  sas := h'.sas.trans h.sas
  peerPubkeyB64 := h'.peerPubkeyB64.trans h.peerPubkeyB64

theorem KeepsKeys.refl (c : CryptoState) : KeepsKeys A c c := ⟨.refl c, .refl c⟩

/-- A session is one more reason not to be undone. -/
theorem Derives.persists (h : Derives c c') : Persists A c c' :=
  ⟨h.peerIdHex, Or.inl h.verdict, fun _ => h.session⟩

theorem Keeps.refl (c : CryptoState) : Keeps A c c := ⟨.refl c, rfl, .refl c⟩

theorem Keeps.trans (h : Keeps A c c') (h' : Keeps A c' c'') :
    Keeps A c c'' :=
  ⟨h.persists.trans h'.persists, h'.handshake.trans h.handshake, h.keys.trans h'.keys⟩

theorem Keeps.keepsKeys (h : Keeps A c c') : KeepsKeys A c c' := ⟨h.persists, h.keys⟩

/-- A verdict that is not an acceptance. -/
theorem keeps_rejected (c : CryptoState) :
    Keeps A c (transitionVerdict .rejected c).1 := by
  unfold transitionVerdict
  cases hv : c.verdict with
  | pending =>
      exact ⟨⟨rfl, Or.inr ⟨hv, fun h => nomatch h⟩, id⟩, rfl, ⟨rfl, rfl, rfl, rfl⟩⟩
  | accepted => exact .refl c
  | rejected => exact .refl c

theorem keeps_accepted (c : CryptoState) (h : A c.peerIdHex) :
    Keeps A c (transitionVerdict .accepted c).1 := by
  unfold transitionVerdict
  cases hv : c.verdict with
  | pending => exact ⟨⟨rfl, Or.inr ⟨hv, fun _ => h⟩, id⟩, rfl, ⟨rfl, rfl, rfl, rfl⟩⟩
  | accepted => exact .refl c
  | rejected => exact .refl c

end Objects

/-! ## Segments of `advanceHandshake` -/

/-- Handshake calls accept nobody. -/
def Nobody : PeerIdHex → Prop := fun _ => False

/-- Nothing was derived since the view was taken. -/
def Fresh (v : HandshakeView) : Prop := v.derived = false

/-- A segment that works on the handshake object. -/
def WorksOn (v v' : HandshakeView) : Prop :=
  v'.derived = v.derived ∧ KeepsKeys Nobody v.cs v'.cs

/-- A segment of a handshake call. -/
def Advances (v v' : HandshakeView) : Prop :=
  WorksOn v v' ∨ (v'.derived = true ∧ Derives v.cs v'.cs)

theorem WorksOn.refl (v : HandshakeView) : WorksOn v v := ⟨rfl, .refl v.cs⟩

/-- Whatever happens meanwhile, each segment takes the view along `G`. -/
abbrev Segments {α : Type} (G : HandshakeView → HandshakeView → Prop)
    (o : Outcome Unit HandshakeView JsError α) (v : HandshakeView) : Prop :=
  o.Sat (fun _ => True) (fun _ _ => True) G (fun _ _ => True) v

/-- The call suspends with nothing derived, and each segment takes the view
along `G`. -/
abbrev Stages {α : Type} (G : HandshakeView → HandshakeView → Prop)
    (o : Outcome Unit HandshakeView JsError α) (v : HandshakeView) : Prop :=
  o.Sat Fresh (fun _ _ => True) G (fun _ _ => True) v

section Calls

variable {P : Primitives} {deviceId : DeviceId} {α : Type}

theorem onHandshake_stages (m : Co Unit NoiseXxHandshake JsError α) {v : HandshakeView}
    (hv : Fresh v) :
    (onHandshake m v).Sat Fresh (fun _ _ => True) WorksOn (fun v _ => Fresh v) v := by
  refine Outcome.Sat.zoom (I := fun _ => True) (R := fun _ _ => True) (G := fun _ _ => True)
    (Q := fun _ _ => True) ?_ ?_ ?_ ?_ hv (Outcome.sat_true (m v.cs.handshake) v.cs.handshake)
  · exact fun _ _ hv _ _ => hv
  · exact fun _ _ _ _ _ _ _ => ⟨trivial, trivial⟩
  · exact fun _ _ _ _ => ⟨rfl, ⟨rfl, Or.inl rfl, id⟩, ⟨rfl, rfl, rfl, rfl⟩⟩
  · exact fun _ _ _ hv _ _ => hv

theorem reject_keeps (v : HandshakeView) : Keeps Nobody v.cs v.reject.cs := keeps_rejected v.cs

theorem readFailed_keeps (e : JsError) (v : HandshakeView) :
    Keeps Nobody v.cs (v.readFailed e).cs := by
  have hcount : Keeps Nobody v.cs
      { v.cs with handshakeFailures := v.cs.handshakeFailures + 1 } :=
    ⟨⟨rfl, Or.inl rfl, id⟩, rfl, ⟨rfl, rfl, rfl, rfl⟩⟩
  unfold HandshakeView.readFailed
  cases e with
  | noiseStateError message => exact .refl v.cs
  | error message | library =>
      dsimp only
      split
      · exact hcount
      · exact hcount.trans (keeps_rejected _)

theorem readFailed_derived (e : JsError) (v : HandshakeView) :
    (v.readFailed e).derived = v.derived := by
  unfold HandshakeView.readFailed
  cases e with
  | noiseStateError message => rfl
  | error message | library =>
      dsimp only
      split
      · rfl
      · rfl

theorem established_cs (sas : String) (v : HandshakeView) :
    (v.established sas).cs.peerIdHex = v.cs.peerIdHex ∧
    (v.established sas).cs.verdict = v.cs.verdict ∧
    (v.established sas).cs.session = v.cs.session ∧
    (v.established sas).cs.handshake = v.cs.handshake ∧
    (v.established sas).derived = v.derived := by
  unfold HandshakeView.established HandshakeView.notifyHandshakeChange HandshakeView.checkPeerKey
  split
  · exact ⟨rfl, rfl, rfl, rfl, rfl⟩
  · exact ⟨rfl, rfl, rfl, rfl, rfl⟩

/-- A segment that leaves the handshake object alone, and the keys too unless it
derives them. -/
def Concludes (v v' : HandshakeView) : Prop :=
  (v'.derived = v.derived ∧ Keeps Nobody v.cs v'.cs) ∨ (v'.derived = true ∧ Derives v.cs v'.cs)

theorem Concludes.refl (v : HandshakeView) : Concludes v v := Or.inl ⟨rfl, .refl v.cs⟩

theorem Concludes.advances {v v' : HandshakeView} (h : Concludes v v') : Advances v v' := by
  rcases h with ⟨hderived, hkeeps⟩ | hderives
  · exact Or.inl ⟨hderived, hkeeps.keepsKeys⟩
  · exact Or.inr hderives

theorem concludes_reject (v : HandshakeView) : Concludes v v.reject :=
  Or.inl ⟨rfl, reject_keeps v⟩

/-- The last part of the call, which does not suspend. -/
theorem completeHandshake_stages (v : HandshakeView) :
    Stages Concludes (completeHandshake P v) v := by
  unfold completeHandshake
  simp only [Co.bind_apply, Co.get_apply, Outcome.bind, Co.ite_apply]
  split
  next hcomplete =>
    cases hsplit : v.cs.handshake.split P with
    | error e => exact ⟨concludes_reject v, trivial⟩
    | ok split =>
        dsimp only
        cases hsession : RatchetSession.new P ⟨split.sendKey, split.recvKey, v.cs.role⟩ with
        | error e => exact ⟨.refl v, trivial⟩
        | ok session =>
            cases hsas : v.cs.handshake.sas with
            | error e => exact ⟨Or.inr ⟨rfl, rfl, rfl, rfl, hcomplete, rfl⟩, trivial⟩
            | ok sas =>
                obtain ⟨hid, hverdict, hsess, hhs, hderived⟩ :=
                  established_cs sas (HandshakeView.setSession session v)
                refine ⟨Or.inr ⟨hderived, hid, hverdict, hhs, ?_, ?_⟩, trivial⟩
                · rw [hhs]
                  exact hcomplete
                · rw [hsess]
                  rfl
  next => exact ⟨.refl v, trivial⟩

/-- Only the chunks written change. -/
def SameState (v v' : HandshakeView) : Prop := v'.cs = v.cs ∧ v'.derived = v.derived

theorem SameState.concludes {v v' v'' : HandshakeView} (h : SameState v v')
    (h' : Concludes v' v'') : Concludes v v'' := by
  obtain ⟨hcs, hderived⟩ := h
  unfold Concludes at h' ⊢
  rw [hcs, hderived] at h'
  exact h'

theorem writeChunks_stages (outcome : ℕ → Except JsError Unit) (chunks : List Bytes) :
    ∀ (i : ℕ) (v : HandshakeView), Fresh v →
      (writeChunks deviceId outcome chunks i v).Sat Fresh (fun _ _ => True) SameState
        (fun v _ => Fresh v) v := by
  induction chunks with
  | nil => exact fun i v hv => ⟨⟨rfl, rfl⟩, hv⟩
  | cons chunk chunks ih =>
      intro i v hv
      unfold writeChunks
      simp only [Co.bind_apply, writeRx, Co.modify_apply, Outcome.bind, Co.await]
      cases outcome i with
      | ok u => exact ⟨hv, ⟨rfl, rfl⟩, fun _ v' hv' _ => ih (i + 1) v' hv'⟩
      | error e => exact ⟨hv, ⟨rfl, rfl⟩, fun _ v' hv' _ => ⟨⟨rfl, rfl⟩, hv'⟩⟩

/-- What follows a written answer. -/
theorem afterWrite_stages (f : HandshakeFrame) (mtu : ℕ) (next : FrameType)
    (x : Except JsError Bytes) {v : HandshakeView} (hv : Fresh v) :
    Stages Concludes (afterWrite P deviceId f mtu next x v) v := by
  have hafter : ∀ (y : Except JsError Unit) (v : HandshakeView),
      Stages Concludes (afterAnswer P y v) v := by
    intro y v
    cases y with
    | error e => exact ⟨concludes_reject v, trivial⟩
    | ok u => exact completeHandshake_stages v
  cases x with
  | error e => exact ⟨concludes_reject v, trivial⟩
  | ok msg =>
      unfold afterWrite
      dsimp only
      cases chunkFrame msg mtu next with
      | error e => exact hafter (.error e) v
      | ok chunks =>
          have hattempt : (writeChunks deviceId f.writeRx chunks 0 v).attempt.Sat Fresh
              (fun _ _ => True) SameState (fun _ _ => True) v :=
            (writeChunks_stages f.writeRx chunks 0 v hv).attempt (fun _ _ _ => trivial)
          exact Outcome.Sat.bind (fun v₁ v₂ h => h.concludes (.refl v₂))
            (fun _ _ _ h h' => h.concludes h') (fun v y _ => hafter y v) (fun _ _ _ => trivial)
            hattempt

theorem Stages.advances {o : Outcome Unit HandshakeView JsError α} {v : HandshakeView}
    (h : Stages Concludes o v) : Stages Advances o v :=
  h.mono (fun _ _ hG => hG.advances) (fun _ _ _ => trivial)

/-- `try { await the call on the handshake object } ...` in front of a call. -/
theorem onHandshake_bind {G : HandshakeView → HandshakeView → Prop} {β : Type}
    (hsub : ∀ v v', WorksOn v v' → G v v') (m : Co Unit NoiseXxHandshake JsError α)
    {f : Except JsError α → HandshakeView → Outcome Unit HandshakeView JsError β}
    {v : HandshakeView} (hv : Fresh v) (hf : ∀ x v, Fresh v → Stages G (f x v) v) :
    Stages G ((onHandshake m v).later.attempt.bind f) v := by
  have hcall : (onHandshake m v).Sat Fresh (fun _ _ => True) G (fun v _ => Fresh v) v :=
    (onHandshake_stages m hv).mono hsub fun _ _ hQ => hQ
  refine Outcome.Sat.await_bind (Q := fun v _ => Fresh v) (fun v => hsub v v (.refl v)) ?_ ?_ ?_
    hcall
  · exact fun _ _ hQ => hQ
  · exact fun _ _ _ _ hv' _ => hv'
  · exact fun v x hv => hf x v hv

theorem answer_stages (f : HandshakeFrame) (mtu : ℕ) (next : FrameType) {v : HandshakeView}
    (hv : Fresh v) : Stages Advances (answer P deviceId f mtu next v) v := by
  rw [answer_apply]
  exact onHandshake_bind (fun _ _ => Or.inl) _ hv
    fun x v hv => (afterWrite_stages f mtu next x hv).advances

/-- **The segments of `advanceHandshake`.** -/
theorem advanceHandshake_stages (f : HandshakeFrame) {v : HandshakeView} (hv : Fresh v) :
    Stages Advances (advanceHandshake P deviceId f v) v := by
  rw [advanceHandshake_apply]
  refine onHandshake_bind (fun _ _ => Or.inl) _ hv fun x v hv => ?_
  cases x with
  | error e =>
      exact ⟨Or.inl ⟨readFailed_derived e v, (readFailed_keeps e v).keepsKeys⟩, trivial⟩
  | ok payload =>
      unfold readTail afterRead
      simp only [Co.bind_apply, Co.get_apply, Outcome.bind, Co.ite_apply]
      split
      · exact answer_stages f _ _ hv
      split
      · exact answer_stages f _ _ hv
      · exact (completeHandshake_stages v).advances

/-- A segment of a call whose frame is refused. -/
structure Refuses (v v' : HandshakeView) : Prop where
  derived : v'.derived = v.derived
  keeps : Keeps Nobody v.cs v'.cs
  written : v'.written = v.written

theorem readFailed_written (e : JsError) (v : HandshakeView) :
    (v.readFailed e).written = v.written := by
  unfold HandshakeView.readFailed
  cases e with
  | noiseStateError message => rfl
  | error message | library =>
      dsimp only
      split
      · rfl
      · rfl

/-- **A frame that is refused on sight** is not read, whatever happens meanwhile. -/
theorem refused_stages (f : HandshakeFrame) {v : HandshakeView} (hv : Fresh v)
    (h : RefusedOnSight v.cs.handshake f.payload) :
    Stages Refuses (advanceHandshake P deviceId f v) v := by
  obtain ⟨e, hthrow⟩ := readMessage_refused (P := P) f.readDraws h
  have hread : onHandshake (NoiseXxHandshake.readMessage P f.readDraws f.payload) v =
      .throw v e := by
    unfold onHandshake Co.zoom
    rw [hthrow]
    rfl
  rw [advanceHandshake_apply, hread]
  exact ⟨hv, ⟨rfl, .refl v.cs, rfl⟩, fun _ v' _ _ =>
    ⟨⟨readFailed_derived e v', readFailed_keeps e v', readFailed_written e v'⟩, trivial⟩⟩

/-- What `sendMsg1` does once the message is written. -/
def afterMsg1 (deviceId : DeviceId) (hr : HandshakeReplies) :
    Except JsError Bytes → HandshakeView → AdvanceOutcome
  | .error e, v => .throw v e
  | .ok msg1, v =>
      (Co.ofExcept (chunkFrame msg1 (v.mtu.getD GATT_MTU_DEFAULT) FrameType.HandshakeMsg1) >>=
        fun chunks => writeChunks deviceId hr.writeRx chunks 0 :
          Co Unit HandshakeView JsError Unit) v

theorem sendMsg1_apply (hr : HandshakeReplies) (v : HandshakeView) :
    sendMsg1 P deviceId hr v =
      ((onHandshake (NoiseXxHandshake.writeMessage P hr.writeDraws []) v).later.attempt).bind
        (afterMsg1 deviceId hr) := by
  refine (Outcome.bind_eq_attempt _ _).trans (congrArg _ ?_)
  funext x v
  cases x <;> rfl

/-- Sending msg-1 derives nothing. -/
theorem sendMsg1_stages (hr : HandshakeReplies) {v : HandshakeView} (hv : Fresh v) :
    Stages WorksOn (sendMsg1 P deviceId hr v) v := by
  rw [sendMsg1_apply]
  refine onHandshake_bind (fun _ _ h => h) _ hv fun x v hv => ?_
  cases x with
  | error e => exact ⟨.refl v, trivial⟩
  | ok msg1 =>
      unfold afterMsg1
      dsimp only
      cases chunkFrame msg1 (v.mtu.getD GATT_MTU_DEFAULT) FrameType.HandshakeMsg1 with
      | error e => exact ⟨.refl v, trivial⟩
      | ok chunks =>
          refine (writeChunks_stages hr.writeRx chunks 0 v hv).mono ?_ (fun _ _ _ => trivial)
          rintro v₁ v₂ ⟨hcs, hderived⟩
          refine ⟨hderived, ?_⟩
          rw [hcs]
          exact .refl v₁.cs

/-! ## What the handshake calls write -/

/-- A chunk of a frame of this type. -/
def IsChunk (frameType : FrameType) (chunk : Bytes) : Prop :=
  ∃ payload dataPerChunk total seq, chunk = chunkAt payload dataPerChunk total frameType seq

theorem isChunk_of_mem {payload : Bytes} {mtu : ℕ} {frameType : FrameType} {chunks : List Bytes}
    (h : chunkFrame payload mtu frameType = .ok chunks) {chunk : Bytes} (hc : chunk ∈ chunks) :
    IsChunk frameType chunk := by
  rw [(chunkFrame_eq_ok.mp h).2] at hc
  obtain ⟨seq, -, rfl⟩ := List.mem_map.mp hc
  exact ⟨_, _, _, seq, rfl⟩

/-- Only chunks of these types are written, to this device. -/
def Writes (deviceId : DeviceId) (T : FrameType → Prop) (v v' : HandshakeView) : Prop :=
  ∃ chunks : List Bytes, v'.written = v.written ++ chunks.map (Prod.mk deviceId) ∧
    ∀ chunk ∈ chunks, ∃ t, T t ∧ IsChunk t chunk

theorem Writes.of_same {T : FrameType → Prop} {v v' : HandshakeView}
    (h : v'.written = v.written) : Writes deviceId T v v' :=
  ⟨[], by rw [h]; exact (List.append_nil _).symm, by simp⟩

theorem Writes.trans {T : FrameType → Prop} {v v' v'' : HandshakeView}
    (h : Writes deviceId T v v') (h' : Writes deviceId T v' v'') : Writes deviceId T v v'' := by
  obtain ⟨chunks, hw, hT⟩ := h
  obtain ⟨chunks', hw', hT'⟩ := h'
  refine ⟨chunks ++ chunks', ?_, ?_⟩
  · rw [hw', hw, List.map_append, List.append_assoc]
  · intro chunk hmem
    rcases List.mem_append.mp hmem with hmem | hmem
    · exact hT chunk hmem
    · exact hT' chunk hmem

section Writes

variable {T : FrameType → Prop}

theorem onHandshake_writes (m : Co Unit NoiseXxHandshake JsError α) (v : HandshakeView) :
    Segments (Writes deviceId T) (onHandshake m v) v := by
  refine Outcome.Sat.zoom (I := fun _ => True) (R := fun _ _ => True) (G := fun _ _ => True)
    (Q := fun _ _ => True) ?_ ?_ ?_ ?_ trivial (Outcome.sat_true (m v.cs.handshake) v.cs.handshake)
  · exact fun _ _ _ _ _ => trivial
  · exact fun _ _ _ _ _ _ _ => ⟨trivial, trivial⟩
  · exact fun _ _ _ _ => .of_same rfl
  · exact fun _ _ _ _ _ _ => trivial

theorem established_written (sas : String) (v : HandshakeView) :
    (v.established sas).written = v.written := by
  unfold HandshakeView.established HandshakeView.notifyHandshakeChange HandshakeView.checkPeerKey
  split <;> rfl

theorem completeHandshake_writes (v : HandshakeView) :
    Segments (Writes deviceId T) (completeHandshake P v) v := by
  unfold completeHandshake
  simp only [Co.bind_apply, Co.get_apply, Outcome.bind, Co.ite_apply]
  split
  next =>
    cases v.cs.handshake.split P with
    | error e => exact ⟨.of_same rfl, trivial⟩
    | ok split =>
        dsimp only
        cases RatchetSession.new P ⟨split.sendKey, split.recvKey, v.cs.role⟩ with
        | error e => exact ⟨.of_same rfl, trivial⟩
        | ok session =>
            cases v.cs.handshake.sas with
            | error e => exact ⟨.of_same rfl, trivial⟩
            | ok sas => exact ⟨.of_same (established_written sas _), trivial⟩
  next => exact ⟨.of_same rfl, trivial⟩

theorem writeChunks_writes (outcome : ℕ → Except JsError Unit) {chunks : List Bytes}
    (hchunks : ∀ chunk ∈ chunks, ∃ t, T t ∧ IsChunk t chunk) (i : ℕ) (v : HandshakeView) :
    Segments (Writes deviceId T) (writeChunks deviceId outcome chunks i v) v := by
  induction chunks generalizing i v with
  | nil => exact ⟨.of_same rfl, trivial⟩
  | cons chunk chunks ih =>
      have hwrite : Writes deviceId T v { v with written := v.written ++ [(deviceId, chunk)] } := by
        refine ⟨[chunk], rfl, fun c hc => ?_⟩
        rw [List.mem_singleton.mp hc]
        exact hchunks chunk List.mem_cons_self
      unfold writeChunks
      simp only [Co.bind_apply, writeRx, Co.modify_apply, Outcome.bind, Co.await]
      cases outcome i with
      | ok u =>
          exact ⟨trivial, hwrite, fun _ v' _ _ =>
            ih (fun c hc => hchunks c (List.mem_cons_of_mem _ hc)) (i + 1) v'⟩
      | error e => exact ⟨trivial, hwrite, fun _ v' _ _ => ⟨.of_same rfl, trivial⟩⟩

theorem writeFrame_writes (msg : Bytes) (mtu : ℕ) {next : FrameType} (hnext : T next)
    (outcome : ℕ → Except JsError Unit) (v : HandshakeView) :
    Segments (Writes deviceId T) ((Co.ofExcept (chunkFrame msg mtu next) >>= fun chunks =>
      writeChunks deviceId outcome chunks 0 : Co Unit HandshakeView JsError Unit) v) v := by
  cases hchunks : chunkFrame msg mtu next with
  | error e => exact ⟨.of_same rfl, trivial⟩
  | ok chunks =>
      exact writeChunks_writes outcome (fun c hc => ⟨next, hnext, isChunk_of_mem hchunks hc⟩) 0 v

theorem afterWrite_writes {f : HandshakeFrame} {mtu : ℕ} {next : FrameType} (hnext : T next)
    (x : Except JsError Bytes) (v : HandshakeView) :
    Segments (Writes deviceId T) (afterWrite P deviceId f mtu next x v) v := by
  cases x with
  | error e => exact ⟨.of_same rfl, trivial⟩
  | ok msg =>
      have hwrite : Segments (Writes deviceId T) _ v :=
        (writeFrame_writes msg mtu hnext f.writeRx v).attempt (fun _ _ _ => trivial)
      have habsorb : ∀ v₁ v₂ v₃ : HandshakeView, Writes deviceId T v₁ v₂ →
          Writes deviceId T v₂ v₃ → Writes deviceId T v₁ v₃ := fun _ _ _ h h' => h.trans h'
      have hafter : ∀ (v : HandshakeView) (y : Except JsError Unit),
          True → Segments (Writes deviceId T) (afterAnswer P y v) v := by
        intro v y _
        cases y with
        | error e => exact ⟨.of_same rfl, trivial⟩
        | ok u => exact completeHandshake_writes v
      exact Outcome.Sat.bind (fun _ _ h => h) habsorb hafter (fun _ _ _ => trivial) hwrite

theorem answer_writes {f : HandshakeFrame} {mtu : ℕ} {next : FrameType} (hnext : T next)
    (v : HandshakeView) : Segments (Writes deviceId T) (answer P deviceId f mtu next v) v := by
  rw [answer_apply]
  exact (onHandshake_writes _ v).await_bind (fun _ => .of_same rfl) (fun _ _ _ => trivial)
    (fun _ _ _ _ _ _ => trivial) (fun v x _ => afterWrite_writes hnext x v)

/-- An answer is a message 2 or 3. -/
theorem advanceHandshake_writes (f : HandshakeFrame) (v : HandshakeView) :
    Segments (Writes deviceId (· ≠ FrameType.HandshakeMsg1)) (advanceHandshake P deviceId f v) v := by
  rw [advanceHandshake_apply]
  refine (onHandshake_writes _ v).await_bind (fun _ => .of_same rfl) (fun _ _ _ => trivial)
    (fun _ _ _ _ _ _ => trivial) (fun v x _ => ?_)
  cases x with
  | error e => exact ⟨.of_same (readFailed_written e v), trivial⟩
  | ok payload =>
      unfold readTail afterRead
      simp only [Co.bind_apply, Co.get_apply, Outcome.bind, Co.ite_apply]
      split
      · exact answer_writes (by decide) v
      split
      · exact answer_writes (by decide) v
      · exact completeHandshake_writes v

theorem sendMsg1_writes (hr : HandshakeReplies) (v : HandshakeView) :
    Segments (Writes deviceId (· = FrameType.HandshakeMsg1)) (sendMsg1 P deviceId hr v) v := by
  rw [sendMsg1_apply]
  refine (onHandshake_writes _ v).await_bind (fun _ => .of_same rfl) (fun _ _ _ => trivial)
    (fun _ _ _ _ _ _ => trivial) (fun v x _ => ?_)
  cases x with
  | error e => exact ⟨.of_same rfl, trivial⟩
  | ok msg1 =>
      exact writeFrame_writes (T := (· = FrameType.HandshakeMsg1)) msg1
        (v.mtu.getD GATT_MTU_DEFAULT) rfl hr.writeRx v

end Writes

end Calls

end Oxpulse.Transport
