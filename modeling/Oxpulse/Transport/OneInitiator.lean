import Oxpulse.Transport.BackoffWindow
import Oxpulse.Transport.MeshWrites

/-!
# At most one side starts the handshake

Each side takes its role from the two peer ids (`roleFor`), but only where it connected
to the other itself. So of two devices only the one with the smaller id ever writes
msg-1 to the other, and only after an attempt of its own to connect to it ended well
(`at_most_one_initiator`). Where only the other one connected, nobody writes.
-/

namespace Oxpulse.Transport

open Oxpulse.Coroutine Oxpulse.Crypto

/-! ## The type of a chunk -/

theorem IsChunk.type_unique {t t' : FrameType} {chunk : Bytes} (h : IsChunk t chunk)
    (h' : IsChunk t' chunk) : t = t' := by
  obtain ⟨payload, dataPerChunk, total, seq, rfl⟩ := h
  obtain ⟨payload', dataPerChunk', total', seq', heq⟩ := h'
  unfold chunkAt at heq
  simp only [List.cons_append, List.nil_append, List.cons.injEq] at heq
  have htypes := congrArg (fun b : UInt8 => b.toNat / 16) heq.2.1
  have ht := t.isLt
  have ht' := t'.isLt
  have hseq := Nat.mod_lt seq (by decide : 0 < 16)
  have hseq' := Nat.mod_lt seq' (by decide : 0 < 16)
  simp only [UInt8.toNat_ofNat'] at htypes
  apply Fin.ext
  omega

/-! ## What is written over a run -/

section Written

variable {P : Primitives} {m m' : Mesh} {n : ℕ} {e : Event}

/-- An entry writes nothing and draws no id. -/
theorem Enters.leaves (h : Enters e m m') : m'.written = m.written ∧ m'.peerId = m.peerId := by
  cases h with
  | disconnected d =>
      obtain ⟨_, _, heq⟩ := disconnected_eq d (m.number.outboundDown d)
      rw [heq]
      exact ⟨rfl, rfl⟩
  | dropped d =>
      obtain ⟨_, _, heq⟩ := disconnected_eq d (m.number.inboundDown d)
      rw [heq]
      exact ⟨rfl, rfl⟩
  | connected d =>
      obtain ⟨_, heq⟩ := connectedInbound_eq d (m.number.inboundUp d)
      rw [heq]
      exact ⟨rfl, rfl⟩
  | timeouts =>
      obtain ⟨_, _, _, heq⟩ := checkHandshakeTimeouts_onlyObjects m.number
      rw [heq]
      exact ⟨rfl, rfl⟩
  | accepts p =>
      obtain ⟨_, _, _, heq⟩ := acceptPeer_onlyObjects p m.number
      rw [heq]
      exact ⟨rfl, rfl⟩
  | rejects p =>
      obtain ⟨_, _, _, heq⟩ := rejectPeer_onlyObjects p m.number
      rw [heq]
      exact ⟨rfl, rfl⟩
  | _ => exact ⟨rfl, rfl⟩

/-- The call is not one of `sendFrame`, or has not got to its chunks. -/
def Unsending (φ : Option Flight) : Prop := ∀ p ref d, φ ≠ some (.sending p ref d)

theorem Flight.Next.unsending {objects objects' : ℕ} {φ φ' : Option Flight}
    (h : Flight.Next objects objects' φ φ') (hφ : Unsending φ) : Unsending φ' := by
  cases h with
  | same => exact hφ
  | _ =>
      intro p ref d heq
      cases heq

/-- Only `sendFrame` gets to send. -/
theorem Enters.unsending (h : Enters e m m') (hnone : m.flight m.calls = none)
    (he : ∀ p frame writeRx, e ≠ .sendFrame p frame writeRx) : Unsending (m'.flight m.calls) := by
  intro p ref d hf
  rcases h.flights hf with hold | ⟨-, hbegins⟩
  · rw [hnone] at hold
    cases hold
  · cases hbegins with
    | takes _ _ _ htakes =>
        cases htakes with
        | sendFrame => exact he _ _ _ rfl
    | routes _ _ _ _ _ _ _ _ hroutes => cases hroutes

/-- What holds of the log of written chunks, and goes on to hold with the chunks of a
session frame. -/
structure Logs (K : List (DeviceId × Bytes) → Prop) : Prop where
  session : ∀ log d chunk, IsChunk FrameType.SessionData chunk → K log → K (log ++ [(d, chunk)])

variable {K : List (DeviceId × Bytes) → Prop}

/-- The segments of `sendFrame` keep it. -/
abbrev KeepsLog (K : List (DeviceId × Bytes) → Prop) (m m' : Mesh) : Prop :=
  K m.written → K m'.written

theorem Logs.sendChunks (hK : Logs K) {chunks : List Bytes}
    (hchunks : ∀ chunk ∈ chunks, IsChunk FrameType.SessionData chunk) (p : PeerIdHex) (ref : ℕ)
    (deviceId : DeviceId) (writeRx : ℕ → Except JsError Unit) (i : ℕ) (m : Mesh) :
    Co.Triple (fun _ _ => True) (KeepsLog K) (fun _ _ => True)
      (sendChunks n p ref deviceId writeRx chunks i) m := by
  induction chunks generalizing i m with
  | nil => exact Co.Triple.value (fun _ h => h) trivial
  | cons chunk chunks ih =>
      have htrans : ∀ a b c : Mesh, KeepsLog K a b → KeepsLog K b c → KeepsLog K a c :=
        fun _ _ _ h h' hk => h' (h hk)
      refine Co.Triple.bind (Q := fun _ _ => True) htrans ?_ ?_ fun _ _ _ => trivial
      · refine Co.Triple.assign_bind htrans ?_ ?_
        · exact hK.session _ _ _ (hchunks chunk List.mem_cons_self)
        · refine Co.Triple.await (Q := fun _ _ => True) (fun _ h => h) (fun _ _ _ _ _ => trivial) ?_
          exact Co.Triple.ofExcept (fun _ h => h) trivial
      · exact fun m' _ _ => ih (fun c hc => hchunks c (List.mem_cons_of_mem _ hc)) (i + 1) m'

theorem Logs.sendFrame (hK : Logs K) (p : PeerIdHex) (frame : Bytes)
    (writeRx : ℕ → Except JsError Unit) (m : Mesh) :
    Co.Triple (fun _ _ => True) (KeepsLog K) (fun _ _ => True) (sendFrame P n p frame writeRx) m := by
  have htrans : ∀ a b c : Mesh, KeepsLog K a b → KeepsLog K b c → KeepsLog K a c :=
    fun _ _ _ h h' hk => h' (h hk)
  have hsame : ∀ (ref k : ℕ) (s : RatchetSession) (m : Mesh),
      (m.setSession ref k s).written = m.written := by
    intro ref k s m
    obtain ⟨_, _, _, heq⟩ := setSession_onlyObjects ref k s m
    rw [heq]
  show Co.Triple _ _ _ (get >>= _) m
  show Co.Triple _ _ _ (Co.ofExcept (m.sendTarget p) >>= _) m
  refine Co.Triple.bind (Q := fun _ _ => True) htrans
    (Co.Triple.ofExcept (fun _ h => h) trivial) ?_ fun _ _ _ => trivial
  intro m₁ t _
  refine Co.Triple.assign_bind htrans (fun h => h) ?_
  refine Co.Triple.bind (Q := fun _ _ => True) htrans ?_ ?_ fun _ _ _ => trivial
  · refine Co.Triple.await (Q := fun _ _ => True) (fun _ h => h) (fun _ _ _ _ _ => trivial) ?_
    refine Outcome.Sat.zoom (I := fun _ => True) (R := fun _ _ => True) (G := fun _ _ => True)
      (Q := fun _ _ => True) ?_ ?_ ?_ ?_ trivial (Outcome.sat_true _ _)
    · exact fun _ _ _ _ _ => trivial
    · exact fun _ _ _ _ _ _ _ => ⟨trivial, trivial⟩
    · intro m' s' _ _ hk
      rwa [hsame]
    · exact fun _ _ _ _ _ _ => trivial
  · intro m₂ ciphertext _
    cases hcut : chunkFrame ciphertext
        ((m.mtuCache.get? t.deviceId).getD GATT_MTU_DEFAULT) FrameType.SessionData with
    | error err => exact Co.Triple.raise (fun _ h => h) trivial
    | ok chunks =>
        exact hK.sendChunks (fun c hc => isChunk_of_mem hcut hc) p t.ref t.deviceId writeRx 0 m₂

/-- A segment that, where it is one of `sendFrame`, keeps the log. -/
structure LoggedSegment (P : Primitives) (K : List (DeviceId × Bytes) → Prop) (n : ℕ) (e : Event)
    (m m' : Mesh) : Prop where
  segment : Segment P n e m m'
  log : ∀ p frame writeRx, e = .sendFrame p frame writeRx → KeepsLog K m m'

theorem compatible_logged (P : Primitives) (K : List (DeviceId × Bytes) → Prop) :
    Pool.Compatible Counted (fun (_ : Move Event Unit) _ _ => True) (fun _ => Enters)
      (LoggedSegment P K) Rely := by
  have h := compatible (P := P) fun _ _ _ => True
  constructor
  · exact h.refl
  · exact h.trans
  · exact fun i j e m m₀ m' hj hc hE hG => h.start i j e m m₀ m' hj hc hE hG.segment
  · exact fun i j e r m m' hne hG => h.resume i j e r m m' hne hG.segment
  · exact fun i e m m₀ m' hc hE hG => h.enters i e m m₀ m' hc hE hG.segment
  · exact fun k i e m m' hi hc hG => h.counts k i e m m' hi hc hG.segment

theorem Logs.opens (hK : Logs K) (e : Event) (hf : m.flight m.calls = none) :
    Pool.Opens (fun _ => Enters) (LoggedSegment P K) Rely Settles (handle P) m.calls e m := by
  obtain ⟨m₀, henters, hsat⟩ := handle_opens (P := P) e hf
  have hlogs : (handle P e m).Sat (fun _ => True) (fun _ _ => True)
      (fun a b => ∀ p frame writeRx, e = .sendFrame p frame writeRx → KeepsLog K a b)
      (fun _ _ => True) m₀ := by
    cases e with
    | sendFrame p frame writeRx =>
        have hsend := hK.sendFrame (P := P) (n := m.calls) p frame writeRx m.number
        have hlanding : Co.Triple (fun _ _ => True) (KeepsLog K) (fun _ _ => True)
            (landing m.calls (Oxpulse.Transport.sendFrame P m.calls p frame writeRx)) m.number := by
          refine Co.Triple.attempt_bind (fun _ _ _ h h' hk => h' (h hk)) hsend fun m₁ x _ => ?_
          cases x with
          | error err => exact ⟨fun h => h, trivial⟩
          | ok u => exact ⟨fun h => h, trivial⟩
        have hentry : ∀ m₁, KeepsLog K m.number m₁ → KeepsLog K m₀ m₁ := by
          intro m₁ h hk
          rw [henters.leaves.1] at hk
          exact h hk
        exact (Outcome.Sat.precede hentry hlanding).mono (fun _ _ h _ _ _ _ => h) fun _ _ h => h
    | _ =>
        refine (Outcome.sat_true _ _).mono (fun a b _ => ?_) fun _ _ h => h
        intro _ _ _ he
        cases he
  have hboth := hsat.and hlogs
  simp only [and_self, and_true] at hboth
  exact ⟨m₀, henters, hboth.mono (fun _ _ h => ⟨h.1, h.2⟩) fun _ _ h => h⟩

theorem Logs.stepCase (hK : Logs K) (hm : Counted 0 m) (ms : List (Move Event Unit))
    (mv : Move Event Unit) :
    Pool.StepCase (fun _ => Enters) (LoggedSegment P K) Settles (meshRun P m ms)
      ((meshRun P m ms).step (handle P) mv) mv := by
  have hopens : ∀ (pre : List (Move Event Unit)) e,
      Counted (meshRun P m pre).calls.length (meshRun P m pre).shared →
        Pool.Opens (fun _ => Enters) (LoggedSegment P K) Rely Settles (handle P)
          (meshRun P m pre).calls.length e (meshRun P m pre).shared := by
    intro pre e hcount
    have h := hK.opens (P := P) e (hcount.2 _ (le_of_eq hcount.1.symm))
    rw [hcount.1] at h
    exact h
  have hsound : (meshRun P m ms).Sound Counted (LoggedSegment P K) Rely Settles :=
    Pool.exec_sound (compatible_logged P K) (Pool.fresh_sound hm) ms (fun _ _ _ _ => trivial)
      fun pre e _ _ hpre => hopens pre e hpre.count
  exact hsound.stepCase (compatible_logged P K) mv fun e _ => hopens ms e hsound.count

/-- A call of the run was started in it. -/
theorem meshRun_started {ms : List (Move Event Unit)} {i : ℕ}
    {st : Status Unit Mesh JsError Unit} (h : (meshRun P m ms).calls[i]? = some ⟨e, st⟩) :
    e ∈ starts ms := by
  have hargs : (meshRun P m ms).calls.map Call.arg = starts ms :=
    Pool.exec_args ms (Pool.fresh m)
  have hmem : e ∈ (meshRun P m ms).calls.map Call.arg :=
    List.mem_map_of_mem (f := Call.arg) (List.mem_of_getElem? h)
  rw [hargs] at hmem
  exact hmem

/-- What is known of the segment of a step: of the first one of a call from what its entry
leaves, of any later one from the state that the step finds. -/
structure StepKnown (P : Primitives) (F : ℕ → Event → Mesh → Mesh → Prop) (p : MeshPool)
    (mv : Move Event Unit) : Prop where
  start : ∀ e m₀, mv = .start e → Enters e p.shared m₀ →
    F p.calls.length e m₀ (p.step (handle P) mv).shared
  resume : ∀ i u e k, mv = .resume i u → p.calls[i]? = some ⟨e, .pending k⟩ →
    F i e p.shared (p.step (handle P) mv).shared

/-- **Invariants of the log.** The segments of `sendFrame` are none of the caller's
business, and of each other one it has what is known of the step. -/
theorem Logs.meshRun {J : Mesh → Prop} {F : ℕ → Event → Mesh → Mesh → Prop} (hK : Logs K)
    (hm : Counted 0 m) (hJ : J m) (hlog : K m.written) {ms : List (Move Event Unit)}
    (hF : ∀ pre mv post, ms = pre ++ mv :: post → StepKnown P F (meshRun P m pre) mv)
    (henters : ∀ e m m₀, Enters e m m₀ → J m → J m₀)
    (hchain : ∀ n e m m', F n e m m' → Chain P n e m m' → J m → J m')
    (hwrites : ∀ n e m m', F n e m m' → Chain P n e m m' → Unsending (m.flight n) → J m →
      K m.written → K m'.written) :
    J (meshRun P m ms).shared ∧ K (meshRun P m ms).shared.written := by
  have hunsent : ∀ n e m m', Chain P n e m m' → Unsending (m.flight n) → Unsending (m'.flight n) :=
    fun n e m m' h hφ => h.keeps (J := fun m => Unsending (m.flight n))
      (fun _ _ hatom hφ => hatom.next.unsending hφ) hφ
  -- Where a call stands, it is known whether it is one of `sendFrame`.
  suffices h : (∀ (i : ℕ) e (st : Status Unit Mesh JsError Unit),
      (Transport.meshRun P m ms).calls[i]? = some ⟨e, st⟩ →
        (∀ p frame writeRx, e ≠ .sendFrame p frame writeRx) →
          Unsending ((Transport.meshRun P m ms).shared.flight i)) ∧
      J (Transport.meshRun P m ms).shared ∧ K (Transport.meshRun P m ms).shared.written from h.2
  induction ms using List.reverseRecOn with
  | nil =>
      refine ⟨fun i e st hcall => ?_, hJ, hlog⟩
      cases hcall
  | append_singleton ms mv ih =>
      obtain ⟨hcalls, hj, hk⟩ := ih fun pre mv' post heq =>
        hF pre mv' (post ++ [mv]) (by simp [heq])
      have hknown := hF ms mv [] rfl
      have hcount := (meshRun_sound (P := P) hm ms).count
      have hstep := hK.stepCase (P := P) hm ms mv
      rw [meshRun_concat]
      cases hstep with
      | idle _ hidle =>
          rw [hidle]
          exact ⟨hcalls, hj, hk⟩
      | start e m₀ st hentry hG hlist _ =>
          have hf := hknown.start e m₀ rfl hentry
          have hj₀ := henters e _ m₀ hentry hj
          have hk₀ : K m₀.written := by
            rw [hentry.leaves.1]
            exact hk
          have hchain' := hG.segment.chain
          -- Before its entry a call has no flight.
          have hunsending : (∀ p frame writeRx, e ≠ .sendFrame p frame writeRx) →
              Unsending (m₀.flight (Transport.meshRun P m ms).calls.length) := by
            intro he
            have hφ := hentry.unsending (hcount.2 _ (le_of_eq hcount.1.symm)) he
            rwa [hcount.1] at hφ
          refine ⟨?_, hchain _ e _ _ hf hchain' hj₀, ?_⟩
          · intro i e' st' hcall he'
            rw [hlist] at hcall
            rcases Pool.concat_cases hcall with ⟨hlt, hold⟩ | ⟨rfl, hnew⟩
            · have hne := Nat.ne_of_lt hlt
              rw [hchain'.flight_ne hne, hentry.flight_ne (by rw [hcount.1]; exact hne)]
              exact hcalls i e' st' hold he'
            · cases hnew
              exact hunsent _ e _ _ hchain' (hunsending he')
          · by_cases hsend : ∃ p frame writeRx, e = .sendFrame p frame writeRx
            · obtain ⟨p, frame, writeRx, heq⟩ := hsend
              exact hG.log p frame writeRx heq hk₀
            · apply hwrites _ e _ _ hf hchain' (hunsending ?_) hj₀ hk₀
              exact fun p frame writeRx heq => hsend ⟨p, frame, writeRx, heq⟩
      | resume j e r k st hpending hG hlist _ =>
          have hf := hknown.resume j r e k rfl hpending
          have hchain' := hG.segment.chain
          refine ⟨?_, hchain j e _ _ hf hchain' hj, ?_⟩
          · intro i e' st' hcall he'
            rw [hlist] at hcall
            rcases Pool.set_cases hcall with ⟨hne, hold⟩ | ⟨rfl, hnew⟩
            · rw [hchain'.flight_ne (Ne.symm hne)]
              exact hcalls i e' st' hold he'
            · cases hnew
              exact hunsent _ e _ _ hchain' (hcalls _ e _ hpending he')
          · by_cases hsend : ∃ p frame writeRx, e = .sendFrame p frame writeRx
            · obtain ⟨p, frame, writeRx, heq⟩ := hsend
              exact hG.log p frame writeRx heq hk
            · apply hwrites _ e _ _ hf hchain' (hcalls _ e _ hpending ?_) hj hk
              exact fun p frame writeRx heq => hsend ⟨p, frame, writeRx, heq⟩

end Written

/-! ## Roles -/

/-- The initiator's id is the smaller one. -/
theorem roleFor_eq_initiator_iff {ours theirs : Bytes} (h : ours.length = theirs.length) :
    Mesh.roleFor ours theirs = .initiator ↔ ours < theirs ∨ ours = theirs := by
  induction ours generalizing theirs with
  | nil =>
      cases theirs with
      | nil => simp [Mesh.roleFor]
      | cons b theirs => cases h
  | cons a ours ih =>
      cases theirs with
      | nil => cases h
      | cons b theirs =>
          rw [List.cons_lt_cons_iff, List.cons.injEq]
          unfold Mesh.roleFor
          by_cases heq : a = b
          · subst heq
            simp [ih (Nat.succ.inj h), UInt8.lt_irrefl]
          · rcases UInt8.lt_or_lt_of_ne heq with hlt | hgt
            · simp [hlt]
            · simp [hgt, heq, UInt8.lt_asymm hgt]

/-! ## Who may write msg-1 -/

section Initiates

variable {P : Primitives} {E : Event → Prop} {C : DeviceId → Prop} {m m' : Mesh} {n : ℕ} {e : Event}

/-- An id was drawn, and a device to which we connected sighted with one that makes us
the initiator. -/
structure Initiates (E : Event → Prop) (C : DeviceId → Prop) (d : DeviceId) (r : StartReplies)
    (s : Mesh.PeerSighting) : Prop where
  started : E (.startMesh r)
  sighted : ∃ c id hr, E (.sighting s c id hr)
  device : s.deviceId = d
  role : Mesh.roleFor r.peerId s.peerId = .initiator
  connected : C d

/-- Msg-1 went to the device. -/
def SendsMsg1 (d : DeviceId) (m : Mesh) : Prop :=
  ∃ chunk, (d, chunk) ∈ m.written ∧ IsChunk FrameType.HandshakeMsg1 chunk

/-- The id is one that was drawn, and who has opened a handshake as the initiator may. -/
structure Roles (E : Event → Prop) (C : DeviceId → Prop) (m : Mesh) : Prop where
  drawn : ∀ own, m.peerId = some own → ∃ r, E (.startMesh r) ∧ r.peerId = own
  opening : ∀ i d, m.flight i = some (.opening d) → C d
  opened : ∀ i ref d, m.flight i = some (.opened ref d .initiator) → ∃ r s, Initiates E C d r s

/-- Every msg-1 of the log is the initiator's. -/
def Msg1sBacked (E : Event → Prop) (C : DeviceId → Prop) (log : List (DeviceId × Bytes)) : Prop :=
  ∀ d chunk, (d, chunk) ∈ log → IsChunk FrameType.HandshakeMsg1 chunk → ∃ r s, Initiates E C d r s

theorem msg1sBacked_append {log log' : List (DeviceId × Bytes)} (h : Msg1sBacked E C log)
    (h' : Msg1sBacked E C log') : Msg1sBacked E C (log ++ log') := by
  intro d chunk hmem
  rcases List.mem_append.mp hmem with hold | hnew
  · exact h d chunk hold
  · exact h' d chunk hnew

theorem msg1sBacked_map {d : DeviceId} {chunks : List Bytes} {T : FrameType → Prop}
    (hchunks : ∀ chunk ∈ chunks, ∃ t, T t ∧ IsChunk t chunk)
    (h : T FrameType.HandshakeMsg1 → ∃ r s, Initiates E C d r s) :
    Msg1sBacked E C (chunks.map (Prod.mk d)) := by
  intro d' chunk hmem hmsg1
  obtain ⟨chunk', hchunk', heq⟩ := List.mem_map.mp hmem
  cases heq
  obtain ⟨t, ht, hchunk⟩ := hchunks chunk hchunk'
  rw [hchunk.type_unique hmsg1] at ht
  exact h ht

theorem logs_msg1sBacked : Logs (Msg1sBacked E C) where
  session := by
    intro log d chunk hchunk hlog
    have hchunks : ∀ c ∈ [chunk], ∃ t, t = FrameType.SessionData ∧ IsChunk t c := by
      intro c hc
      rw [List.mem_singleton] at hc
      exact ⟨FrameType.SessionData, rfl, hc ▸ hchunk⟩
    refine msg1sBacked_append hlog (msg1sBacked_map hchunks ?_)
    intro h
    cases h

/-! ### The atoms and the entries keep it -/

theorem Atom.peerId_cases (h : Atom P n e m m') : m'.peerId = m.peerId ∨ m'.peerId = none ∨
    ∃ r, e = .startMesh r ∧ m'.peerId = some r.peerId := by
  cases h with
  | setPeerId r => exact Or.inr (Or.inr ⟨r, rfl, rfl⟩)
  | clears => exact Or.inr (Or.inl rfl)
  | failHandshake _ cs _ _ =>
      obtain ⟨_, _, _, heq⟩ := failHandshake_onlyObjects cs m
      rw [heq]
      exact Or.inl rfl
  | setSession _ ref k s _ _ =>
      obtain ⟨_, _, _, heq⟩ := setSession_onlyObjects ref k s m
      rw [heq]
      exact Or.inl rfl
  | removed r j handle =>
      refine Or.inl ?_
      split
      · rfl
      · rfl
  | _ => exact Or.inl rfl

/-- How an assignment brings its call to a handshake: a connect attempt succeeds, or the
handshake is opened in the role that the ids give. -/
inductive Opening (n : ℕ) : Event → Mesh → Mesh → Prop where
  | same (e : Event) (m m' : Mesh) : m'.flight n = m.flight n → Opening n e m m'
  | connects (s : Mesh.PeerSighting) (c : ConnectReplies) (id : IdentityReplies)
      (hr : HandshakeReplies) (m m' : Mesh) : c.Succeeds → m.flight n = some (.linked s.deviceId) →
      m'.flight n = some (.opening s.deviceId) → Opening n (.sighting s c id hr) m m'
  | creates (s : Mesh.PeerSighting) (c : ConnectReplies) (id : IdentityReplies)
      (hr : HandshakeReplies) (m m' : Mesh) (own : Bytes) (ref : ℕ) :
      m.flight n = some (.opening s.deviceId) → m.peerId = some own →
      m'.flight n = some (.opened ref s.deviceId (Mesh.roleFor own s.peerId)) →
      Opening n (.sighting s c id hr) m m'
  | elsewhere (e : Event) (m m' : Mesh) : (∀ d, m'.flight n ≠ some (.opening d)) →
      (∀ ref d role, m'.flight n ≠ some (.opened ref d role)) → Opening n e m m'

theorem opening_of_flight {φ : Option Flight} (h : m'.flight n = φ)
    (hopening : ∀ d, φ ≠ some (.opening d))
    (hopened : ∀ ref d role, φ ≠ some (.opened ref d role)) : Opening n e m m' :=
  .elsewhere e m m' (fun d => h ▸ hopening d) fun ref d role => h ▸ hopened ref d role

theorem Atom.opening (h : Atom P n e m m') : Opening n e m m' := by
  cases h with
  | connectedOutbound s c id hr _ hf hsucceeds =>
      exact .connects s c id hr _ _ hsucceeds hf flight_launch_self
  | opened s c id hr _ identity ourPeerId hf hown =>
      exact .creates s c id hr _ _ ourPeerId _ hf hown flight_launch_self
  | linkUp =>
      refine opening_of_flight flight_launch_self ?_ ?_
      · simp
      · simp
  | bootstrapped deviceId chunk id hr _ identity role peerIdHex payload =>
      refine opening_of_flight flight_launch_self ?_ ?_
      · intro d
        split
        · simp
        · simp
      · intro ref d role
        split
        · simp
        · simp
  | failHandshake _ cs _ _ =>
      obtain ⟨_, _, _, heq⟩ := failHandshake_onlyObjects cs m
      exact .same _ _ _ (by rw [heq]; rfl)
  | setSession _ ref k s _ _ =>
      obtain ⟨_, _, _, heq⟩ := setSession_onlyObjects ref k s m
      exact .same _ _ _ (by rw [heq]; rfl)
  | lands =>
      refine opening_of_flight flight_land_self ?_ ?_
      · simp
      · simp
  | concludes | begins | listens | pushesRemover | runs | scanOff | advertisingOff | gattServerOff
  | timersOff | disconnects | removes | removed =>
      refine opening_of_flight flight_launch_self ?_ ?_
      · simp
      · simp
  | _ => exact .same _ _ _ rfl

/-- What is known of a segment: its event, and where it ended an attempt well, that we
connected to the device. -/
structure Recorded (E : Event → Prop) (C : DeviceId → Prop) (n : ℕ) (e : Event) (m m' : Mesh) :
    Prop where
  event : E e
  ended : ∀ s c id hr, e = .sighting s c id hr → c.Succeeds → Waiting n m → ¬ Waiting n m' →
    C s.deviceId

/-- What is known of a segment is known of each of its atoms. -/
theorem Recorded.between {a b : Mesh} (h : Recorded E C n e m m') (hbefore : Chain P n e m a)
    (hafter : Chain P n e b m') : Recorded E C n e a b where
  event := h.event
  ended := by
    intro s c id hr he hsucceeds hwaits hended
    apply h.ended s c id hr he hsucceeds
    · by_contra hnot
      exact Chain.not_waiting hbefore hnot hwaits
    · exact Chain.not_waiting hafter hended

theorem Roles.atom (hm : Roles E C m) (hrecorded : Recorded E C n e m m') (h : Atom P n e m m') :
    Roles E C m' := by
  have hne : ∀ i, i ≠ n → m'.flight i = m.flight i := fun i hi => h.flight_ne hi
  refine ⟨fun own hown => ?_, fun i d hf => ?_, fun i ref d hf => ?_⟩
  · rcases h.peerId_cases with hsame | hnone | ⟨r, rfl, hdraws⟩
    · exact hm.drawn own (hsame ▸ hown)
    · rw [hnone] at hown
      cases hown
    · rw [hdraws] at hown
      exact ⟨r, hrecorded.event, Option.some.inj hown⟩
  · by_cases hi : i = n
    · subst hi
      cases h.opening with
      | same _ _ _ hsame => exact hm.opening i d (hsame ▸ hf)
      | connects s c id hr _ _ hsucceeds hlinked hf' =>
          have hended := hrecorded.ended s c id hr rfl hsucceeds (waiting_of_linked hlinked)
            (not_waiting_of_flight hf' rfl)
          rw [hf'] at hf
          cases hf
          exact hended
      | creates s c id hr _ _ own ref _ _ hf' =>
          rw [hf'] at hf
          cases hf
      | elsewhere _ _ _ hopening => exact absurd hf (hopening d)
    · exact hm.opening i d (hne i hi ▸ hf)
  · by_cases hi : i = n
    · subst hi
      cases h.opening with
      | same _ _ _ hsame => exact hm.opened i ref d (hsame ▸ hf)
      | connects s c id hr _ _ _ _ hf' =>
          rw [hf'] at hf
          cases hf
      | creates s c id hr _ _ own ref' hopening hown hf' =>
          rw [hf'] at hf
          injection hf with hf
          injection hf with _ hd hrole
          obtain ⟨r, hstarted, rfl⟩ := hm.drawn own hown
          have hconnected := hm.opening i s.deviceId hopening
          exact ⟨r, s, hstarted, ⟨c, id, hr, hrecorded.event⟩, hd, hrole, hd ▸ hconnected⟩
      | elsewhere _ _ _ _ hopened => exact absurd hf (hopened ref d .initiator)
    · exact hm.opened i ref d (hne i hi ▸ hf)

theorem Atom.msg1sBacked (h : Atom P n e m m') (hm : Roles E C m) (hφ : Unsending (m.flight n))
    (hlog : Msg1sBacked E C m.written) : Msg1sBacked E C m'.written := by
  cases h with
  | sendsMsg1 _ ref d v _ hf _ hwrites =>
      obtain ⟨chunks, hwritten, hchunks⟩ := hwrites
      show Msg1sBacked E C v.written
      rw [hwritten]
      exact msg1sBacked_append hlog (msg1sBacked_map hchunks fun _ => hm.opened n ref d hf)
  | advances _ ref d v _ _ _ hwrites | concludes _ ref d v _ _ _ hwrites =>
      obtain ⟨chunks, hwritten, hchunks⟩ := hwrites
      show Msg1sBacked E C v.written
      rw [hwritten]
      exact msg1sBacked_append hlog (msg1sBacked_map hchunks fun h => absurd rfl h)
  | refuses _ ref d v _ _ hrefuses =>
      show Msg1sBacked E C v.written
      rw [hrefuses.written]
      exact hlog
  | sent _ entry _ _ hf => exact absurd hf (hφ _ _ _)
  | failHandshake _ cs _ _ =>
      obtain ⟨_, _, _, heq⟩ := failHandshake_onlyObjects cs m
      rw [heq]
      exact hlog
  | setSession _ ref k s _ _ =>
      obtain ⟨_, _, _, heq⟩ := setSession_onlyObjects ref k s m
      rw [heq]
      exact hlog
  | removed r j handle =>
      show Msg1sBacked E C ((if (r.remove j).isOk then m.unlisten handle else m).launch n _).written
      split
      · exact hlog
      · exact hlog
  | _ => exact hlog

/-- No call begins at a handshake. -/
theorem Roles.enters (hm : Roles E C m) (h : Enters e m m') : Roles E C m' := by
  refine ⟨fun own hown => hm.drawn own (h.leaves.2 ▸ hown), fun i d hf => ?_, fun i ref d hf => ?_⟩
  · rcases h.flights hf with hold | ⟨-, hbegins⟩
    · exact hm.opening i d hold
    · cases hbegins with
      | takes _ _ _ htakes => cases htakes
      | routes _ _ _ _ _ _ _ _ hroutes => cases hroutes
  · rcases h.flights hf with hold | ⟨-, hbegins⟩
    · exact hm.opened i ref d hold
    · cases hbegins with
      | takes _ _ _ htakes => cases htakes
      | routes _ _ _ _ _ _ _ _ hroutes => cases hroutes

/-! ### The segments -/

theorem Roles.chain (hm : Roles E C m) (hrecorded : Recorded E C n e m m') (h : Chain P n e m m') :
    Roles E C m' :=
  h.keeps_between
    (fun _ _ hbefore hatom hafter ha => ha.atom (hrecorded.between hbefore hafter) hatom) hm

theorem Chain.msg1sBacked (h : Chain P n e m m') (hrecorded : Recorded E C n e m m')
    (hm : Roles E C m) (hφ : Unsending (m.flight n)) (hlog : Msg1sBacked E C m.written) :
    Msg1sBacked E C m'.written := by
  have hall : Roles E C m' ∧ Unsending (m'.flight n) ∧ Msg1sBacked E C m'.written := by
    refine h.keeps_between (J := fun m => Roles E C m ∧ Unsending (m.flight n) ∧
      Msg1sBacked E C m.written) ?_ ⟨hm, hφ, hlog⟩
    rintro a b hbefore hatom hafter ⟨hroles, hunsending, hbacked⟩
    exact ⟨hroles.atom (hrecorded.between hbefore hafter) hatom, hatom.next.unsending hunsending,
      hatom.msg1sBacked hroles hunsending hbacked⟩
  exact hall.2.2

end Initiates

/-! ## Runs -/

section Runs

variable {P : Primitives} {tofu : TofuStore} {now : ℕ} {d : DeviceId} {ms : List (Move Event Unit)}

/-- We connected to the device: some step of the run ended an attempt for it, and none of
the native calls of that attempt failed. -/
def Connected (P : Primitives) (tofu : TofuStore) (now : ℕ) (ms : List (Move Event Unit))
    (d : DeviceId) : Prop :=
  ∃ pre mv post, ms = pre ++ mv :: post ∧
    AttemptSucceeds P d (meshRun P (.initial tofu now) pre) mv

/-- No attempt ends with the step that starts it. -/
theorem start_recorded {E : Event → Prop} {C : DeviceId → Prop} {p : MeshPool} {e : Event}
    {m₀ : Mesh} (he : E e) (hcount : Counted p.calls.length p.shared) (henters : Enters e p.shared m₀) :
    Recorded E C p.calls.length e m₀ (p.step (handle P) (.start e)).shared where
  event := he
  ended := by
    rintro s c id hr rfl - hwaits hended
    by_cases hconnects : p.shared.Connects s.deviceId
    · -- The attempt still waits for its link.
      refine absurd ?_ hended
      show Waiting p.calls.length (handle P (.sighting s c id hr) p.shared).state
      rw [handle_sighting_connects hconnects, ← hcount.1]
      unfold Waiting
      rw [flight_launch_self]
      rfl
    · -- There is no attempt.
      unfold Waiting at hwaits
      obtain ⟨f, hf⟩ := Option.isSome_iff_exists.mp (Option.isSome_of_isSome_bind hwaits)
      rcases henters.flights hf with hold | ⟨-, hbegins⟩
      · rw [hcount.2 _ (le_refl _)] at hold
        cases hold
      · cases hbegins with
        | takes _ _ _ htakes =>
            cases htakes with
            | sighting _ _ _ _ _ h => exact absurd h hconnects

/-- Of every step of a run it is known whose event it was, and whether an attempt ended. -/
theorem meshRun_known (pre : List (Move Event Unit)) (mv : Move Event Unit)
    (post : List (Move Event Unit)) (heq : ms = pre ++ mv :: post) :
    StepKnown P (Recorded (· ∈ starts ms) (Connected P tofu now ms))
      (meshRun P (.initial tofu now) pre) mv := by
  subst heq
  have hcount := (meshRun_sound (P := P) (pristine_initial tofu now).counted pre).count
  constructor
  · rintro e m₀ rfl henters
    apply start_recorded ?_ hcount henters
    simp [starts_append, starts]
  · rintro i u e k rfl hpending
    constructor
    · rw [starts_append]
      exact List.mem_append_left _ (meshRun_started hpending)
    · rintro s c id hr rfl hsucceeds hwaits hended
      exact ⟨pre, _, post, rfl, i, u, s, c, id, hr, k, rfl, hpending, rfl, hsucceeds, hwaits,
        hended⟩

/-- **Whoever writes msg-1** has connected to the device, and sighted it with an id that
makes it the initiator against an id that it drew itself. -/
theorem meshRun_initiates (h : SendsMsg1 d (meshRun P (.initial tofu now) ms).shared) :
    ∃ r s, Initiates (· ∈ starts ms) (Connected P tofu now ms) d r s := by
  obtain ⟨chunk, hmem, hmsg1⟩ := h
  have hinitial : Roles (· ∈ starts ms) (Connected P tofu now ms) (.initial tofu now) := by
    refine ⟨?_, ?_, ?_⟩
    · rintro own ⟨⟩
    · rintro i d ⟨⟩
    · rintro i ref d ⟨⟩
  have hempty : Msg1sBacked (· ∈ starts ms) (Connected P tofu now ms)
      (Mesh.initial tofu now).written := by
    rintro d chunk ⟨⟩
  have hrun := logs_msg1sBacked.meshRun (pristine_initial tofu now).counted hinitial hempty
    meshRun_known (fun _ _ _ henters hm => hm.enters henters)
    (fun _ _ _ _ hrecorded hchain hm => hm.chain hrecorded hchain)
    fun _ _ _ _ hrecorded hchain hφ hm hlog => hchain.msg1sBacked hrecorded hm hφ hlog
  exact hrun.2 d chunk hmem hmsg1

/-- The device runs under one id, and sights another under one. -/
structure RunsAs (own : Bytes) (d : DeviceId) (peer : Bytes) (ms : List (Move Event Unit)) :
    Prop where
  own : ∀ r, .startMesh r ∈ starts ms → r.peerId = own
  peer : ∀ s c id hr, .sighting s c id hr ∈ starts ms → s.deviceId = d → s.peerId = peer

theorem RunsAs.initiates {own peer : Bytes} (h : RunsAs own d peer ms) {r : StartReplies}
    {s : Mesh.PeerSighting} {C : DeviceId → Prop} (hi : Initiates (· ∈ starts ms) C d r s) :
    Mesh.roleFor own peer = .initiator := by
  obtain ⟨c, id, hr, hsighted⟩ := hi.sighted
  rw [← h.own r hi.started, ← h.peer s c id hr hsighted hi.device]
  exact hi.role

/-- Who writes msg-1 has the smaller id, and connected to the other itself. -/
theorem RunsAs.smaller {own peer : Bytes} (h : RunsAs own d peer ms)
    (hlen : own.length = peer.length) (hne : own ≠ peer)
    (hsends : SendsMsg1 d (meshRun P (.initial tofu now) ms).shared) :
    own < peer ∧ Connected P tofu now ms d := by
  obtain ⟨r, s, hi⟩ := meshRun_initiates hsends
  refine ⟨?_, hi.connected⟩
  rcases (roleFor_eq_initiator_iff hlen).mp (h.initiates hi) with hlt | heq
  · exact hlt
  · exact absurd heq hne

/-- **At most one initiator**: of two devices with different ids at most one ever writes
msg-1 to the other, in whatever order the calls of each are scheduled. It has the smaller
id, and its own attempt to connect to the other ended well: where only the other one
connected, neither writes. -/
theorem at_most_one_initiator (P P' : Primitives) (tofu tofu' : TofuStore) (now now' : ℕ)
    {a b : Bytes} {dA dB : DeviceId} {ms ms' : List (Move Event Unit)}
    (hlen : a.length = b.length) (hne : a ≠ b) (hA : RunsAs a dB b ms) (hB : RunsAs b dA a ms') :
    ¬ (SendsMsg1 dB (meshRun P (.initial tofu now) ms).shared ∧
        SendsMsg1 dA (meshRun P' (.initial tofu' now') ms').shared) ∧
      (SendsMsg1 dB (meshRun P (.initial tofu now) ms).shared →
        a < b ∧ Connected P tofu now ms dB) ∧
      (a < b → ¬ Connected P tofu now ms dB →
        ¬ SendsMsg1 dB (meshRun P (.initial tofu now) ms).shared ∧
          ¬ SendsMsg1 dA (meshRun P' (.initial tofu' now') ms').shared) := by
  have hours : SendsMsg1 dB (meshRun P (.initial tofu now) ms).shared →
      a < b ∧ Connected P tofu now ms dB := hA.smaller hlen hne
  have htheirs : SendsMsg1 dA (meshRun P' (.initial tofu' now') ms').shared →
      b < a ∧ Connected P' tofu' now' ms' dA := hB.smaller hlen.symm hne.symm
  refine ⟨?_, hours, ?_⟩
  · rintro ⟨hsends, hsends'⟩
    exact List.lt_asymm (hours hsends).1 (htheirs hsends').1
  · intro hlt hconnected
    refine ⟨fun hsends => hconnected (hours hsends).2, fun hsends => ?_⟩
    exact List.lt_asymm hlt (htheirs hsends).1

end Runs

/-- A device with one id starts, and connects to one with another. -/
def connectsAs (own peer : UInt8) : List (Move Event Unit) :=
  alone 0 (.startMesh { sampleStart with peerId := List.replicate 8 own }) 12 ++
    alone 1 (sightingOf peer "A") 40

theorem connectsAs_runsAs (own peer : UInt8) :
    RunsAs (List.replicate 8 own) "A" (List.replicate 8 peer) (connectsAs own peer) where
  own := by
    intro r hr
    have hmem : Event.startMesh r ∈
        [.startMesh { sampleStart with peerId := List.replicate 8 own }, sightingOf peer "A"] := hr
    simp only [List.mem_cons, Event.startMesh.injEq, sightingOf, reduceCtorEq, List.not_mem_nil,
      or_false] at hmem
    rw [hmem]
  peer := by
    intro s c id hr hs _
    have hmem : Event.sighting s c id hr ∈
        [.startMesh { sampleStart with peerId := List.replicate 8 own }, sightingOf peer "A"] := hs
    simp only [List.mem_cons, sightingOf, reduceCtorEq, Event.sighting.injEq, List.not_mem_nil,
      or_false, false_or] at hmem
    rw [hmem.1]

/-- Each connects to the other; the one with the larger id waits. -/
theorem larger_id_waits :
    (meshRun .sample (.initial .empty 0) (connectsAs 1 2)).shared.written ≠ [] ∧
      ¬ SendsMsg1 "A" (meshRun .sample (.initial .empty 0) (connectsAs 2 1)).shared := by
  have hwrites : (meshRun .sample (.initial .empty 0) (connectsAs 1 2)).shared.written ≠ [] := by
    decide +kernel
  have hwaits := at_most_one_initiator .sample .sample .empty .empty 0 0 (by decide) (by decide)
    (connectsAs_runsAs 2 1) (connectsAs_runsAs 1 2)
  exact ⟨hwrites, fun hsends => absurd (hwaits.2.1 hsends).1 (by decide)⟩

end Oxpulse.Transport
