import Oxpulse.Crypto.NoiseAgreement
import Oxpulse.Crypto.SessionSteps

/-!
# The secure channel

Two honest sides exchange the three messages of the handshake and build a session
each from its `split`. From then on both send and receive, in any order, with calls
that overlap at their awaits, over a network that loses, delays, reorders and repeats
frames. What a call of `decrypt` returns is what the other side gave to the call of
`encrypt` that made the frame; and frames that arrive within the window of those
before them are all opened (`channel_delivers`).
-/

namespace Oxpulse.Crypto

open Oxpulse.Coroutine

abbrev ChannelMove : Type := Direction × Move RatchetCall WebCryptoReply

section Channel

variable (P : Primitives) (session : Direction → RatchetSession)

/-- A side after the steps of both. -/
def sideRun (side : Direction) (ms : List ChannelMove) : RatchetPool :=
  ratchetRun P (session side) (movesOf side ms)

/-- Call `j` of this side made the frame. -/
def Made (side : Direction) (ms : List ChannelMove) (j : ℕ) (plaintext ad wire : Bytes) : Prop :=
  (sideRun P session side ms).calls[j]? = some ⟨.encrypt plaintext ad, .settled (.ok wire)⟩

/-- Every frame that arrives was made by the other side before. -/
def Carried (ms : List ChannelMove) : Prop :=
  ∀ pre side wire ad post, ms = pre ++ (side, .start (.decrypt wire ad)) :: post →
    ∃ j plaintext, Made P session side.opposite pre j plaintext ad wire

end Channel

/-- Every frame that arrives is within the window of those before it. -/
def Windowed (ms : List ChannelMove) : Prop :=
  ∀ pre side wire ad post, ms = pre ++ (side, .start (.decrypt wire ad)) :: post →
    InWindow (received (starts (movesOf side pre))) (getBigUint64 wire)

/-- The two sessions of a handshake. -/
structure Paired (P : Primitives) (opts : Direction → RatchetSessionOptions)
    (session : Direction → RatchetSession) : Prop where
  built : ∀ side, RatchetSession.new P (opts side) = .ok (session side)
  direction : ∀ side, (opts side).direction = side
  crossed : ∀ side, (opts side).recvChainKey = (opts side.opposite).sendChainKey

/-- What the transport builds at the end of a handshake. -/
def SessionOf (P : Primitives) (hs : NoiseXxHandshake) (s : RatchetSession) : Prop :=
  ∃ split, hs.split P = .ok split ∧
    RatchetSession.new P ⟨split.sendKey, split.recvKey, hs.role⟩ = .ok s

section Runs

variable {P : Primitives} {opts : Direction → RatchetSessionOptions}
  {session : Direction → RatchetSession} {ms : List ChannelMove} {side : Direction}
  {wire ad plaintext : Bytes} {j : ℕ}

theorem sideRun_args (P : Primitives) (session : Direction → RatchetSession) (side : Direction)
    (ms : List ChannelMove) :
    (sideRun P session side ms).calls.map Call.arg = starts (movesOf side ms) :=
  Pool.exec_args (movesOf side ms) _

theorem sideRun_append (P : Primitives) (session : Direction → RatchetSession) (side : Direction)
    (ms ms' : List ChannelMove) : sideRun P session side (ms ++ ms') =
      (sideRun P session side ms).exec (ratchetCall P) (movesOf side ms') := by
  unfold sideRun ratchetRun
  rw [movesOf_append, Pool.exec_append]

theorem sideRun_concat_self (mv : Move RatchetCall WebCryptoReply) :
    sideRun P session side (ms ++ [(side, mv)]) =
      (sideRun P session side ms).step (ratchetCall P) mv := by
  unfold sideRun ratchetRun
  rw [movesOf_concat_self, Pool.exec_concat]

theorem sideRun_concat_ne {other : Direction} (h : other ≠ side)
    (mv : Move RatchetCall WebCryptoReply) :
    sideRun P session side (ms ++ [(other, mv)]) = sideRun P session side ms := by
  unfold sideRun
  rw [movesOf_concat_ne h]

theorem Made.append (h : Made P session side ms j plaintext ad wire) (ms' : List ChannelMove) :
    Made P session side (ms ++ ms') j plaintext ad wire := by
  unfold Made
  rw [sideRun_append]
  exact Pool.exec_settled h _

theorem Carried.init {mv : ChannelMove} (h : Carried P session (ms ++ [mv])) :
    Carried P session ms := by
  intro pre side wire ad post heq
  exact h pre side wire ad (post ++ [mv]) (by rw [heq, List.append_assoc, List.cons_append])

theorem Windowed.init {mv : ChannelMove} (h : Windowed (ms ++ [mv])) : Windowed ms := by
  intro pre side wire ad post heq
  exact h pre side wire ad (post ++ [mv]) (by rw [heq, List.append_assoc, List.cons_append])

/-- The frame that a call made is the one of its number. -/
theorem Made.wire_eq (h : Made P session side ms j plaintext ad wire)
    (hp : Paired P opts session) :
    wire = sentWire P (opts side).sendChainKey side
      (encrypts ((starts (movesOf side ms)).take j)) plaintext ad := by
  have hsettled := (ratchetRun_sending (hp.built side) (movesOf side ms)).settled _ _ _ h
  have hargs : (ratchetRun P (session side) (movesOf side ms)).calls.map Call.arg =
      starts (movesOf side ms) := sideRun_args P session side ms
  rw [hargs] at hsettled
  exact hsettled.trans (by rw [hp.direction])

/-- And its number is below that of the calls that encrypt. -/
theorem Made.number_lt (h : Made P session side ms j plaintext ad wire) :
    encrypts ((starts (movesOf side ms)).take j) < encrypts (starts (movesOf side ms)) := by
  have hj : (starts (movesOf side ms))[j]? = some (.encrypt plaintext ad) := by
    rw [← sideRun_args P session, List.getElem?_map, h]
    rfl
  obtain ⟨hlt, hcall⟩ := List.getElem?_eq_some_iff.mp hj
  have hsplit : starts (movesOf side ms) = (starts (movesOf side ms)).take j ++
      .encrypt plaintext ad :: (starts (movesOf side ms)).drop (j + 1) := by
    rw [← hcall, List.getElem_cons_drop, List.take_append_drop]
  have hcount : encrypts (starts (movesOf side ms)) =
      encrypts ((starts (movesOf side ms)).take j) +
        (encrypts ((starts (movesOf side ms)).drop (j + 1)) + 1) := by
    conv_lhs => rw [hsplit]
    unfold encrypts
    rw [List.countP_append, List.countP_cons]
    rfl
  omega

/-- The other side opens it. -/
theorem Made.opens (hgcm : AesGcmLaws P) (hp : Paired P opts session)
    (h : Made P session side.opposite ms j plaintext ad wire)
    (hcount : encrypts (starts (movesOf side.opposite ms)) ≤ 2 ^ 64) :
    24 ≤ wire.length ∧
      frameOpen P (opts side).recvChainKey side.opposite (wire, ad) = some plaintext := by
  have hn : encrypts ((starts (movesOf side.opposite ms)).take j) < 2 ^ 64 :=
    h.number_lt.trans_le hcount
  have hspec := (authenticFrame_sentWire (hp.built side) hn plaintext ad).spec hgcm
  rw [hp.direction, hp.crossed, ← h.wire_eq hp] at hspec
  obtain ⟨hnumber, hlength, hopen⟩ := hspec
  refine ⟨hlength, ?_⟩
  rw [frameOpen, Frame.counter, hnumber, hp.crossed]
  exact hopen

theorem encrypts_init_le (side : Direction) (ms ms' : List ChannelMove) :
    encrypts (starts (movesOf side ms)) ≤ encrypts (starts (movesOf side (ms ++ ms'))) := by
  unfold encrypts
  rw [movesOf_append, starts_append, List.countP_append]
  exact Nat.le_add_right _ _

theorem sideRun_underway (hp : Paired P opts session) (side : Direction) (ms : List ChannelMove) :
    Underway P (opts side).recvChainKey side.opposite (sideRun P session side ms) ∧
      Opened P (opts side).recvChainKey side.opposite (sideRun P session side ms) := by
  have hrun := ratchetRun_underway (hp.built side) (movesOf side ms)
  rwa [hp.direction] at hrun

/-- What arrives within the window is opened. -/
theorem sideRun_flowing (hgcm : AesGcmLaws P) (hp : Paired P opts session)
    (hcount : ∀ side, encrypts (starts (movesOf side ms)) ≤ 2 ^ 64) (hcarried : Carried P session ms)
    (hwindow : Windowed ms) (side : Direction) :
    Flowing P (opts side).recvChainKey side.opposite (sideRun P session side ms) := by
  induction ms using List.reverseRecOn with
  | nil => exact new_flowing (hp.built side)
  | append_singleton ms mv ih =>
      have hbefore := ih (fun side => (encrypts_init_le side ms [mv]).trans (hcount side))
        hcarried.init hwindow.init
      obtain ⟨other, mv⟩ := mv
      by_cases hside : other = side
      · subst hside
        have hunder := (sideRun_underway hp other ms).1
        rw [sideRun_concat_self]
        refine (session_step hunder mv).flowing hunder hbefore ?_
        rintro wire ad rfl
        obtain ⟨j, plaintext, hmade⟩ := hcarried ms other wire ad [] rfl
        obtain ⟨hlength, hopen⟩ := hmade.opens hgcm hp
          ((encrypts_init_le other.opposite ms _).trans (hcount other.opposite))
        refine ⟨hlength, by rw [hopen]; rfl, ?_⟩
        rw [sideRun_args]
        exact hwindow ms other wire ad [] rfl
      · rw [sideRun_concat_ne hside]
        exact hbefore

/-- A call of `decrypt` has the frame of a call of `encrypt`. -/
theorem Carried.made (h : Carried P session ms)
    {n : ℕ} {st : SessionStatus}
    (hn : (sideRun P session side ms).calls[n]? = some ⟨.decrypt wire ad, st⟩) :
    ∃ j plaintext, Made P session side.opposite ms j plaintext ad wire := by
  have hmem : .decrypt wire ad ∈ starts (movesOf side ms) := by
    rw [← sideRun_args P session]
    exact List.mem_map.mpr ⟨_, List.mem_of_getElem? hn, rfl⟩
  obtain ⟨pre, post, heq⟩ := exists_start_of_mem hmem
  obtain ⟨j, plaintext, hmade⟩ := h pre side wire ad post heq
  refine ⟨j, plaintext, ?_⟩
  rw [heq]
  exact hmade.append _

/-- What `decrypt` returns is what the other side encrypted. -/
theorem delivered_made (hgcm : AesGcmLaws P) (hp : Paired P opts session)
    (hcount : ∀ side, encrypts (starts (movesOf side ms)) ≤ 2 ^ 64) (hcarried : Carried P session ms)
    {n : ℕ} (hn : (sideRun P session side ms).calls[n]? =
      some ⟨.decrypt wire ad, .settled (.ok plaintext)⟩) :
    ∃ j, Made P session side.opposite ms j plaintext ad wire := by
  obtain ⟨j, plaintext', hmade⟩ := hcarried.made hn
  have hopened := (sideRun_underway hp side ms).2 n wire ad plaintext hn
  rw [(hmade.opens hgcm hp (hcount side.opposite)).2] at hopened
  cases hopened
  exact ⟨j, hmade⟩

/-- A call of `decrypt` whose frame is within the window opens it, in two more steps. -/
theorem windowed_opens (hgcm : AesGcmLaws P) (hp : Paired P opts session)
    (hcount : ∀ side, encrypts (starts (movesOf side ms)) ≤ 2 ^ 64) (hcarried : Carried P session ms)
    (hwindow : Windowed ms) {n : ℕ} {st : SessionStatus}
    (hn : (sideRun P session side ms).calls[n]? = some ⟨.decrypt wire ad, st⟩)
    (r r' : WebCryptoReply) :
    ∃ j plaintext, Made P session side.opposite ms j plaintext ad wire ∧
      (sideRun P session side (ms ++ [(side, .resume n r), (side, .resume n r')])).calls[n]? =
        some ⟨.decrypt wire ad, .settled (.ok plaintext)⟩ := by
  obtain ⟨j, plaintext, hmade⟩ := hcarried.made hn
  obtain ⟨hunder, hopened⟩ := sideRun_underway hp side ms
  have hflow := sideRun_flowing hgcm hp hcount hcarried hwindow side
  have hstep₁ := session_step hunder (.resume n r)
  have hstep₂ := session_step (hstep₁.underway hunder) (.resume n r')
  have hflow₂ := hstep₂.flowing (hstep₁.underway hunder) (hstep₁.flowing hunder hflow nofun) nofun
  have hopened₂ := hstep₂.opened (hstep₁.opened hopened)
  obtain ⟨x, hx⟩ := hunder.settles hn r r'
  have hrun : sideRun P session side (ms ++ [(side, .resume n r), (side, .resume n r')]) =
      ((sideRun P session side ms).resume n r).resume n r' := by
    rw [← List.singleton_append, ← List.append_assoc, sideRun_concat_self, sideRun_concat_self]
    rfl
  refine ⟨j, plaintext, hmade, ?_⟩
  rw [hrun, hx]
  cases x with
  | error e => exact absurd rfl ((hflow₂.opens n wire ad _ hx).2 e)
  | ok plaintext' =>
      have hopen := hopened₂ n wire ad plaintext' hx
      rw [(hmade.opens hgcm hp (hcount side.opposite)).2] at hopen
      cases hopen
      rfl

/-- Within the window no two calls have frames of one number. -/
theorem Windowed.ne (hwindow : Windowed ms) {n n' : ℕ} (hlt : n < n') {wire' ad' : Bytes}
    {st st' : SessionStatus}
    (hn : (sideRun P session side ms).calls[n]? = some ⟨.decrypt wire ad, st⟩)
    (hn' : (sideRun P session side ms).calls[n']? = some ⟨.decrypt wire' ad', st'⟩) :
    getBigUint64 wire ≠ getBigUint64 wire' := by
  have hcall : (starts (movesOf side ms))[n]? = some (.decrypt wire ad) := by
    rw [← sideRun_args P session, List.getElem?_map, hn]
    rfl
  have hcall' : (starts (movesOf side ms))[n']? = some (.decrypt wire' ad') := by
    rw [← sideRun_args P session, List.getElem?_map, hn']
    rfl
  obtain ⟨hn'lt, hget⟩ := List.getElem?_eq_some_iff.mp hcall'
  have hsplit : starts (movesOf side ms) = (starts (movesOf side ms)).take n' ++
      .decrypt wire' ad' :: (starts (movesOf side ms)).drop (n' + 1) := by
    rw [← hget, List.getElem_cons_drop, List.take_append_drop]
  obtain ⟨pre, post, heq, hpre⟩ := exists_start_of_split hsplit
  have hnew := (hwindow pre side wire' ad' post heq).new
  rw [hpre] at hnew
  intro hsame
  apply hnew
  rw [← hsame]
  exact received_mem (List.mem_of_getElem? (by rw [List.getElem?_take_of_lt hlt]; exact hcall))

end Runs

/-! ## From the handshake on -/

section Handshake

variable {P : Primitives} {idI idR : DeviceIdentityProvider} {edI xI edR xR : Bytes}
  {i r : NoiseXxHandshake}

open NoiseXxHandshake in
/-- After the third message both sides are complete and in agreement. -/
theorem NoiseXxHandshake.Exchanged.afterMsg3 (hgcm : AesGcmLaws P) (hdh : X25519Laws P) (hkem : MlKemLaws P)
    (hI : IdentityLaws P idI edI xI) (hR : IdentityLaws P idR edR xR)
    (h : Exchanged P idI idR 3 r i) : ∃ sharedSecret, AfterMsg3 sharedSecret edI edR i r := by
  cases h with
  | message h hwrite hread =>
      obtain ⟨eI, eR, sharedSecret, heR, hagreed⟩ := h.agreed hgcm hdh hkem hR
      have hp := fits_of_write hwrite
      obtain ⟨i₃, m, r₃, hw, hr, hafter⟩ := msg3_agrees hgcm hdh hI heR hagreed _ _ hp
      rw [hw] at hwrite
      cases hwrite
      rw [hr] at hread
      cases hread
      exact ⟨sharedSecret, hafter⟩

open NoiseXxHandshake in
/-- The three messages arrive. -/
theorem exists_exchanged (hgcm : AesGcmLaws P) (hdh : X25519Laws P) (hkem : MlKemLaws P)
    (hI : IdentityLaws P idI edI xI) (hR : IdentityLaws P idR edR xR) (dI dR : NoiseDraws) :
    ∃ r i, Exchanged P idI idR 3 r i := by
  obtain ⟨i₁, m₁, hw₁, hlen₁, hfits₁⟩ := @msg1_agrees P idI idR hdh hkem dI dR [] (Nat.zero_le _)
  obtain ⟨r₁, ct, sharedSecret, hr₁, hct, hdec, h₁⟩ := hfits₁ (by rw [hlen₁]; decide)
  obtain ⟨r₂, m₂, hw₂, hlen₂, hfits₂⟩ :=
    msg2_agrees hgcm hdh hR dI.eSecret_length hct hdec h₁ dR dI
      (show ([] : Bytes).length ≤ MAX_HANDSHAKE_MSG_BYTES from Nat.zero_le _)
  obtain ⟨i₂, hr₂, h₂⟩ := hfits₂ (by rw [hlen₂]; decide)
  obtain ⟨i₃, m₃, r₃, hw₃, hr₃, -⟩ :=
    msg3_agrees hgcm hdh hI dR.eSecret_length h₂ dI dR
      (show ([] : Bytes).length ≤ MAX_HANDSHAKE_MSG_BYTES from Nat.zero_le _)
  exact ⟨r₃, i₃, ((Exchanged.start.message hw₁ hr₁).message hw₂ hr₂).message hw₃ hr₃⟩

/-- What the two sides build their sessions with: each receives on the chain that the
other sends on. -/
def splitOptions (k1 k2 : Bytes) : Direction → RatchetSessionOptions
  | .initiator => ⟨k1, k2, .initiator⟩
  | .responder => ⟨k2, k1, .responder⟩

/-- The two splits build a pair of sessions. -/
theorem exists_paired (hkdf : HkdfLaws P) {sharedSecret : Bytes}
    (h : NoiseXxHandshake.AfterMsg3 sharedSecret edI edR i r) :
    ∃ opts session, Paired P opts session ∧ SessionOf P i (session .initiator) ∧
      SessionOf P r (session .responder) := by
  obtain ⟨k1, k2, hi, hr⟩ := NoiseXxHandshake.split_agrees h
  have hlengths : k1.length = CHAIN_KEY_BYTES ∧ k2.length = CHAIN_KEY_BYTES := by
    unfold NoiseXxHandshake.split at hi
    rw [h.initiator.2, h.kem.1, h.initiator.1] at hi
    cases hi
    constructor
    · rw [List.length_take, hkdf.length]
      rfl
    · rw [List.length_take, List.length_drop, hkdf.length]
      rfl
  let opts := splitOptions k1 k2
  have hnew : ∀ o : RatchetSessionOptions, o.sendChainKey.length = CHAIN_KEY_BYTES →
      o.recvChainKey.length = CHAIN_KEY_BYTES → ∃ s, RatchetSession.new P o = .ok s :=
    fun o hsend hrecv => ⟨_, by
      rw [RatchetSession.new, if_neg (not_not.mpr hsend), if_neg (not_not.mpr hrecv)]⟩
  have hbuilt : ∀ side, ∃ s, RatchetSession.new P (opts side) = .ok s := by
    intro side
    cases side with
    | initiator => exact hnew _ hlengths.1 hlengths.2
    | responder => exact hnew _ hlengths.2 hlengths.1
  choose session hsession using hbuilt
  refine ⟨opts, session, ⟨hsession, ?_, ?_⟩, ⟨⟨k1, k2⟩, hi, ?_⟩, ⟨⟨k2, k1⟩, hr, ?_⟩⟩
  · intro side
    cases side <;> rfl
  · intro side
    cases side <;> rfl
  · rw [h.initiator.1]
    exact hsession .initiator
  · rw [h.responder.1]
    exact hsession .responder

/-- **The channel delivers.** Two honest sides that exchanged the three messages build a
session each. Whatever calls of `encrypt` and `decrypt` overlap on the two sides, and
whatever the network loses, delays, reorders or repeats: what `decrypt` returns is what
the other side gave to the call of `encrypt` that made the frame. And if every frame is
within the window of those that came before it, then none is refused, all are opened, and
no frame is opened twice. -/
theorem channel_delivers (hgcm : AesGcmLaws P) (hdh : X25519Laws P) (hkem : MlKemLaws P)
    (hkdf : HkdfLaws P) (hI : IdentityLaws P idI edI xI) (hR : IdentityLaws P idR edR xR)
    (h : NoiseXxHandshake.Exchanged P idI idR 3 r i) :
    ∃ session : Direction → RatchetSession,
      SessionOf P i (session .initiator) ∧ SessionOf P r (session .responder) ∧
      ∀ ms : List ChannelMove, (∀ side, encrypts (starts (movesOf side ms)) ≤ 2 ^ 64) →
        Carried P session ms →
        (∀ side (n : ℕ) wire ad plaintext, (sideRun P session side ms).calls[n]? =
            some ⟨.decrypt wire ad, .settled (.ok plaintext)⟩ →
          ∃ j, Made P session side.opposite ms j plaintext ad wire) ∧
        (Windowed ms → ∀ side (n : ℕ) wire ad (st : SessionStatus),
          (sideRun P session side ms).calls[n]? = some ⟨.decrypt wire ad, st⟩ →
          (∀ q q', ∃ j plaintext, Made P session side.opposite ms j plaintext ad wire ∧
            (sideRun P session side (ms ++ [(side, .resume n q), (side, .resume n q')])).calls[n]? =
              some ⟨.decrypt wire ad, .settled (.ok plaintext)⟩) ∧
          ∀ (n' : ℕ) ad' (st' : SessionStatus), (sideRun P session side ms).calls[n']? = some ⟨.decrypt wire ad', st'⟩ →
            n' = n) := by
  obtain ⟨sharedSecret, hafter⟩ := h.afterMsg3 hgcm hdh hkem hI hR
  obtain ⟨opts, session, hp, hinitiator, hresponder⟩ := exists_paired hkdf hafter
  refine ⟨session, hinitiator, hresponder, fun ms hcount hcarried => ⟨?_, ?_⟩⟩
  · intro side n wire ad plaintext hn
    exact delivered_made hgcm hp hcount hcarried hn
  · intro hwindow side n wire ad st hn
    refine ⟨fun q q' => windowed_opens hgcm hp hcount hcarried hwindow hn q q', ?_⟩
    intro n' ad' st' hn'
    rcases Nat.lt_trichotomy n' n with hlt | heq | hlt
    · exact absurd rfl (hwindow.ne hlt hn' hn)
    · exact heq
    · exact absurd rfl (hwindow.ne hlt hn hn')

end Handshake

/-- The initiator sends a frame, and the responder gets it. -/
def firstFrameArrives (wire : Bytes) : List ChannelMove :=
  [(.initiator, .start (.encrypt [42] [])), (.initiator, .resume 0 (.ok ())),
    (.initiator, .resume 0 (.ok ())), (.responder, .start (.decrypt wire []))]

theorem firstFrameArrives_split {wire w ad : Bytes} {pre post : List ChannelMove} {side : Direction}
    (h : firstFrameArrives wire = pre ++ (side, .start (.decrypt w ad)) :: post) :
    pre = (firstFrameArrives wire).take 3 ∧ side = .responder ∧ w = wire ∧ ad = [] := by
  unfold firstFrameArrives at h ⊢
  rcases pre with _ | ⟨m₁, _ | ⟨m₂, _ | ⟨m₃, _ | ⟨m₄, pre⟩⟩⟩⟩
  · simp at h
  · simp at h
  · simp at h
  · simp only [List.cons_append, List.nil_append, List.cons.injEq, Prod.mk.injEq, Move.start.injEq,
      RatchetCall.decrypt.injEq] at h
    obtain ⟨rfl, rfl, rfl, ⟨rfl, rfl, rfl⟩, -⟩ := h
    exact ⟨rfl, rfl, rfl, rfl⟩
  · simp at h

/-- Two devices with in-memory keys. -/
theorem channel_delivers_first :
    ∃ (session : Direction → RatchetSession) (wire : Bytes),
      (sideRun .sample session .responder (firstFrameArrives wire ++
        [(.responder, .resume 0 (.ok ())), (.responder, .resume 0 (.ok ()))])).calls[0]? =
          some ⟨.decrypt wire [], .settled (.ok [42])⟩ := by
  have hI := DeviceIdentityProvider.ofKeys_laws .sample
    (List.length_replicate (n := 32) (a := 1)) (List.length_replicate (n := 32) (a := 3))
  have hR := DeviceIdentityProvider.ofKeys_laws .sample
    (List.length_replicate (n := 32) (a := 2)) (List.length_replicate (n := 32) (a := 4))
  obtain ⟨r, i, h⟩ := exists_exchanged sample_aesGcmLaws sample_x25519Laws sample_mlKemLaws hI hR
    (.sample 5) (.sample 6)
  obtain ⟨session, ⟨split, -, hinitiator⟩, -, hdelivers⟩ :=
    channel_delivers sample_aesGcmLaws sample_x25519Laws sample_mlKemLaws sample_hkdfLaws hI hR h
  let wire := setBigUint64 0 ++ Primitives.sample.aesGcmSeal
    (deriveFrameKey .sample (session .initiator).sendChain)
    (makeNonce (session .initiator).localDir (session .initiator).sendCounter) [] [42]
  have hmade : Made .sample session .initiator ((firstFrameArrives wire).take 3) 0 [42] [] wire := by
    rw [show wire = setBigUint64 (session .initiator).sendCounter ++ _ by
      rw [RatchetSession.new_ok hinitiator]]
    rfl
  have hcarried : Carried .sample session (firstFrameArrives wire) := by
    intro pre side w ad post hsplit
    obtain ⟨rfl, rfl, rfl, rfl⟩ := firstFrameArrives_split hsplit
    exact ⟨0, [42], hmade⟩
  have hwindow : Windowed (firstFrameArrives wire) := by
    intro pre side w ad post hsplit
    obtain ⟨rfl, rfl, rfl, rfl⟩ := firstFrameArrives_split hsplit
    refine ⟨nofun, nofun, .inl ?_⟩
    rw [getBigUint64_setBigUint64 (by decide)]
    decide
  have hcount : ∀ side, encrypts (starts (movesOf side (firstFrameArrives wire))) ≤ 2 ^ 64 := by
    intro side
    cases side with
    | initiator => exact Nat.one_le_two_pow
    | responder => exact Nat.zero_le _
  obtain ⟨hopens, -⟩ := (hdelivers (firstFrameArrives wire) hcount hcarried).2 hwindow
    .responder 0 wire [] _ rfl
  obtain ⟨j, plaintext, hmade', hsettled⟩ := hopens (.ok ()) (.ok ())
  refine ⟨session, wire, hsettled.trans ?_⟩
  cases j with
  | zero =>
      have hcall : some (RatchetCall.encrypt [42] []) = some (.encrypt plaintext []) :=
        congrArg (Option.map Call.arg) hmade'
      cases hcall
      rfl
  | succ j => cases hmade'

end Oxpulse.Crypto
