import Oxpulse.Crypto.RatchetWindow

/-!
# What a captured session can still read

`snapshotRecvChain` and `recvCounter` say what an attacker finds on a receiver that is
captured, and `fromCompromisedState` is the session that the attacker builds from it.
It follows the key schedule of the captured one from the boundary on, in whatever order
it is given frames, and never holds or uses a key from before
(`compromised_reads_forward`).
-/

namespace Oxpulse.Crypto

open Oxpulse.Coroutine

structure CompromisedStateOptions : Type where
  recvChainKey : Bytes
  nextCounter : ℤ
  direction : Direction

namespace RatchetSession

def fromCompromisedState (P : Primitives) (opts : CompromisedStateOptions) :
    Except JsError RatchetSession :=
  if opts.recvChainKey.length ≠ CHAIN_KEY_BYTES then
    .error (.error ("recvChainKey must be " ++ toString CHAIN_KEY_BYTES ++ " bytes, got " ++
      toString opts.recvChainKey.length))
  else
    .ok
      { sendChain := List.replicate CHAIN_KEY_BYTES 0
        sendCounter := 0
        localDir := opts.direction
        remoteDir := opts.direction.opposite
        recvCache := .new P opts.recvChainKey opts.nextCounter
        replay := .new }

def snapshotRecvChain (s : RatchetSession) : Bytes := s.recvCache.chainAtLowest

def recvCounter (s : RatchetSession) : ℤ := s.recvCache.lowestCounter

/-- What is found on a receiver of this direction. -/
def captured (direction : Direction) (s : RatchetSession) : CompromisedStateOptions where
  recvChainKey := s.snapshotRecvChain
  nextCounter := s.recvCounter
  direction := direction

end RatchetSession

open RatchetSession

/-- A session that knows the schedule of `ck` from `start` on. -/
structure ForwardInv (P : Primitives) (ck : Bytes) (dir : Direction) (start : ℤ)
    (s : RatchetSession) : Prop where
  tracks : s.recvCache.Tracks P ck
  direction : s.remoteDir = dir
  boundary : start ≤ s.recvCache.lowestCounter

section

variable {P : Primitives} {ck : Bytes} {dir : Direction} {start : ℤ} {s : RatchetSession}

/-- The cache of the attacker follows the schedule. -/
theorem RecvKeyCache.new_tracks_from (P : Primitives) (ck : Bytes) {start : ℤ} (hstart : 0 ≤ start) :
    (RecvKeyCache.new P (chainAt P ck start.toNat) start).Tracks P ck := by
  apply RecvKeyCache.Tracks.fill
  refine ⟨hstart, ?_, fun x => ?_, rfl, ?_⟩
  · simp
  · rw [if_neg]
    · rfl
    · simp only
      omega
  · simp only [sub_add_cancel]

/-- And is filled to the lookahead. -/
theorem RecvKeyCache.new_span (P : Primitives) (ck : Bytes) (start : ℤ) :
    (RecvKeyCache.new P ck start).lowestCounter = start ∧
      (RecvKeyCache.new P ck start).highestDerived = start + 7 := by
  unfold RecvKeyCache.new
  rw [RecvKeyCache.fill_lowestCounter, RecvKeyCache.fill_highestDerived]
  refine ⟨rfl, ?_⟩
  have hahead := recv_lookahead
  simp only
  omega

/-- The session that is built from a capture. -/
theorem fromCompromisedState_captured (h : ScheduleInv P ck s)
    (hlength : s.snapshotRecvChain.length = CHAIN_KEY_BYTES) (dir : Direction) :
    ∃ s', fromCompromisedState P (s.captured dir) = .ok s' ∧
      ForwardInv P ck dir.opposite s.recvCounter s' ∧ s'.replay = .new ∧
      s'.recvCache.lowestCounter = s.recvCounter ∧
      s'.recvCache.highestDerived = s.recvCounter + 7 := by
  unfold fromCompromisedState captured
  rw [if_neg (not_not.mpr hlength)]
  refine ⟨_, rfl, ⟨?_, rfl, ?_⟩, rfl, (RecvKeyCache.new_span P _ _).1,
    (RecvKeyCache.new_span P _ _).2⟩
  · show (RecvKeyCache.new P s.recvCache.chainAtLowest s.recvCache.lowestCounter).Tracks P ck
    rw [h.tracks.chainAtLowest]
    exact RecvKeyCache.new_tracks_from P ck h.tracks.low
  · exact (RecvKeyCache.new_span P _ _).1.ge

/-! ## Any schedule -/

/-- The cache only grows at its upper end. -/
abbrev Further (s s' : RatchetSession) : Prop :=
  s.recvCache.highestDerived ≤ s'.recvCache.highestDerived

theorem Further.refl (s : RatchetSession) : Further s s := le_refl _

/-- A call that returns has opened a frame from the boundary on, with its own key. -/
def OpensForward (P : Primitives) (ck : Bytes) (dir : Direction) (start : ℤ) (f : Frame)
    (s : RatchetSession) (x : Except JsError Bytes) : Prop :=
  ForwardInv P ck dir start s ∧ ∀ plaintext, x = .ok plaintext →
    start ≤ f.counter ∧ frameOpen P ck dir f = some plaintext

theorem ForwardInv.afterLookup (h : ForwardInv P ck dir start s) (n : ℕ) :
    ForwardInv P ck dir start (s.afterLookup P n) := by
  refine ⟨RecvKeyCache.get_snd_tracks h.tracks _, h.direction, ?_⟩
  simp only [RatchetSession.afterLookup, RecvKeyCache.get_snd_lowestCounter]
  exact h.boundary

theorem ForwardInv.accept (h : ForwardInv P ck dir start s) {n : ℕ}
    (hn : (n : ℤ) ≤ s.recvCache.highestDerived) :
    ForwardInv P ck dir start (s.accept P n) ∧ Further s (s.accept P n) := by
  obtain ⟨htracks, hlow, hhigh⟩ := h.tracks.pruneOlderThan hn
  refine ⟨⟨htracks, h.direction, ?_⟩, ?_⟩
  · simp only [RatchetSession.accept, hlow]
    exact h.boundary.trans (le_max_left _ _)
  · simp only [Further, RatchetSession.accept, hhigh]
    exact le_max_left _ _

/-- The last segment, with the key of the schedule. -/
theorem finishDecrypt_opensForward {f : Frame} (h : ForwardInv P ck dir start s)
    (hstart : start ≤ f.counter) (hderived : (f.counter : ℤ) ≤ s.recvCache.highestDerived) :
    ((finishDecrypt P f.1 f.2 (frameKey P ck f.counter) (makeNonce dir f.counter) :
      Co Unit _ _ _) s).Sat (ForwardInv P ck dir start) Further Further
        (OpensForward P ck dir start f) s := by
  cases hopen : frameOpen P ck dir f with
  | none =>
      rw [finishDecrypt_none hopen]
      exact ⟨le_refl _, h, nofun⟩
  | some plaintext =>
      rw [finishDecrypt_some hopen]
      obtain ⟨haccept, hfurther⟩ := h.accept hderived
      refine ⟨hfurther, haccept, ?_⟩
      rintro _ ⟨⟩
      exact ⟨hstart, hopen⟩

/-- **One call**, whatever the others do meanwhile. -/
theorem decrypt_opensForward (h : ForwardInv P ck dir start s) (f : Frame) :
    (decryptCall P f s).Sat (ForwardInv P ck dir start) Further Further
      (OpensForward P ck dir start f) s := by
  unfold decryptCall
  have hlookup := h.afterLookup f.counter
  have hfurther : Further s (s.afterLookup P f.counter) := RecvKeyCache.highestDerived_le_get _
  rcases decrypt_cases (ρ := Unit) P f.1 f.2 s with
    ⟨-, heq⟩ | ⟨-, -, heq⟩ | ⟨-, -, -, heq⟩ | ⟨key, -, -, hkey, heq⟩
  · rw [heq]
    exact ⟨le_refl _, h, nofun⟩
  · rw [heq]
    exact ⟨le_refl _, h, nofun⟩
  · rw [heq]
    exact ⟨hfurther, hlookup, nofun⟩
  · have hfound : some key = _ :=
      hkey.symm.trans (RecvKeyCache.get_fst h.tracks (f.counter : ℤ))
    by_cases hin : s.recvCache.lowestCounter ≤ (f.counter : ℤ) ∧
        (f.counter : ℤ) ≤ s.recvCache.highestDerived + 16
    · rw [if_pos hin, Int.toNat_natCast] at hfound
      cases hfound
      have hderived : (f.counter : ℤ) ≤ (s.afterLookup P f.counter).recvCache.highestDerived := by
        simp only [RatchetSession.afterLookup, RecvKeyCache.get_snd_highestDerived]
        split <;> omega
      rw [heq, h.direction]
      refine ⟨hlookup, hfurther, fun _ s' hs' hle => ⟨hs', le_refl _, fun _ s'' hs'' hle' => ?_⟩⟩
      exact finishDecrypt_opensForward hs'' (h.boundary.trans hin.1)
        (hderived.trans (hle.trans hle'))
    · rw [if_neg hin] at hfound
      cases hfound

/-- **Every schedule.** -/
theorem decryptRun_forward (h : ForwardInv P ck dir start s) (ms : List (Move Frame Unit)) :
    ForwardInv P ck dir start (decryptRun P s ms).shared ∧
      ∀ (i : ℕ) (f : Frame) (x : Except JsError Bytes),
        (decryptRun P s ms).calls[i]? = some ⟨f, .settled x⟩ →
          ∃ s', OpensForward P ck dir start f s' x ∧ Further s' (decryptRun P s ms).shared :=
  Pool.exec_kept (I := ForwardInv P ck dir start) (R := Further)
    (Q := fun _ f => OpensForward P ck dir start f) Further.refl (fun _ _ _ => le_trans)
    (fun _ _ _ _ hQ => hQ.1) h ms fun _ f _ _ hI => decrypt_opensForward hI f

/-- A fresh session with the schedule from the boundary on opens what lies there. -/
theorem decryptOne_forward (hgcm : AesGcmLaws P) {opts : RatchetSessionOptions}
    (h : ForwardInv P opts.recvChainKey opts.direction.opposite start s)
    (hfresh : s.replay = .new) {n : ℕ} {pt ad wire : Bytes}
    (hauth : AuthenticFrame P opts n pt ad wire) (hlow : s.recvCache.lowestCounter ≤ n)
    (hhigh : (n : ℤ) ≤ s.recvCache.highestDerived + 16) :
    (decryptOne P s (wire, ad)).2 = .ok pt := by
  obtain ⟨hctr, hlen, hopen⟩ := hauth.spec hgcm
  have hacc : s.replay.canAccept (getBigUint64 wire) = true := by
    rw [hfresh, ReplayWindow.canAccept_iff]
    exact ⟨Int.natCast_nonneg _, Or.inl (by decide)⟩
  have hfound := RecvKeyCache.get_fst h.tracks (getBigUint64 wire : ℤ)
  rw [hctr, if_pos ⟨hlow, hhigh⟩, Int.toNat_natCast] at hfound
  unfold decryptOne decryptCall Co.run
  rcases decrypt_cases (ρ := Unit) P wire ad s with
    ⟨hshort, -⟩ | ⟨-, hspent, -⟩ | ⟨-, -, hnone, -⟩ | ⟨key, -, -, hkey, heq⟩
  · exact absurd hlen (Nat.not_le.mpr hshort)
  · rw [hacc] at hspent
    cases hspent
  · rw [hctr, hfound] at hnone
    cases hnone
  · rw [hctr, hfound] at hkey
    cases hkey
    rw [heq, hctr, h.direction]
    exact congrArg (fun o => (Outcome.run () o).2) (finishDecrypt_some (ρ := Unit) hopen)

end

/-- The chain keys have one length. -/
theorem chainAt_length {P : Primitives} (hkdf : HkdfLaws P) {ck : Bytes}
    (hck : ck.length = CHAIN_KEY_BYTES) (n : ℕ) : (chainAt P ck n).length = CHAIN_KEY_BYTES := by
  cases n with
  | zero => exact hck
  | succ n =>
      rw [chainAt_succ]
      exact hkdf.length _ _ _ _

/-- **A captured receiver reads forward only.** After any schedule of calls the session can
be captured. The session that is built from the capture opens the authentic frames from
the boundary on, as far as a cache reaches, and none below it; and whatever it is given,
in any schedule, the keys that it holds are those of the schedule from the boundary on,
its chain values lie there as well, and so does every frame that it opens. -/
theorem compromised_reads_forward {P : Primitives} (hgcm : AesGcmLaws P) (hkdf : HkdfLaws P)
    {opts : RatchetSessionOptions} {s : RatchetSession} (hs : RatchetSession.new P opts = .ok s)
    (ms : List (Move Frame Unit)) :
    ∃ s', fromCompromisedState P ((decryptRun P s ms).shared.captured opts.direction) = .ok s' ∧
      (∀ (n : ℕ) (pt ad wire : Bytes), AuthenticFrame P opts n pt ad wire →
        (n : ℤ) ≤ (decryptRun P s ms).shared.recvCounter + 23 →
          ((decryptOne P s' (wire, ad)).2 = .ok pt ↔
            (decryptRun P s ms).shared.recvCounter ≤ n)) ∧
      ∀ ms' : List (Move Frame Unit),
        (∀ x key, (decryptRun P s' ms').shared.recvCache.keys.get? x = some key →
          (decryptRun P s ms).shared.recvCounter ≤ x ∧
            key = frameKey P opts.recvChainKey x.toNat) ∧
        (∀ chainKey, chainKey = (decryptRun P s' ms').shared.recvCache.chainAtLowest ∨
            chainKey = (decryptRun P s' ms').shared.recvCache.chain →
          ∃ x, (decryptRun P s ms).shared.recvCounter ≤ x ∧
            chainKey = chainAt P opts.recvChainKey x.toNat) ∧
        ∀ (i : ℕ) (f : Frame) (plaintext : Bytes), (decryptRun P s' ms').calls[i]? =
            some ⟨f, .settled (.ok plaintext)⟩ →
          (decryptRun P s ms).shared.recvCounter ≤ f.counter ∧
            frameOpen P opts.recvChainKey opts.direction.opposite f = some plaintext := by
  have hsched := (decryptRun_inv hs ms).schedule
  have hlength : (decryptRun P s ms).shared.snapshotRecvChain.length = CHAIN_KEY_BYTES := by
    unfold snapshotRecvChain
    rw [hsched.tracks.chainAtLowest]
    exact chainAt_length hkdf (RatchetSession.new_lengths hs).2 _
  obtain ⟨s', hbuilt, hforward, hfresh, hlow, hhigh⟩ :=
    fromCompromisedState_captured hsched hlength opts.direction
  refine ⟨s', hbuilt, ?_, fun ms' => ?_⟩
  · intro n pt ad wire hauth hreach
    refine ⟨fun hok => ?_, fun hle => ?_⟩
    · have hopens : OpensForward P opts.recvChainKey opts.direction.opposite _ (wire, ad) _ _ :=
        (decrypt_opensForward hforward (wire, ad)).run Further.refl ()
      have hcounter := (hopens.2 pt hok).1
      rwa [Frame.counter, (hauth.spec hgcm).1] at hcounter
    · exact decryptOne_forward hgcm hforward hfresh hauth (by rw [hlow]; exact hle)
        (by rw [hhigh]; omega)
  · obtain ⟨hinv, hcalls⟩ := decryptRun_forward hforward ms'
    have hboundary := hinv.boundary
    refine ⟨?_, ?_, ?_⟩
    · intro x key hkey
      rw [hinv.tracks.keys] at hkey
      by_cases hin : (decryptRun P s' ms').shared.recvCache.lowestCounter ≤ x ∧
          x ≤ (decryptRun P s' ms').shared.recvCache.highestDerived
      · rw [if_pos hin] at hkey
        cases hkey
        exact ⟨hboundary.trans hin.1, rfl⟩
      · rw [if_neg hin] at hkey
        cases hkey
    · rintro chainKey (rfl | rfl)
      · exact ⟨_, hboundary, hinv.tracks.chainAtLowest⟩
      · exact ⟨_, hboundary.trans hinv.tracks.span, hinv.tracks.chain⟩
    · intro i f plaintext hi
      obtain ⟨_, ⟨-, hopens⟩, -⟩ := hcalls i f _ hi
      exact hopens plaintext rfl

/-- Of the sample session when it has opened the first frame: the boundary is still 0. -/
theorem compromised_reads_forward_first :
    ∃ s', fromCompromisedState .sample ((decryptRun .sample .sample
        [.start firstFrame, .resume 0 (), .resume 0 ()]).shared.captured .initiator) = .ok s' ∧
      (decryptOne .sample s' (sentWire .sample RatchetSessionOptions.sample.recvChainKey .responder
        7 [42] [], [])).2 = .ok [42] := by
  obtain ⟨s', hbuilt, hopens, -⟩ := compromised_reads_forward sample_aesGcmLaws sample_hkdfLaws
    RatchetSession.new_sample [.start firstFrame, .resume 0 (), .resume 0 ()]
  refine ⟨s', hbuilt, (hopens 7 [42] [] _
    (authenticFrame_sentWire RatchetSession.new_sample (by decide) [42] []) ?_).mpr ?_⟩
  · exact (by decide +kernel)
  · exact (by decide +kernel)

end Oxpulse.Crypto
