import Oxpulse.Crypto.SessionSteps

/-!
# Frames in order

A session whose calls do not overlap and which gets the frames of the other side in the
order in which they were made. How far both directions have got determines what the next
call does (`Duplex`).
-/

namespace Oxpulse.Crypto

open Oxpulse.Coroutine

/-- The receiver is about to get frame `n`. -/
structure RecvInv (P : Primitives) (ck : Bytes) (dir : Direction) (n : ℕ) (s : RatchetSession) :
    Prop where
  schedule : ScheduleInv P ck s
  direction : s.remoteDir = dir
  highest : s.replay.highest = n - 1
  tight : Tight s

/-- How many frames the session has made, and how many it has got. -/
structure Duplex (P : Primitives) (opts : RatchetSessionOptions) (sent received : ℕ)
    (s : RatchetSession) : Prop where
  send : SendInv P opts.sendChainKey opts.direction sent s
  recv : RecvInv P opts.recvChainKey opts.direction.opposite received s

section InOrder

variable {P : Primitives} {ck : Bytes} {dir : Direction} {n sent received : ℕ}
  {s s' : RatchetSession} {opts : RatchetSessionOptions}

theorem getBigUint64_sentWire (hn : n < 2 ^ 64) (pt ad : Bytes) :
    getBigUint64 (sentWire P ck dir n pt ad) = n :=
  getBigUint64_setBigUint64 hn _

theorem frameOpen_sentWire (hgcm : AesGcmLaws P) (hn : n < 2 ^ 64) (pt ad : Bytes) :
    frameOpen P ck dir (sentWire P ck dir n pt ad, ad) = some pt := by
  have hdrop : (sentWire P ck dir n pt ad).drop 8 =
      P.aesGcmSeal (frameKey P ck n) (makeNonce dir n) ad pt := by
    rw [sentWire, List.drop_left' (setBigUint64_length n)]
  rw [frameOpen, Frame.counter, getBigUint64_sentWire hn, hdrop]
  exact hgcm.open_seal _ _ _ _

/-- The next frame is opened. -/
theorem RecvInv.decrypt (hgcm : AesGcmLaws P) (h : RecvInv P ck dir n s) (hn : n < 2 ^ 64)
    (pt ad : Bytes) :
    ∃ s', (RatchetSession.decrypt P (sentWire P ck dir n pt ad) ad).run () s = (s', .ok pt) ∧
      RecvInv P ck dir (n + 1) s' ∧ SameSend s s' := by
  let f : Frame := (sentWire P ck dir n pt ad, ad)
  have hcounter : f.counter = n := getBigUint64_sentWire hn pt ad
  have hlength : 24 ≤ f.1.length := by
    show 24 ≤ (sentWire P ck dir n pt ad).length
    rw [sentWire, List.length_append, setBigUint64_length, hgcm.seal_length]
    omega
  have hhighest := h.highest
  have htight := h.tight
  unfold Tight at htight
  have hahead := recv_lookahead
  have haccepts : s.replay.canAccept f.counter = true := by
    rw [hcounter, ReplayWindow.canAccept_iff]
    refine ⟨Int.natCast_nonneg n, ?_⟩
    by_cases hzero : n = 0
    · left
      omega
    · right
      left
      omega
  have hreach : (f.counter : ℤ) ≤ s.recvCache.highestDerived + 16 := by
    rw [hcounter]
    omega
  have hrun : decryptOne P s f = ((s.afterLookup P f.counter).accept P f.counter, .ok pt) := by
    have hopen : frameOpen P ck dir f = some pt := frameOpen_sentWire hgcm hn pt ad
    rw [decrypt_run_admitted h.schedule h.direction ⟨hlength, haccepts⟩ hreach, hopen]
  have hsame : Tight (decryptOne P s f).1 := by
    refine h.tight.decryptOne h.schedule ?_
    rintro ⟨e, he⟩
    rw [hrun] at he
    cases he
  have hle := h.schedule.reaches ⟨hlength, haccepts⟩ hreach
  refine ⟨_, hrun, ⟨(h.schedule.afterLookup _).accept hle, h.direction, ?_, ?_⟩, rfl, rfl, rfl⟩
  · show (s.replay.commit f.counter).highest = _
    rw [ReplayWindow.commit_highest (Int.natCast_nonneg _), hcounter]
    push_cast
    omega
  · rw [hrun] at hsame
    exact hsame

theorem Duplex.new (hs : RatchetSession.new P opts = .ok s) : Duplex P opts 0 0 s := by
  have hschedule := RatchetSession.new_scheduleInv hs
  rw [RatchetSession.new_ok hs] at hschedule ⊢
  refine ⟨⟨rfl, rfl, rfl⟩, hschedule, rfl, rfl, ?_⟩
  exact RecvKeyCache.new_highestDerived P _

theorem Duplex.encrypt (h : Duplex P opts sent received s) (pt ad : Bytes) :
    ∃ s', (RatchetSession.encrypt P pt ad).run () s =
        (s', .ok (sentWire P opts.sendChainKey opts.direction sent pt ad)) ∧
      Duplex P opts (sent + 1) received s' := by
  obtain ⟨hwire, hsend⟩ := h.send.encrypt pt ad
  refine ⟨_, Prod.ext rfl hwire, hsend, ?_⟩
  exact ⟨h.recv.schedule.of_same rfl rfl, h.recv.direction, h.recv.highest, h.recv.tight⟩

theorem Duplex.decrypt (hgcm : AesGcmLaws P) (h : Duplex P opts sent received s)
    (hn : received < 2 ^ 64) (pt ad : Bytes) :
    ∃ s', (RatchetSession.decrypt P (sentWire P opts.recvChainKey opts.direction.opposite received pt
        ad) ad).run () s = (s', .ok pt) ∧ Duplex P opts sent (received + 1) s' := by
  obtain ⟨s', hrun, hrecv, hsame⟩ := h.recv.decrypt hgcm hn pt ad
  exact ⟨s', hrun, h.send.same hsame, hrecv⟩

end InOrder

end Oxpulse.Crypto
