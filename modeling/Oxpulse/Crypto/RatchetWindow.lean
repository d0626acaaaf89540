import Oxpulse.Crypto.RatchetRuns

/-!
# The key cache and the replay window

Two rules bound what a session keeps: the replay window admits every counter
above `highest - 64`, the key cache reaches sixteen counters beyond what it has
derived. `decrypt_run_refused` and `decrypt_run_admitted` say what one call
does in terms of both, and the results of this module read off where the two
rules agree: which keys the cache holds (`ratchet_schedule_agreement`), which
admitted frames find one (`lookup_covers_iff`), and which rejected frames leave
the session alone (`rejected_frame_unchanged_iff`).
-/

namespace Oxpulse.Crypto

open Oxpulse.Coroutine

/-- `decrypt` gets as far as the key lookup. -/
def Admitted (s : RatchetSession) (f : Frame) : Prop :=
  24 ≤ f.1.length ∧ s.replay.canAccept f.counter = true

/-- The lookup of an admitted frame derives new keys: its counter lies beyond
the derived end, within twice the lookahead. -/
def Extends (s : RatchetSession) (f : Frame) : Prop :=
  Admitted s f ∧ s.recvCache.highestDerived < f.counter ∧
    (f.counter : ℤ) ≤ s.recvCache.highestDerived + 2 * RECV_LOOKAHEAD

instance (s : RatchetSession) (f : Frame) : Decidable (Admitted s f) :=
  inferInstanceAs (Decidable (_ ∧ _))

instance (s : RatchetSession) (f : Frame) : Decidable (Extends s f) :=
  inferInstanceAs (Decidable (_ ∧ _))

/-- One call of `decrypt` with nobody interfering. -/
def decryptOne (P : Primitives) (s : RatchetSession) (f : Frame) :
    RatchetSession × Except JsError Bytes :=
  (decryptCall P f).run () s

/-- The session after these calls, each settled before the next one starts. -/
def decryptAll (P : Primitives) (s : RatchetSession) (frames : List Frame) : RatchetSession :=
  frames.foldl (fun s f => (decryptOne P s f).1) s

theorem decryptAll_concat (P : Primitives) (s : RatchetSession) (frames : List Frame)
    (f : Frame) :
    decryptAll P s (frames ++ [f]) = (decryptOne P (decryptAll P s frames) f).1 := by
  simp [decryptAll]

/-- A sequence of calls is one of the schedules. -/
theorem decryptAll_eq_run (P : Primitives) (s : RatchetSession) (frames : List Frame) :
    ∃ ms, (decryptRun P s ms).shared = decryptAll P s frames := by
  induction frames using List.reverseRecOn with
  | nil => exact ⟨[], rfl⟩
  | append_singleton frames f ih =>
      obtain ⟨ms, hms⟩ := ih
      obtain ⟨ms', hms', -⟩ := Pool.exists_exec_run () (decryptRun P s ms) f
      refine ⟨ms ++ .start f :: ms', ?_⟩
      rw [decryptAll_concat, ← hms, decryptRun, Pool.exec_append]
      exact hms'

/-! ## What one call does -/

section OneCall

variable {P : Primitives} {ck : Bytes} {dir : Direction} {s : RatchetSession} {f : Frame}

/-- The window floor is the cache floor, so an admitted counter is not below it. -/
theorem ScheduleInv.low_of_canAccept (h : ScheduleInv P ck s) {n : ℕ}
    (hacc : s.replay.canAccept n = true) : s.recvCache.lowestCounter ≤ n := by
  have hfloor := h.floor
  rcases ReplayWindow.canAccept_iff.mp hacc with ⟨hpos, hneg | hgt | ⟨hin, -⟩⟩ <;> omega

/-- The lookup of an admitted counter, exactly. -/
theorem ScheduleInv.lookup (h : ScheduleInv P ck s) {n : ℕ}
    (hacc : s.replay.canAccept n = true) :
    (s.recvCache.get P n).1 =
      if (n : ℤ) ≤ s.recvCache.highestDerived + 16 then some (frameKey P ck n) else none := by
  have hlow := h.low_of_canAccept hacc
  rw [RecvKeyCache.get_fst h.tracks, Int.toNat_natCast]
  by_cases hn : (n : ℤ) ≤ s.recvCache.highestDerived + 16
  · rw [if_pos ⟨hlow, hn⟩, if_pos hn]
  · rw [if_neg (fun hc => hn hc.2), if_neg hn]

/-- A frame that is not admitted, or too far ahead, is refused with the
session untouched. -/
theorem decrypt_run_refused (h : ScheduleInv P ck s)
    (hf : ¬ (Admitted s f ∧ (f.counter : ℤ) ≤ s.recvCache.highestDerived + 16)) :
    ∃ e, decryptOne P s f = (s, .error e) := by
  unfold decryptOne decryptCall Co.run
  rcases RatchetSession.decrypt_cases (ρ := Unit) P f.1 f.2 s with
    ⟨-, heq⟩ | ⟨-, -, heq⟩ | ⟨-, hacc, hnone, heq⟩ | ⟨key, hlen, hacc, hkey, -⟩
  · exact ⟨_, by rw [heq]; rfl⟩
  · exact ⟨_, by rw [heq]; rfl⟩
  · have hlookup := h.lookup hacc
    rw [hnone] at hlookup
    -- nothing found: the counter is beyond the extension range
    have hfar : ¬ ((getBigUint64 f.1 : ℤ) ≤ s.recvCache.highestDerived + 16) := by
      intro hle
      rw [if_pos hle] at hlookup
      cases hlookup
    have hsame : s.afterLookup P (getBigUint64 f.1) = s := by
      rw [RatchetSession.afterLookup, RecvKeyCache.get_snd_of_not_extending (by omega)]
    exact ⟨_, by rw [heq, hsame]; rfl⟩
  · have hlookup := h.lookup hacc
    rw [hkey] at hlookup
    refine absurd ⟨⟨hlen, hacc⟩, by_contra fun hfar => ?_⟩ hf
    rw [Frame.counter] at hfar
    rw [if_neg hfar] at hlookup
    cases hlookup

/-- An admitted frame within reach is put to the AEAD under the schedule's key. -/
theorem decrypt_run_admitted (h : ScheduleInv P ck s) (hdir : s.remoteDir = dir)
    (hadm : Admitted s f) (hf : (f.counter : ℤ) ≤ s.recvCache.highestDerived + 16) :
    decryptOne P s f =
      match frameOpen P ck dir f with
      | none => (s.afterLookup P f.counter, .error .library)
      | some pt => ((s.afterLookup P f.counter).accept P f.counter, .ok pt) := by
  have hlookup := h.lookup hadm.2
  rw [if_pos hf] at hlookup
  unfold decryptOne decryptCall Co.run
  rcases RatchetSession.decrypt_cases (ρ := Unit) P f.1 f.2 s with
    ⟨hshort, -⟩ | ⟨-, hrej, -⟩ | ⟨-, -, hnone, -⟩ | ⟨key, -, -, hkey, heq⟩
  · exact absurd hadm.1 (by omega)
  · exact absurd (hrej.symm.trans hadm.2) Bool.noConfusion
  · rw [Frame.counter, hnone] at hlookup
    cases hlookup
  · rw [Frame.counter, hkey] at hlookup
    cases hlookup
    rw [heq, hdir]
    cases hopen : frameOpen P ck dir f with
    | none => exact congrArg (Outcome.run ()) (RatchetSession.finishDecrypt_none hopen)
    | some pt => exact congrArg (Outcome.run ()) (RatchetSession.finishDecrypt_some hopen)

theorem afterLookup_highestDerived (h : ScheduleInv P ck s) (hadm : Admitted s f) :
    (s.afterLookup P f.counter).recvCache.highestDerived =
      if s.recvCache.highestDerived < f.counter ∧
          (f.counter : ℤ) ≤ s.recvCache.highestDerived + 16 then (f.counter : ℤ) + 8
      else s.recvCache.highestDerived := by
  have hlow := h.low_of_canAccept hadm.2
  simp only [RatchetSession.afterLookup, RecvKeyCache.get_snd_highestDerived]
  by_cases hx : s.recvCache.highestDerived < f.counter ∧
      (f.counter : ℤ) ≤ s.recvCache.highestDerived + 16
  · rw [if_pos ⟨hlow, hx⟩, if_pos hx]
  · rw [if_neg (fun hc => hx hc.2), if_neg hx]

/-- **A call that throws leaves the session unchanged exactly when its lookup
derived no key.** -/
theorem decryptOne_unchanged_iff (h : ScheduleInv P ck s) (hdir : s.remoteDir = dir)
    {e : JsError} (hthrow : (decryptOne P s f).2 = .error e) :
    (decryptOne P s f).1 = s ↔ ¬ Extends s f := by
  have htwice : (2 * RECV_LOOKAHEAD : ℤ) = 16 := rfl
  by_cases hf : Admitted s f ∧ (f.counter : ℤ) ≤ s.recvCache.highestDerived + 16
  · obtain ⟨hadm, hreach⟩ := hf
    have hrun := decrypt_run_admitted h hdir hadm hreach
    cases hopen : frameOpen P ck dir f with
    | some pt =>
        rw [hrun, hopen] at hthrow
        cases hthrow
    | none =>
        rw [hopen] at hrun
        rw [hrun]
        simp only [Extends, htwice]
        constructor
        · rintro heq ⟨-, hgt, -⟩
          have hhd := afterLookup_highestDerived h hadm
          rw [heq, if_pos ⟨hgt, hreach⟩] at hhd
          omega
        · intro hno
          have hnot : ¬ (s.recvCache.highestDerived < (f.counter : ℤ)) :=
            fun hgt => hno ⟨hadm, hgt, hreach⟩
          rw [RatchetSession.afterLookup, RecvKeyCache.get_snd_of_not_extending (by omega)]
  · obtain ⟨e', hrun⟩ := decrypt_run_refused h hf
    rw [hrun]
    refine ⟨fun _ hext => hf ⟨hext.1, ?_⟩, fun _ => rfl⟩
    rw [← htwice]
    exact hext.2.2

end OneCall

/-! ## Sequences of calls that derive no key in vain -/

/-- Nothing was derived beyond the lookahead of the highest committed counter. -/
def Tight (s : RatchetSession) : Prop :=
  s.recvCache.highestDerived = s.replay.highest + RECV_LOOKAHEAD

/-- No call of the sequence throws after a lookup that derived keys. -/
def NoVainLookup (P : Primitives) (s : RatchetSession) (frames : List Frame) : Prop :=
  ∀ pre f post, frames = pre ++ f :: post →
    (∃ e, (decryptOne P (decryptAll P s pre) f).2 = .error e) →
      ¬ Extends (decryptAll P s pre) f

section Sequences

variable {P : Primitives} {ck : Bytes} {dir : Direction} {s : RatchetSession}

theorem Tight.decryptOne (h : ScheduleInv P ck s) (ht : Tight s) {f : Frame}
    (hvain : (∃ e, (decryptOne P s f).2 = .error e) → ¬ Extends s f) :
    Tight (decryptOne P s f).1 := by
  by_cases hf : Admitted s f ∧ (f.counter : ℤ) ≤ s.recvCache.highestDerived + 16
  · obtain ⟨hadm, hreach⟩ := hf
    have hrun := decrypt_run_admitted h rfl hadm hreach
    have hhd := afterLookup_highestDerived h hadm
    cases hopen : frameOpen P ck s.remoteDir f with
    | none =>
        rw [hopen] at hrun
        have hno := hvain ⟨_, by rw [hrun]⟩
        rw [(decryptOne_unchanged_iff h rfl (by rw [hrun])).mpr hno]
        exact ht
    | some pt =>
        rw [hopen] at hrun
        rw [hrun]
        have hle : (f.counter : ℤ) ≤
            (s.afterLookup P f.counter).recvCache.highestDerived := by
          rw [hhd]
          split <;> omega
        obtain ⟨-, -, hprune⟩ := (h.afterLookup f.counter).tracks.pruneOlderThan hle
        have hcommit : (s.replay.commit f.counter).highest = max s.replay.highest f.counter :=
          ReplayWindow.commit_highest (Int.natCast_nonneg _)
        have hahead := recv_lookahead
        unfold Tight at ht ⊢
        simp only [RatchetSession.accept] at hprune ⊢
        rw [hprune, hhd]
        change _ = (s.replay.commit f.counter).highest + _
        rw [hcommit]
        split <;> omega
  · obtain ⟨e, hrun⟩ := decrypt_run_refused h hf
    rw [hrun]
    exact ht

theorem decryptAll_tight {opts : RatchetSessionOptions}
    (hs : RatchetSession.new P opts = .ok s) :
    ∀ frames, NoVainLookup P s frames → Tight (decryptAll P s frames) := by
  intro frames
  induction frames using List.reverseRecOn with
  | nil =>
      intro _
      rw [RatchetSession.new_ok hs]
      exact RecvKeyCache.new_highestDerived P _
  | append_singleton frames f ih =>
      intro hvain
      have hinit : NoVainLookup P s frames := by
        intro pre g post heq
        exact hvain pre g (post ++ [f]) (by rw [heq]; simp)
      obtain ⟨ms, hms⟩ := decryptAll_eq_run P s frames
      have hinv := (decryptRun_inv hs ms).schedule
      rw [hms] at hinv
      rw [decryptAll_concat]
      exact (ih hinit).decryptOne hinv (hvain frames f [] rfl)

/-- A tight cache holds at most the window and the lookahead. -/
theorem ScheduleInv.size_le (h : ScheduleInv P ck s) (ht : Tight s) :
    s.recvCache.keys.size ≤ RECV_WINDOW_SIZE + RECV_LOOKAHEAD := by
  have hsize := h.tracks.size
  have hfloor := h.floor
  have hhighest := h.highest
  have hwin := recv_window_size
  have hahead := recv_lookahead
  unfold Tight at ht
  omega

/-- Authentic frames never fail at the AEAD, so they derive no key in vain. -/
theorem noVainLookup_of_authentic (hgcm : AesGcmLaws P) {opts : RatchetSessionOptions}
    (hs : RatchetSession.new P opts = .ok s) (frames : List Frame)
    (hauth : ∀ f ∈ frames, ∃ n pt, AuthenticFrame P opts n pt f.2 f.1) :
    NoVainLookup P s frames := by
  rintro pre f post rfl ⟨e, hthrow⟩ hext
  obtain ⟨n, pt, hf⟩ := hauth f (by simp)
  obtain ⟨hctr, -, hopen⟩ := hf.spec hgcm
  obtain ⟨ms, hms⟩ := decryptAll_eq_run P s pre
  have hinv := decryptRun_inv hs ms
  have hsched := hinv.schedule
  have hdir := hinv.direction
  rw [hms] at hsched hdir
  have hrun := decrypt_run_admitted hsched hdir hext.1 hext.2.2
  have hframe : frameOpen P opts.recvChainKey opts.direction.opposite f = some pt := by
    rw [frameOpen, Frame.counter, hctr]
    exact hopen
  rw [hrun, hframe] at hthrow
  cases hthrow

end Sequences

/-! ## Agreement with the schedule -/

theorem ScheduleInv.lookup_ne_none_iff {P : Primitives} {ck : Bytes} {s : RatchetSession}
    (h : ScheduleInv P ck s) {n : ℕ} (hacc : s.replay.canAccept n = true) :
    (s.recvCache.get P n).1 ≠ none ↔
      (n : ℤ) ≤ s.recvCache.highestDerived + 2 * RECV_LOOKAHEAD := by
  have htwice : (2 * RECV_LOOKAHEAD : ℤ) = 16 := rfl
  rw [h.lookup hacc, htwice]
  by_cases hn : (n : ℤ) ≤ s.recvCache.highestDerived + 16
  · rw [if_pos hn]
    exact iff_of_true (Option.some_ne_none _) hn
  · rw [if_neg hn]
    exact iff_of_false (fun hne => hne rfl) hn

/-- An authentic frame that is admitted and finds a key is decrypted. -/
theorem decrypt_authentic {P : Primitives} (hgcm : AesGcmLaws P) {opts : RatchetSessionOptions}
    {s : RatchetSession} (h : ScheduleInv P opts.recvChainKey s)
    (hdir : s.remoteDir = opts.direction.opposite) {n : ℕ} {pt ad wire : Bytes}
    (hauth : AuthenticFrame P opts n pt ad wire) (hacc : s.replay.canAccept n = true)
    (hkey : (s.recvCache.get P n).1 ≠ none) :
    (decryptOne P s (wire, ad)).2 = .ok pt := by
  obtain ⟨hctr, hlen, hopen⟩ := hauth.spec hgcm
  have hcounter : Frame.counter (wire, ad) = n := hctr
  have hframe : frameOpen P opts.recvChainKey opts.direction.opposite (wire, ad) = some pt := by
    rw [frameOpen, hcounter]
    exact hopen
  have hadm : Admitted s (wire, ad) := ⟨hlen, by rw [hcounter]; exact hacc⟩
  have hreach := (h.lookup_ne_none_iff hacc).mp hkey
  rw [decrypt_run_admitted h hdir hadm (by rw [hcounter]; exact hreach), hframe]

/-- **Schedule agreement.** After every schedule of calls the cache holds the
sender's keys of its span and nothing else, its chain values sit at the two
ends, the span starts at the window floor of the highest counter decrypted,
and an authentic frame that finds a key is decrypted. -/
theorem ratchet_schedule_agreement {P : Primitives} (hgcm : AesGcmLaws P) {opts : RatchetSessionOptions}
    {s : RatchetSession} (hs : RatchetSession.new P opts = .ok s)
    (ms : List (Move Frame Unit)) :
    let p := decryptRun P s ms
    let c := p.shared.recvCache
    (∀ x, (c.keys.get? x).isSome ↔ c.lowestCounter ≤ x ∧ x ≤ c.highestDerived) ∧
    (∀ (n : ℕ) key, c.keys.get? n = some key →
      key = deriveFrameKey P ((ratchetChain P)^[n] opts.recvChainKey) ∧
      ∀ peer sender sent, RatchetSession.new P peer = .ok sender →
        peer.sendChainKey = opts.recvChainKey → sent.length = n →
        key = deriveFrameKey P (sendAll P sender sent).sendChain) ∧
    0 ≤ c.lowestCounter ∧ c.lowestCounter ≤ c.highestDerived ∧
    c.chainAtLowest = (ratchetChain P)^[c.lowestCounter.toNat] opts.recvChainKey ∧
    c.chain = (ratchetChain P)^[(c.highestDerived + 1).toNat] opts.recvChainKey ∧
    ((∀ n, ¬ Decrypted p n) → c.lowestCounter = 0) ∧
    (∀ T, IsGreatest {n | Decrypted p n} T → c.lowestCounter = max 0 ((T : ℤ) - 63)) ∧
    (∀ n pt ad wire, AuthenticFrame P opts n pt ad wire →
      p.shared.replay.canAccept n = true → (c.get P n).1 ≠ none →
      ((RatchetSession.decrypt P wire ad).run () p.shared).2 = .ok pt) := by
  intro p c
  have hinv : RunInv P opts.recvChainKey opts.direction.opposite p := decryptRun_inv hs ms
  obtain ⟨htracks, hhighest, hfloor, hahead⟩ := hinv.schedule
  have hkeys := htracks.keys
  have hlow := htracks.low
  refine ⟨?_, ?_, hlow, ?_, htracks.chainAtLowest, htracks.chain, ?_, ?_, ?_⟩
  · intro x
    rw [hkeys]
    split
    · next hin => exact iff_of_true rfl hin
    · next hout => exact iff_of_false Bool.noConfusion hout
  · intro n key hkey
    rw [hkeys] at hkey
    split at hkey
    · cases hkey
      refine ⟨rfl, ?_⟩
      rintro peer sender sent hnew hck rfl
      have hinit : SendInv P opts.recvChainKey peer.direction 0 sender := by
        rw [RatchetSession.new_ok hnew, ← hck]
        exact ⟨rfl, rfl, rfl⟩
      have hsent := (hinit.sendAll sent).chain
      rw [hsent, Nat.zero_add]
      rfl
    · cases hkey
  · show p.shared.recvCache.lowestCounter ≤ p.shared.recvCache.highestDerived
    omega
  · intro hnone
    rcases hinv.attained with hneg | ⟨n, hn, -⟩
    · show p.shared.recvCache.lowestCounter = 0
      omega
    · exact absurd hn (hnone n)
  · rintro T ⟨⟨call, hcall, hT, pt, hpt⟩, hmax⟩
    -- the highest committed counter is a delivered one, so it is `T`
    obtain ⟨-, -, hle⟩ := hinv.delivered call hcall pt hpt
    rw [hT] at hle
    rcases hinv.attained with hneg | ⟨n, hn, heq⟩
    · omega
    · have hnT : n ≤ T := hmax hn
      show p.shared.recvCache.lowestCounter = _
      omega
  · intro n pt ad wire hauth hacc hkey
    exact decrypt_authentic hgcm hinv.schedule hinv.direction hauth hacc hkey

/-- Once the first frame is decrypted, the keys of frames `0 .. 8` are cached. -/
theorem ratchet_schedule_agreement_first :
    let s := (decryptRun .sample .sample
      [.start firstFrame, .resume 0 (), .resume 0 ()]).shared
    s.recvCache.lowestCounter = 0 ∧ s.recvCache.highestDerived = 8 ∧
      ∀ x, (s.recvCache.keys.get? x).isSome ↔ 0 ≤ x ∧ x ≤ 8 := by
  intro s
  have hlow : s.recvCache.lowestCounter = 0 := by decide +kernel
  have hhigh : s.recvCache.highestDerived = 8 := by decide +kernel
  refine ⟨hlow, hhigh, fun x => ?_⟩
  obtain ⟨hkeys, -⟩ := ratchet_schedule_agreement sample_aesGcmLaws RatchetSession.new_sample
    [.start firstFrame, .resume 0 (), .resume 0 ()]
  rw [hkeys x]
  show s.recvCache.lowestCounter ≤ x ∧ x ≤ s.recvCache.highestDerived ↔ 0 ≤ x ∧ x ≤ 8
  rw [hlow, hhigh]

/-! ## Which admitted frames find a key -/

/-- **The cache covers the window up to twice the lookahead.** In every
reachable session an admitted authentic frame finds its key and is decrypted
exactly when its counter is at most `2 * RECV_LOOKAHEAD` beyond the derived
end; and as long as only authentic frames arrive, that end is `RECV_LOOKAHEAD`
beyond the highest counter. -/
theorem lookup_covers_iff {P : Primitives} (hgcm : AesGcmLaws P) {opts : RatchetSessionOptions}
    {s : RatchetSession} (hs : RatchetSession.new P opts = .ok s) :
    (∀ ms n pt ad wire, AuthenticFrame P opts n pt ad wire →
      (decryptRun P s ms).shared.replay.canAccept n = true →
      (((decryptRun P s ms).shared.recvCache.get P n).1 ≠ none ∧
          ((RatchetSession.decrypt P wire ad).run () (decryptRun P s ms).shared).2 = .ok pt ↔
        (n : ℤ) ≤ (decryptRun P s ms).shared.recvCache.highestDerived + 2 * RECV_LOOKAHEAD)) ∧
    (∀ frames : List Frame, (∀ f ∈ frames, ∃ n pt, AuthenticFrame P opts n pt f.2 f.1) →
      (decryptAll P s frames).recvCache.highestDerived =
        (decryptAll P s frames).replay.highest + RECV_LOOKAHEAD) := by
  refine ⟨?_, ?_⟩
  · intro ms n pt ad wire hauth hacc
    have hinv := decryptRun_inv hs ms
    have hkey := hinv.schedule.lookup_ne_none_iff hacc
    constructor
    · rintro ⟨hfound, -⟩
      exact hkey.mp hfound
    · intro hle
      have hfound := hkey.mpr hle
      exact ⟨hfound,
        decrypt_authentic hgcm hinv.schedule hinv.direction hauth hacc hfound⟩
  · intro frames hauth
    exact decryptAll_tight hs frames (noVainLookup_of_authentic hgcm hs frames hauth)

/-- A fresh session decrypts frame 23. -/
theorem lookup_covers_frame_23 :
    ((RatchetSession.decrypt .sample
      (sentWire .sample RatchetSessionOptions.sample.recvChainKey .responder 23 [42] []) []).run ()
        RatchetSession.sample).2 = .ok [42] :=
  (((lookup_covers_iff sample_aesGcmLaws RatchetSession.new_sample).1 [] 23 [42] [] _
    (authenticFrame_sentWire RatchetSession.new_sample (by decide) [42] []) (by decide)).mpr
      (by decide +kernel)).2

/-- When a fresh session loses the first twenty-four frames, every later
frame is admitted by the window and refused for want of a key, for ever. -/
theorem locked_out {n : ℕ} (hn : 24 ≤ n) (hn' : n < 2 ^ 64) (pt ad : Bytes) :
    let wire := sentWire .sample RatchetSessionOptions.sample.recvChainKey .responder n pt ad
    AuthenticFrame .sample .sample n pt ad wire ∧
      RatchetSession.sample.replay.canAccept n = true ∧
      (RatchetSession.sample.recvCache.get .sample n).1 = none ∧
      ∃ e, (RatchetSession.decrypt .sample wire ad).run () RatchetSession.sample =
        (RatchetSession.sample, .error e) := by
  intro wire
  have hauth : AuthenticFrame .sample .sample n pt ad wire :=
    authenticFrame_sentWire RatchetSession.new_sample hn' pt ad
  have hinv := RatchetSession.new_scheduleInv RatchetSession.new_sample
  have hhd : RatchetSession.sample.recvCache.highestDerived = 7 :=
    RecvKeyCache.new_highestDerived _ _
  have hacc : RatchetSession.sample.replay.canAccept n = true :=
    ReplayWindow.canAccept_iff.mpr ⟨by omega, Or.inl (by decide)⟩
  refine ⟨hauth, hacc, ?_, ?_⟩
  · rw [hinv.lookup hacc, hhd, if_neg (by omega)]
  · obtain ⟨hctr, -, -⟩ := hauth.spec sample_aesGcmLaws
    refine decrypt_run_refused (f := (wire, ad)) hinv ?_
    rintro ⟨-, hle⟩
    rw [hhd, Frame.counter, hctr] at hle
    omega

theorem lost_frames_lock_out :
    let wire := sentWire .sample RatchetSessionOptions.sample.recvChainKey .responder 24 [42] []
    AuthenticFrame .sample .sample 24 [42] [] wire ∧
      RatchetSession.sample.replay.canAccept 24 = true ∧
      (RatchetSession.sample.recvCache.get .sample 24).1 = none ∧
      ∃ e, (RatchetSession.decrypt .sample wire []).run () RatchetSession.sample =
        (RatchetSession.sample, .error e) :=
  locked_out (by decide) (by decide) [42] []

/-! ## Which rejected frames leave the session alone -/

/-- **A rejected frame leaves the session unchanged exactly when its lookup
derives no key**; and a sequence of calls in which no rejected frame does so
keeps at most a window and a lookahead of keys. -/
theorem rejected_frame_unchanged_iff {P : Primitives} {opts : RatchetSessionOptions}
    {s : RatchetSession} (hs : RatchetSession.new P opts = .ok s) :
    (∀ ms wire ad e,
      ((RatchetSession.decrypt P wire ad).run () (decryptRun P s ms).shared).2 = .error e →
      (((RatchetSession.decrypt P wire ad).run () (decryptRun P s ms).shared).1 =
          (decryptRun P s ms).shared ↔
        ¬ Extends (decryptRun P s ms).shared (wire, ad))) ∧
    (∀ frames, NoVainLookup P s frames →
      (decryptAll P s frames).recvCache.keys.size ≤ RECV_WINDOW_SIZE + RECV_LOOKAHEAD) := by
  refine ⟨?_, ?_⟩
  · intro ms wire ad e hthrow
    have hinv := decryptRun_inv hs ms
    exact decryptOne_unchanged_iff (f := (wire, ad)) hinv.schedule rfl hthrow
  · intro frames hvain
    obtain ⟨ms, hms⟩ := decryptAll_eq_run P s frames
    have hinv := (decryptRun_inv hs ms).schedule
    rw [hms] at hinv
    exact hinv.size_le (decryptAll_tight hs frames hvain)

/-- A frame that only claims to be frame 8: the counter and an empty tag. -/
def forgedFrame : Frame := (setBigUint64 8 ++ List.replicate 16 0, [])

/-- A replay of the first frame changes nothing. -/
theorem replayed_frame_unchanged :
    ((RatchetSession.decrypt .sample firstFrame.1 firstFrame.2).run ()
        (decryptRun .sample .sample [.start firstFrame, .resume 0 (), .resume 0 ()]).shared).1 =
      (decryptRun .sample .sample [.start firstFrame, .resume 0 (), .resume 0 ()]).shared := by
  have hthrow : ((RatchetSession.decrypt .sample firstFrame.1 firstFrame.2).run ()
      (decryptRun .sample .sample [.start firstFrame, .resume 0 (), .resume 0 ()]).shared).2 =
        .error (RatchetSession.replayRejected 0) := by
    decide +kernel
  exact ((rejected_frame_unchanged_iff RatchetSession.new_sample).1 _ _ _ _ hthrow).mpr
    (by decide +kernel)

/-- The forged frame fails at the AEAD, and has made a fresh session derive
nine keys. -/
theorem forged_frame_advances_chain :
    ((RatchetSession.decrypt .sample forgedFrame.1 forgedFrame.2).run ()
      RatchetSession.sample).2 = .error .library ∧
    ((RatchetSession.decrypt .sample forgedFrame.1 forgedFrame.2).run ()
      RatchetSession.sample).1 ≠ RatchetSession.sample ∧
    RatchetSession.sample.recvCache.keys.size = 8 ∧
    ((RatchetSession.decrypt .sample forgedFrame.1 forgedFrame.2).run ()
      RatchetSession.sample).1.recvCache.keys.size = 17 := by
  have hbefore : RatchetSession.sample.recvCache.keys.size = 8 := by decide +kernel
  have hafter : ((RatchetSession.decrypt .sample forgedFrame.1 forgedFrame.2).run ()
      RatchetSession.sample).1.recvCache.keys.size = 17 := by
    decide +kernel
  refine ⟨by decide +kernel, fun heq => ?_, hbefore, hafter⟩
  rw [heq, hbefore] at hafter
  exact absurd hafter (by decide)

end Oxpulse.Crypto
