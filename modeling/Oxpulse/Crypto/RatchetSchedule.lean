import Mathlib.Algebra.Order.Group.Int
import Oxpulse.Crypto.Laws
import Oxpulse.Crypto.SessionRatchet

/-!
# The receive cache follows the key schedule

The abstract view of a ratchet is a chain key and a span of counters: frame
`n` is sealed under `frameKey ck n`, the key derived after `n` chain steps.
`Tracks` says that a cache holds exactly the keys of its span, with its two
chain values at the two ends; every operation of `RecvKeyCache` keeps it and
is summarised by what it does to the span.

`ScheduleInv` ties the span to the replay window: the cache starts at the
window's floor and reaches at least `RECV_LOOKAHEAD` beyond the highest
committed counter.
-/

namespace Oxpulse.Crypto

open Oxpulse.Coroutine

/-- The chain key after `n` steps. -/
def chainAt (P : Primitives) (ck : Bytes) (n : ℕ) : Bytes := (ratchetChain P)^[n] ck

/-- The key of frame `n`. -/
def frameKey (P : Primitives) (ck : Bytes) (n : ℕ) : Bytes := deriveFrameKey P (chainAt P ck n)

theorem chainAt_succ (P : Primitives) (ck : Bytes) (n : ℕ) :
    chainAt P ck (n + 1) = ratchetChain P (chainAt P ck n) :=
  Function.iterate_succ_apply' _ _ _

theorem recv_window_size : (RECV_WINDOW_SIZE : ℤ) = 64 := rfl
theorem recv_lookahead : (RECV_LOOKAHEAD : ℤ) = 8 := rfl

namespace RecvKeyCache

variable {P : Primitives} {ck : Bytes} {c : RecvKeyCache}

/-- The cache holds the keys of `lowestCounter .. highestDerived` and nothing
else, and its chain values are those of the two ends. -/
structure Tracks (P : Primitives) (ck : Bytes) (c : RecvKeyCache) : Prop where
  low : 0 ≤ c.lowestCounter
  span : c.lowestCounter ≤ c.highestDerived + 1
  keys : ∀ x, c.keys.get? x =
    if c.lowestCounter ≤ x ∧ x ≤ c.highestDerived then some (frameKey P ck x.toNat) else none
  chainAtLowest : c.chainAtLowest = chainAt P ck c.lowestCounter.toNat
  chain : c.chain = chainAt P ck (c.highestDerived + 1).toNat

/-! ## Extending the span upwards -/

theorem Tracks.deriveNext (h : c.Tracks P ck) : (c.deriveNext P).Tracks P ck where
  low := h.low
  span := by
    have := h.span
    simp only [RecvKeyCache.deriveNext]
    omega
  keys := by
    intro x
    have hlow := h.low
    have hspan := h.span
    simp only [RecvKeyCache.deriveNext, InsMap.get?_set, h.keys, h.chain]
    by_cases hx : c.highestDerived + 1 = x
    · subst hx
      rw [if_pos rfl, if_pos ⟨hspan, le_refl _⟩, frameKey]
    · rw [if_neg hx]
      by_cases hin : c.lowestCounter ≤ x ∧ x ≤ c.highestDerived
      · rw [if_pos hin, if_pos ⟨hin.1, by omega⟩]
      · rw [if_neg hin, if_neg (by omega)]
  chainAtLowest := h.chainAtLowest
  chain := by
    have hlow := h.low
    have hspan := h.span
    simp only [RecvKeyCache.deriveNext, h.chain]
    rw [← chainAt_succ]
    congr 1
    omega

theorem deriveNext_iterate (n : ℕ) :
    ((RecvKeyCache.deriveNext P)^[n] c).lowestCounter = c.lowestCounter ∧
    ((RecvKeyCache.deriveNext P)^[n] c).highestDerived = c.highestDerived + n := by
  induction n with
  | zero => simp
  | succ n ih =>
      rw [Function.iterate_succ_apply']
      refine ⟨ih.1, ?_⟩
      simp only [RecvKeyCache.deriveNext, ih.2]
      omega

theorem Tracks.fill (h : c.Tracks P ck) (upTo : ℤ) : (c.fill P upTo).Tracks P ck := by
  unfold RecvKeyCache.fill
  induction (upTo - c.highestDerived).toNat with
  | zero => exact h
  | succ n ih =>
      rw [Function.iterate_succ_apply']
      exact ih.deriveNext

@[simp] theorem fill_lowestCounter (upTo : ℤ) :
    (c.fill P upTo).lowestCounter = c.lowestCounter :=
  (deriveNext_iterate _).1

@[simp] theorem fill_highestDerived (upTo : ℤ) :
    (c.fill P upTo).highestDerived = max c.highestDerived upTo := by
  rw [RecvKeyCache.fill, (deriveNext_iterate _).2]
  omega

theorem new_tracks (P : Primitives) (ck : Bytes) : (new P ck 0).Tracks P ck := by
  apply Tracks.fill
  exact ⟨le_refl _, by simp, fun x => by simp; omega, rfl, rfl⟩

theorem new_lowestCounter (P : Primitives) (ck : Bytes) : (new P ck 0).lowestCounter = 0 := by
  simp [new]

theorem new_highestDerived (P : Primitives) (ck : Bytes) : (new P ck 0).highestDerived = 7 := by
  simp [new, RECV_LOOKAHEAD]

/-! ## The lookup -/

theorem get_snd_tracks (h : c.Tracks P ck) (x : ℤ) : (c.get P x).2.Tracks P ck := by
  unfold RecvKeyCache.get
  split
  · exact h
  · simp only
    split
    · exact h.fill _
    · exact h

@[simp] theorem get_snd_lowestCounter (x : ℤ) :
    (c.get P x).2.lowestCounter = c.lowestCounter := by
  unfold RecvKeyCache.get
  split
  · rfl
  · simp only
    split
    · simp
    · rfl

/-- A lookup moves the derived end only for a counter of the extension range. -/
theorem get_snd_highestDerived (x : ℤ) :
    (c.get P x).2.highestDerived =
      if c.lowestCounter ≤ x ∧ c.highestDerived < x ∧ x ≤ c.highestDerived + 16 then x + 8
      else c.highestDerived := by
  unfold RecvKeyCache.get
  by_cases hlow : x < c.lowestCounter
  · rw [if_pos hlow, if_neg (by omega)]
  · rw [if_neg hlow]
    simp only [recv_lookahead, Int.reduceMul, gt_iff_lt]
    by_cases hx : c.highestDerived < x ∧ x ≤ c.highestDerived + 16
    · rw [if_pos hx, if_pos ⟨by omega, hx⟩, fill_highestDerived]
      omega
    · rw [if_neg hx, if_neg (by tauto)]

/-- Outside the extension range a lookup leaves the cache alone. -/
theorem get_snd_of_not_extending {x : ℤ}
    (h : ¬ (c.lowestCounter ≤ x ∧ c.highestDerived < x ∧ x ≤ c.highestDerived + 16)) :
    (c.get P x).2 = c := by
  unfold RecvKeyCache.get
  by_cases hlow : x < c.lowestCounter
  · rw [if_pos hlow]
  · rw [if_neg hlow]
    simp only [recv_lookahead, Int.reduceMul, gt_iff_lt]
    rw [if_neg (by omega)]

theorem highestDerived_le_get (x : ℤ) : c.highestDerived ≤ (c.get P x).2.highestDerived := by
  rw [get_snd_highestDerived]
  split <;> omega

/-- **The lookup, exactly.** It finds the schedule's key from the low end up to
sixteen counters beyond the derived end, and nothing outside. -/
theorem get_fst (h : c.Tracks P ck) (x : ℤ) :
    (c.get P x).1 =
      if c.lowestCounter ≤ x ∧ x ≤ c.highestDerived + 16 then some (frameKey P ck x.toNat)
      else none := by
  have hkeys : ∀ c' : RecvKeyCache, c'.Tracks P ck → c'.lowestCounter = c.lowestCounter →
      c'.keys.get? x =
        if c.lowestCounter ≤ x ∧ x ≤ c'.highestDerived then some (frameKey P ck x.toNat)
        else none := by
    intro c' h' hlow
    rw [h'.keys, hlow]
  unfold RecvKeyCache.get
  by_cases hlow : x < c.lowestCounter
  · rw [if_pos hlow, if_neg (by omega)]
  · rw [if_neg hlow]
    simp only [recv_lookahead, Int.reduceMul, gt_iff_lt]
    by_cases hx : c.highestDerived < x ∧ x ≤ c.highestDerived + 16
    · rw [if_pos hx, hkeys _ (h.fill _) (fill_lowestCounter _), fill_highestDerived,
        if_pos ⟨by omega, by omega⟩, if_pos ⟨by omega, hx.2⟩]
    · rw [if_neg hx, hkeys _ h rfl]
      by_cases hle : x ≤ c.highestDerived
      · rw [if_pos ⟨by omega, hle⟩, if_pos ⟨by omega, by omega⟩]
      · rw [if_neg (by omega), if_neg (by omega)]

/-! ## Pruning the span from below -/

/-- After `n` rounds of the pruning loop the cache tracks the span that starts
`n` counters higher; `lowestCounter` itself is only written after the loop. -/
theorem Tracks.dropKeys (h : c.Tracks P ck) (n : ℕ)
    (hn : c.lowestCounter + n ≤ c.highestDerived + 1) :
    ({ c.dropKeys P n with lowestCounter := c.lowestCounter + n }).Tracks P ck ∧
      (c.dropKeys P n).lowestCounter = c.lowestCounter ∧
      (c.dropKeys P n).highestDerived = c.highestDerived := by
  induction n with
  | zero => simpa [RecvKeyCache.dropKeys] using h
  | succ n ih =>
      obtain ⟨ht, hl, hh⟩ := ih (by omega)
      have hround : c.dropKeys P (n + 1) = dropKey P (c.dropKeys P n) (c.lowestCounter + n) := by
        simp [RecvKeyCache.dropKeys, List.range_succ]
      rw [hround]
      have hlow := h.low
      refine ⟨⟨?_, ?_, ?_, ?_, ?_⟩, hl, hh⟩
      · simp only
        omega
      · simp only [dropKey, hh]
        omega
      · intro x
        have hk := ht.keys x
        simp only [dropKey, InsMap.get?_delete, hh] at hk ⊢
        rw [hk]
        by_cases hx : c.lowestCounter + (n : ℤ) = x
        · rw [if_pos hx, if_neg (by omega)]
        · rw [if_neg hx]
          by_cases hin : c.lowestCounter + (n : ℤ) ≤ x ∧ x ≤ c.highestDerived
          · rw [if_pos hin, if_pos (by omega)]
          · rw [if_neg hin, if_neg (by omega)]
      · have hc := ht.chainAtLowest
        simp only [dropKey] at hc ⊢
        rw [hc, ← chainAt_succ]
        congr 1
        omega
      · exact ht.chain

theorem Tracks.pruneOlderThan (h : c.Tracks P ck) {x : ℤ} (hx : x ≤ c.highestDerived) :
    (c.pruneOlderThan P x).Tracks P ck ∧
    (c.pruneOlderThan P x).lowestCounter = max c.lowestCounter (x - 63) ∧
    (c.pruneOlderThan P x).highestDerived = max c.highestDerived (x + 8) := by
  have hspan := h.span
  have hwin := recv_window_size
  have hahead := recv_lookahead
  unfold RecvKeyCache.pruneOlderThan
  simp only
  by_cases hfloor : x - RECV_WINDOW_SIZE + 1 > c.lowestCounter
  · rw [if_pos hfloor, if_pos hfloor]
    have hn : c.lowestCounter + (x - RECV_WINDOW_SIZE + 1 - c.lowestCounter).toNat =
        x - RECV_WINDOW_SIZE + 1 := by
      omega
    obtain ⟨ht, hl, hh⟩ :=
      h.dropKeys (x - RECV_WINDOW_SIZE + 1 - c.lowestCounter).toNat (by omega)
    rw [hn] at ht
    refine ⟨ht.fill _, ?_, ?_⟩
    · rw [fill_lowestCounter]
      simp only
      omega
    · rw [fill_highestDerived]
      simp only [hh, hahead]
  · rw [if_neg hfloor, if_neg (lt_irrefl _), sub_self]
    have hloop : c.dropKeys P 0 = c := rfl
    rw [Int.toNat_zero, hloop]
    refine ⟨h.fill _, ?_, ?_⟩
    · rw [fill_lowestCounter]
      omega
    · rw [fill_highestDerived, hahead]

/-- The number of cached keys is the length of the span. -/
theorem Tracks.size (h : c.Tracks P ck) :
    (c.keys.size : ℤ) = c.highestDerived - c.lowestCounter + 1 := by
  have hspan := h.span
  have hl : c.keys.size = ((List.range (c.highestDerived + 1 - c.lowestCounter).toNat).map
      (fun i : ℕ => c.lowestCounter + (i : ℤ))).length := by
    apply InsMap.size_eq_of_keys
    · refine List.Nodup.map (fun i j hij => ?_) List.nodup_range
      omega
    · intro x
      rw [h.keys]
      simp only [List.mem_map, List.mem_range]
      constructor
      · intro hs
        have hin : c.lowestCounter ≤ x ∧ x ≤ c.highestDerived := by
          by_contra hn
          rw [if_neg hn] at hs
          exact Bool.noConfusion hs
        exact ⟨(x - c.lowestCounter).toNat, by omega, by omega⟩
      · rintro ⟨i, hi, rfl⟩
        rw [if_pos ⟨by omega, by omega⟩]
        rfl
  rw [hl, List.length_map, List.length_range]
  omega

end RecvKeyCache

/-! ## The session -/

/-- The cache tracks the schedule of `ck` from the floor of the replay window
to at least the lookahead beyond its highest counter. -/
structure ScheduleInv (P : Primitives) (ck : Bytes) (s : RatchetSession) : Prop where
  tracks : s.recvCache.Tracks P ck
  highest : -1 ≤ s.replay.highest
  floor : s.recvCache.lowestCounter = max 0 (s.replay.highest - 63)
  ahead : s.replay.highest + 8 ≤ s.recvCache.highestDerived

namespace RatchetSession

variable {P : Primitives} {ck : Bytes} {s : RatchetSession}

/-- What the constructor builds. -/
theorem new_ok {opts : RatchetSessionOptions} (h : new P opts = .ok s) :
    s = { sendChain := opts.sendChainKey
          sendCounter := 0
          localDir := opts.direction
          remoteDir := opts.direction.opposite
          recvCache := .new P opts.recvChainKey 0
          replay := .new } := by
  unfold new at h
  split at h
  · cases h
  · split at h
    · cases h
    · exact (Except.ok.inj h).symm

/-- The constructor accepts chain keys of 32 bytes only. -/
theorem new_lengths {opts : RatchetSessionOptions} (h : new P opts = .ok s) :
    opts.sendChainKey.length = CHAIN_KEY_BYTES ∧
      opts.recvChainKey.length = CHAIN_KEY_BYTES := by
  unfold new at h
  split at h
  · cases h
  · split at h
    · cases h
    · exact ⟨not_not.mp ‹_›, not_not.mp ‹_›⟩

theorem new_scheduleInv {opts : RatchetSessionOptions} (h : new P opts = .ok s) :
    ScheduleInv P opts.recvChainKey s := by
  rw [new_ok h]
  refine ⟨RecvKeyCache.new_tracks P _, ?_, ?_, ?_⟩
  · simp [ReplayWindow.new]
  · simp [ReplayWindow.new, RecvKeyCache.new_lowestCounter]
  · simp [ReplayWindow.new, RecvKeyCache.new_highestDerived]

end RatchetSession

/-- Valid options, and the session they construct, to evaluate runs on. -/
def RatchetSessionOptions.sample : RatchetSessionOptions where
  sendChainKey := List.replicate 32 2
  recvChainKey := List.replicate 32 1
  direction := .initiator

def RatchetSession.sample : RatchetSession where
  sendChain := RatchetSessionOptions.sample.sendChainKey
  sendCounter := 0
  localDir := .initiator
  remoteDir := .responder
  recvCache := .new .sample RatchetSessionOptions.sample.recvChainKey 0
  replay := .new

theorem RatchetSession.new_sample : RatchetSession.new .sample .sample = .ok .sample := rfl

namespace ScheduleInv

variable {P : Primitives} {ck : Bytes} {s : RatchetSession}

theorem afterLookup (h : ScheduleInv P ck s) (n : ℕ) :
    ScheduleInv P ck (RatchetSession.afterLookup P s n) := by
  refine ⟨RecvKeyCache.get_snd_tracks h.tracks _, h.highest, ?_, ?_⟩
  · simp only [RatchetSession.afterLookup, RecvKeyCache.get_snd_lowestCounter]
    exact h.floor
  · exact h.ahead.trans (RecvKeyCache.highestDerived_le_get _)

/-- Committing a counter the cache has derived keeps the two windows together. -/
theorem accept (h : ScheduleInv P ck s) {n : ℕ} (hn : (n : ℤ) ≤ s.recvCache.highestDerived) :
    ScheduleInv P ck (RatchetSession.accept P n s) := by
  obtain ⟨ht, hl, hh⟩ := h.tracks.pruneOlderThan hn
  have hcommit : (s.replay.commit n).highest = max s.replay.highest n :=
    ReplayWindow.commit_highest (by omega)
  have hfloor := h.floor
  have hahead := h.ahead
  have hhighest := h.highest
  refine ⟨ht, ?_, ?_, ?_⟩
  · simp only [RatchetSession.accept, hcommit]
    omega
  · simp only [RatchetSession.accept, hcommit, hl]
    omega
  · simp only [RatchetSession.accept, hcommit, hh]
    omega

end ScheduleInv

/-! ## The sending side -/

/-- The wire bytes of frame `n` of a sender with chain key `ck`. -/
def sentWire (P : Primitives) (ck : Bytes) (dir : Direction) (n : ℕ) (pt ad : Bytes) : Bytes :=
  setBigUint64 n ++ P.aesGcmSeal (frameKey P ck n) (makeNonce dir n) ad pt

/-- The session after it sent these plaintexts, each with its additional data. -/
def sendAll (P : Primitives) (s : RatchetSession) (sent : List (Bytes × Bytes)) :
    RatchetSession :=
  sent.foldl (fun s f => ((RatchetSession.encrypt P f.1 f.2).run () s).1) s

/-- `wire` is what the peer of a session built with `opts` sends as its frame
number `n`: the peer's session was constructed with the same chain key for the
opposite direction and sent `n` frames before. The counter travels in a 64-bit
field. -/
def AuthenticFrame (P : Primitives) (opts : RatchetSessionOptions) (n : ℕ)
    (pt ad wire : Bytes) : Prop :=
  n < 2 ^ 64 ∧ ∃ peer sender sent,
    RatchetSession.new P peer = .ok sender ∧ peer.sendChainKey = opts.recvChainKey ∧
      peer.direction = opts.direction.opposite ∧ sent.length = n ∧
      ((RatchetSession.encrypt P pt ad).run () (sendAll P sender sent)).2 = .ok wire

section Sending

variable {P : Primitives} {ck : Bytes} {dir : Direction} {n : ℕ} {s : RatchetSession}

/-- The sender is about to send frame `n`. -/
structure SendInv (P : Primitives) (ck : Bytes) (dir : Direction) (n : ℕ)
    (s : RatchetSession) : Prop where
  chain : s.sendChain = chainAt P ck n
  counter : s.sendCounter = n
  direction : s.localDir = dir

theorem SendInv.encrypt (h : SendInv P ck dir n s) (pt ad : Bytes) :
    ((RatchetSession.encrypt P pt ad).run () s).2 = .ok (sentWire P ck dir n pt ad) ∧
      SendInv P ck dir (n + 1) ((RatchetSession.encrypt P pt ad).run () s).1 := by
  refine ⟨?_, ?_, ?_, h.direction⟩
  · rw [sentWire, frameKey, ← h.chain, ← h.counter, ← h.direction]
    rfl
  · rw [chainAt_succ, ← h.chain]
    rfl
  · rw [← h.counter]
    rfl

theorem SendInv.sendAll (h : SendInv P ck dir n s) (sent : List (Bytes × Bytes)) :
    SendInv P ck dir (n + sent.length) (sendAll P s sent) := by
  induction sent generalizing n s with
  | nil => exact h
  | cons f sent ih =>
      have hstep := ih (h.encrypt f.1 f.2).2
      rw [List.length_cons, show n + (sent.length + 1) = n + 1 + sent.length by omega]
      exact hstep

/-- An authentic frame is the schedule's frame of its number. -/
theorem AuthenticFrame.wire_eq {opts : RatchetSessionOptions} {pt ad wire : Bytes}
    (h : AuthenticFrame P opts n pt ad wire) :
    wire = sentWire P opts.recvChainKey opts.direction.opposite n pt ad := by
  obtain ⟨-, peer, sender, sent, hnew, hck, hdir, rfl, hsend⟩ := h
  have hinit : SendInv P opts.recvChainKey opts.direction.opposite 0 sender := by
    rw [RatchetSession.new_ok hnew, ← hck, ← hdir]
    exact ⟨rfl, rfl, rfl⟩
  have hinv := hinit.sendAll sent
  rw [Nat.zero_add] at hinv
  rw [(hinv.encrypt pt ad).1] at hsend
  exact (Except.ok.inj hsend).symm

/-- Every frame number is reached by a peer. -/
theorem authenticFrame_sentWire {opts : RatchetSessionOptions}
    (hs : RatchetSession.new P opts = .ok s) (hn : n < 2 ^ 64) (pt ad : Bytes) :
    AuthenticFrame P opts n pt ad
      (sentWire P opts.recvChainKey opts.direction.opposite n pt ad) := by
  let peer : RatchetSessionOptions :=
    ⟨opts.recvChainKey, opts.sendChainKey, opts.direction.opposite⟩
  obtain ⟨hsend, hrecv⟩ := RatchetSession.new_lengths hs
  have hpeer : ∃ sender, RatchetSession.new P peer = .ok sender := by
    unfold RatchetSession.new
    rw [if_neg (not_not.mpr hrecv), if_neg (not_not.mpr hsend)]
    exact ⟨_, rfl⟩
  obtain ⟨sender, hnew⟩ := hpeer
  have hinit : SendInv P opts.recvChainKey opts.direction.opposite 0 sender := by
    rw [RatchetSession.new_ok hnew]
    exact ⟨rfl, rfl, rfl⟩
  have hinv := hinit.sendAll (List.replicate n ([], []))
  rw [Nat.zero_add, List.length_replicate] at hinv
  exact ⟨hn, peer, sender, List.replicate n ([], []), hnew, rfl, rfl, List.length_replicate,
    (hinv.encrypt pt ad).1⟩

/-- An authentic frame carries its number, is long enough, and is opened by
the key of its number. -/
theorem AuthenticFrame.spec (hgcm : AesGcmLaws P) {opts : RatchetSessionOptions}
    {pt ad wire : Bytes} (h : AuthenticFrame P opts n pt ad wire) :
    getBigUint64 wire = n ∧ 24 ≤ wire.length ∧
      P.aesGcmOpen (frameKey P opts.recvChainKey n) (makeNonce opts.direction.opposite n) ad
        (wire.drop 8) = some pt := by
  have hn : n < 2 ^ 64 := h.1
  rw [h.wire_eq]
  refine ⟨getBigUint64_setBigUint64 hn _, ?_, ?_⟩
  · simp only [sentWire, List.length_append, setBigUint64_length, hgcm.seal_length]
    omega
  · have hdrop : (sentWire P opts.recvChainKey opts.direction.opposite n pt ad).drop 8 =
        P.aesGcmSeal (frameKey P opts.recvChainKey n) (makeNonce opts.direction.opposite n)
          ad pt := by
      rw [sentWire, List.drop_append_of_le_length (by simp), List.drop_of_length_le (by simp),
        List.nil_append]
    rw [hdrop]
    exact hgcm.open_seal _ _ _ _

end Sending

end Oxpulse.Crypto
