import Oxpulse.Crypto.NonceUse
import Oxpulse.Crypto.RatchetWindow

/-!
# The steps of a session that sends and receives

The transport encrypts and decrypts over one session, and its calls overlap.
`SessionStep` says once what a step of such a run does. The receiving side follows
the key schedule in all of them (`Underway`); and as long as every frame that arrives
is authentic and within the window of those that came before it, no call of `decrypt`
rejects (`Flowing`).
-/

namespace Oxpulse.Crypto

open Oxpulse.Coroutine RatchetSession

abbrev SessionCall : Type := Call RatchetCall WebCryptoReply RatchetSession JsError Bytes

abbrev SessionStatus : Type := Status WebCryptoReply RatchetSession JsError Bytes

abbrev SessionCont : Type := WebCryptoReply → RatchetSession →
  Outcome WebCryptoReply RatchetSession JsError Bytes

/-- `decrypt` at `importKey`, with the key of the schedule. -/
def openingFrame (P : Primitives) (ck : Bytes) (dir : Direction) (wire ad : Bytes) : SessionCont :=
  fun _ => openFrame P wire ad (frameKey P ck (getBigUint64 wire))
    (makeNonce dir (getBigUint64 wire))

/-- `decrypt` at `subtle.decrypt`. -/
def finishingFrame (P : Primitives) (ck : Bytes) (dir : Direction) (wire ad : Bytes) :
    SessionCont :=
  fun _ => finishDecrypt P wire ad (frameKey P ck (getBigUint64 wire))
    (makeNonce dir (getBigUint64 wire))

/-- How a call goes on that is under way. -/
inductive GoesOn (P : Primitives) (ck : Bytes) (dir : Direction) : RatchetCall → SessionCont → Prop
  /-- `encrypt` at `importKey`. -/
  | imports (plaintext ad wire : Bytes) : GoesOn P ck dir (.encrypt plaintext ad) fun r => (do
      Co.ofExcept r
      Co.ofExcept (← Co.suspend)
      return wire : RatchetCo Bytes)
  /-- `encrypt` at `subtle.encrypt`. -/
  | seals (plaintext ad wire : Bytes) : GoesOn P ck dir (.encrypt plaintext ad) fun r => (do
      Co.ofExcept r
      return wire : RatchetCo Bytes)
  | opens (wire ad : Bytes) : GoesOn P ck dir (.decrypt wire ad) (openingFrame P ck dir wire ad)
  | finishes (wire ad : Bytes) :
      GoesOn P ck dir (.decrypt wire ad) (finishingFrame P ck dir wire ad)

/-- **What a step does.** -/
inductive SessionStep (P : Primitives) (ck : Bytes) (dir : Direction) (p : RatchetPool) :
    Move RatchetCall WebCryptoReply → RatchetPool → Prop where
  | sends (plaintext ad : Bytes) (k : SessionCont) : GoesOn P ck dir (.encrypt plaintext ad) k →
      SessionStep P ck dir p (.start (.encrypt plaintext ad))
        ⟨p.shared.advanceSend P, p.calls ++ [⟨.encrypt plaintext ad, .pending k⟩]⟩
  /-- Too short, spent, or without a key. -/
  | refuses (wire ad : Bytes) (e : JsError) (s' : RatchetSession) :
      s' = p.shared ∨ s' = p.shared.afterLookup P (getBigUint64 wire) →
      ¬ (Admitted p.shared (wire, ad) ∧
        (getBigUint64 wire : ℤ) ≤ p.shared.recvCache.highestDerived + 16) →
      SessionStep P ck dir p (.start (.decrypt wire ad))
        ⟨s', p.calls ++ [⟨.decrypt wire ad, .settled (.error e)⟩]⟩
  | admits (wire ad : Bytes) : Admitted p.shared (wire, ad) →
      (getBigUint64 wire : ℤ) ≤ p.shared.recvCache.highestDerived + 16 →
      SessionStep P ck dir p (.start (.decrypt wire ad))
        ⟨p.shared.afterLookup P (getBigUint64 wire),
          p.calls ++ [⟨.decrypt wire ad, .pending (openingFrame P ck dir wire ad)⟩]⟩
  /-- Nothing waits there. -/
  | idle (i : ℕ) (r : WebCryptoReply) :
      (∀ a k, p.calls[i]? ≠ some ⟨a, .pending k⟩) → SessionStep P ck dir p (.resume i r) p
  | sealing (i : ℕ) (r : WebCryptoReply) (plaintext ad : Bytes) (k : SessionCont)
      (st : SessionStatus) :
      p.calls[i]? = some ⟨.encrypt plaintext ad, .pending k⟩ →
      (∀ k', st = .pending k' → GoesOn P ck dir (.encrypt plaintext ad) k') →
      SessionStep P ck dir p (.resume i r)
        ⟨p.shared, p.calls.set i ⟨.encrypt plaintext ad, st⟩⟩
  | opening (i : ℕ) (r : WebCryptoReply) (wire ad : Bytes) (k : SessionCont) :
      p.calls[i]? = some ⟨.decrypt wire ad, .pending k⟩ →
      SessionStep P ck dir p (.resume i r)
        ⟨p.shared, p.calls.set i ⟨.decrypt wire ad, .pending (finishingFrame P ck dir wire ad)⟩⟩
  | fails (i : ℕ) (r : WebCryptoReply) (wire ad : Bytes) (k : SessionCont) :
      p.calls[i]? = some ⟨.decrypt wire ad, .pending k⟩ → frameOpen P ck dir (wire, ad) = none →
      SessionStep P ck dir p (.resume i r)
        ⟨p.shared, p.calls.set i ⟨.decrypt wire ad, .settled (.error .library)⟩⟩
  | delivers (i : ℕ) (r : WebCryptoReply) (wire ad plaintext : Bytes) (k : SessionCont) :
      p.calls[i]? = some ⟨.decrypt wire ad, .pending k⟩ →
      frameOpen P ck dir (wire, ad) = some plaintext →
      SessionStep P ck dir p (.resume i r)
        ⟨p.shared.accept P (getBigUint64 wire),
          p.calls.set i ⟨.decrypt wire ad, .settled (.ok plaintext)⟩⟩

/-- The receiving side follows the schedule, and so do the calls that are under way. -/
structure Underway (P : Primitives) (ck : Bytes) (dir : Direction) (p : RatchetPool) : Prop where
  schedule : ScheduleInv P ck p.shared
  direction : p.shared.remoteDir = dir
  goesOn : ∀ (i : ℕ) (a : RatchetCall) (k : SessionCont), p.calls[i]? = some ⟨a, .pending k⟩ →
    GoesOn P ck dir a k
  derived : ∀ (i : ℕ) (wire ad : Bytes) (k : SessionCont),
    p.calls[i]? = some ⟨.decrypt wire ad, .pending k⟩ →
      (getBigUint64 wire : ℤ) ≤ p.shared.recvCache.highestDerived

section Steps

variable {P : Primitives} {ck : Bytes} {dir : Direction} {p p' : RatchetPool}
  {mv : Move RatchetCall WebCryptoReply}

/-- The last segment of `decrypt`. -/
theorem finishingFrame_cases (P : Primitives) (ck : Bytes) (dir : Direction) (wire ad : Bytes)
    (r : WebCryptoReply) (s : RatchetSession) :
    (frameOpen P ck dir (wire, ad) = none ∧
      finishingFrame P ck dir wire ad r s = .throw s .library) ∨
    ∃ plaintext, frameOpen P ck dir (wire, ad) = some plaintext ∧
      finishingFrame P ck dir wire ad r s = .ret (s.accept P (getBigUint64 wire)) plaintext := by
  cases hopen : frameOpen P ck dir (wire, ad) with
  | none => exact Or.inl ⟨rfl, finishDecrypt_none hopen⟩
  | some plaintext => exact Or.inr ⟨plaintext, rfl, finishDecrypt_some hopen⟩

theorem decrypt_step (h : Underway P ck dir p) (wire ad : Bytes) :
    SessionStep P ck dir p (.start (.decrypt wire ad))
      (p.start (ratchetCall P) (.decrypt wire ad)) := by
  have hlookup := h.schedule.lookup (n := getBigUint64 wire)
  unfold Pool.start ratchetCall
  rcases decrypt_cases (ρ := WebCryptoReply) P wire ad p.shared with
    ⟨hshort, heq⟩ | ⟨-, hspent, heq⟩ | ⟨-, hacc, hnone, heq⟩ | ⟨key, hlen, hacc, hkey, heq⟩
  · simp only [heq]
    exact .refuses wire ad _ _ (.inl rfl) fun hadm => absurd hadm.1.1 (Nat.not_le.mpr hshort)
  · simp only [heq]
    refine .refuses wire ad _ _ (.inl rfl) fun hadm => ?_
    exact Bool.noConfusion (hspent.symm.trans hadm.1.2)
  · simp only [heq]
    refine .refuses wire ad _ _ (.inr rfl) fun hadm => ?_
    rw [hlookup hacc, if_pos hadm.2] at hnone
    cases hnone
  · rw [hlookup hacc] at hkey
    by_cases hreach : (getBigUint64 wire : ℤ) ≤ p.shared.recvCache.highestDerived + 16
    · rw [if_pos hreach] at hkey
      cases hkey
      rw [h.direction] at heq
      simp only [heq]
      exact .admits wire ad ⟨hlen, hacc⟩ hreach
    · rw [if_neg hreach] at hkey
      cases hkey

theorem resume_session_step (h : Underway P ck dir p) (i : ℕ) (r : WebCryptoReply) :
    SessionStep P ck dir p (.resume i r) (p.resume i r) := by
  by_cases hi : ∃ a k, p.calls[i]? = some ⟨a, .pending k⟩
  · obtain ⟨a, k, hi⟩ := hi
    have hgoes := h.goesOn i a k hi
    rw [Pool.resume_of_pending hi]
    cases hgoes with
    | imports plaintext ad wire =>
        cases r with
        | error e => exact .sealing i _ plaintext ad _ _ hi (by rintro k' ⟨⟩)
        | ok _ =>
            refine .sealing i _ plaintext ad _ _ hi ?_
            rintro k' ⟨⟩
            exact .seals plaintext ad wire
    | seals plaintext ad wire =>
        cases r with
        | error e => exact .sealing i _ plaintext ad _ _ hi (by rintro k' ⟨⟩)
        | ok _ => exact .sealing i _ plaintext ad _ _ hi (by rintro k' ⟨⟩)
    | opens wire ad => exact .opening i r wire ad _ hi
    | finishes wire ad =>
        rcases finishingFrame_cases P ck dir wire ad r p.shared with
          ⟨hopen, heq⟩ | ⟨plaintext, hopen, heq⟩
        · rw [heq]
          exact .fails i r wire ad _ hi hopen
        · rw [heq]
          exact .delivers i r wire ad plaintext _ hi hopen
  · rcases Pool.resume_cases p i r with heq | ⟨a, k, hi', -⟩
    · rw [heq]
      exact .idle i r fun a k hi' => hi ⟨a, k, hi'⟩
    · exact absurd ⟨a, k, hi'⟩ hi

/-- **Every step is one of these.** -/
theorem session_step (h : Underway P ck dir p) (mv : Move RatchetCall WebCryptoReply) :
    SessionStep P ck dir p mv (p.step (ratchetCall P) mv) := by
  cases mv with
  | resume i r => exact resume_session_step h i r
  | start a =>
      cases a with
      | decrypt wire ad => exact decrypt_step h wire ad
      | encrypt plaintext ad => exact .sends plaintext ad _ (.imports plaintext ad _)

/-! ## The receiving side -/

theorem ScheduleInv.of_same {s s' : RatchetSession} (h : ScheduleInv P ck s)
    (hcache : s'.recvCache = s.recvCache) (hreplay : s'.replay = s.replay) :
    ScheduleInv P ck s' := by
  refine ⟨?_, ?_, ?_, ?_⟩
  · rw [hcache]
    exact h.tracks
  · rw [hreplay]
    exact h.highest
  · rw [hcache, hreplay]
    exact h.floor
  · rw [hcache, hreplay]
    exact h.ahead

/-- The derived end after an admitted lookup. -/
theorem ScheduleInv.reaches {s : RatchetSession} {f : Frame} (h : ScheduleInv P ck s)
    (hadm : Admitted s f) (hreach : (f.counter : ℤ) ≤ s.recvCache.highestDerived + 16) :
    (f.counter : ℤ) ≤ (s.afterLookup P f.counter).recvCache.highestDerived := by
  rw [afterLookup_highestDerived h hadm]
  split <;> omega

theorem Underway.replace (h : Underway P ck dir p) {s' : RatchetSession}
    (hschedule : ScheduleInv P ck s') (hdirection : s'.remoteDir = p.shared.remoteDir)
    (hderived : p.shared.recvCache.highestDerived ≤ s'.recvCache.highestDerived)
    {calls' : List SessionCall}
    (hcalls : ∀ (i : ℕ) (a : RatchetCall) (k : SessionCont), calls'[i]? = some ⟨a, .pending k⟩ →
      (∃ k', p.calls[i]? = some ⟨a, .pending k'⟩ ∧ GoesOn P ck dir a k) ∨
        (GoesOn P ck dir a k ∧ ∀ wire ad, a = .decrypt wire ad →
          (getBigUint64 wire : ℤ) ≤ s'.recvCache.highestDerived)) :
    Underway P ck dir ⟨s', calls'⟩ where
  schedule := hschedule
  direction := hdirection.trans h.direction
  goesOn := by
    intro i a k hi
    rcases hcalls i a k hi with ⟨-, -, hgoes⟩ | ⟨hgoes, -⟩
    · exact hgoes
    · exact hgoes
  derived := by
    intro i wire ad k hi
    rcases hcalls i _ k hi with ⟨k', hold, -⟩ | ⟨-, hle⟩
    · exact (h.derived i wire ad k' hold).trans hderived
    · exact hle wire ad rfl

theorem SessionStep.underway (h : Underway P ck dir p) (hstep : SessionStep P ck dir p mv p') :
    Underway P ck dir p' := by
  cases hstep with
  | sends plaintext ad k hgoes =>
      have hschedule : ScheduleInv P ck (p.shared.advanceSend P) := h.schedule.of_same rfl rfl
      refine h.replace hschedule rfl (le_refl _) fun i a k' hi => ?_
      rcases Pool.concat_cases hi with ⟨-, hold⟩ | ⟨-, hnew⟩
      · exact Or.inl ⟨k', hold, h.goesOn i a k' hold⟩
      · cases hnew
        exact Or.inr ⟨hgoes, nofun⟩
  | refuses wire ad e s' hs' _ =>
      refine h.replace ?_ ?_ ?_ fun i a k hi => ?_
      · rcases hs' with rfl | rfl
        · exact h.schedule
        · exact h.schedule.afterLookup _
      · rcases hs' with rfl | rfl <;> rfl
      · rcases hs' with rfl | rfl
        · exact le_refl _
        · exact RecvKeyCache.highestDerived_le_get _
      · rcases Pool.concat_cases hi with ⟨-, hold⟩ | ⟨-, hnew⟩
        · exact Or.inl ⟨k, hold, h.goesOn i a k hold⟩
        · cases hnew
  | admits wire ad hadm hreach =>
      refine h.replace (h.schedule.afterLookup _) rfl (RecvKeyCache.highestDerived_le_get _)
        fun i a k hi => ?_
      rcases Pool.concat_cases hi with ⟨-, hold⟩ | ⟨-, hnew⟩
      · exact Or.inl ⟨k, hold, h.goesOn i a k hold⟩
      · cases hnew
        refine Or.inr ⟨.opens wire ad, ?_⟩
        rintro _ _ ⟨⟩
        exact h.schedule.reaches hadm hreach
  | idle i r _ => exact h
  | sealing i r plaintext ad k st hi hst =>
      refine h.replace h.schedule rfl (le_refl _) fun j a k' hj => ?_
      rcases Pool.set_cases hj with ⟨-, hold⟩ | ⟨rfl, hnew⟩
      · exact Or.inl ⟨k', hold, h.goesOn j a k' hold⟩
      · cases hnew
        exact Or.inl ⟨k, hi, hst k' rfl⟩
  | opening i r wire ad k hi =>
      refine h.replace h.schedule rfl (le_refl _) fun j a k' hj => ?_
      rcases Pool.set_cases hj with ⟨-, hold⟩ | ⟨rfl, hnew⟩
      · exact Or.inl ⟨k', hold, h.goesOn j a k' hold⟩
      · cases hnew
        exact Or.inl ⟨k, hi, .finishes wire ad⟩
  | fails i r wire ad k hi _ =>
      refine h.replace h.schedule rfl (le_refl _) fun j a k' hj => ?_
      rcases Pool.set_cases hj with ⟨-, hold⟩ | ⟨rfl, hnew⟩
      · exact Or.inl ⟨k', hold, h.goesOn j a k' hold⟩
      · cases hnew
  | delivers i r wire ad plaintext k hi _ =>
      have hle := h.derived i wire ad k hi
      obtain ⟨-, -, hprune⟩ := h.schedule.tracks.pruneOlderThan hle
      refine h.replace (h.schedule.accept hle) rfl ?_ fun j a k' hj => ?_
      · simp only [RatchetSession.accept, hprune]
        omega
      · rcases Pool.set_cases hj with ⟨-, hold⟩ | ⟨rfl, hnew⟩
        · exact Or.inl ⟨k', hold, h.goesOn j a k' hold⟩
        · cases hnew

/-- What calls of `decrypt` returned. -/
def Opened (P : Primitives) (ck : Bytes) (dir : Direction) (p : RatchetPool) : Prop :=
  ∀ (i : ℕ) (wire ad plaintext : Bytes),
    p.calls[i]? = some ⟨.decrypt wire ad, .settled (.ok plaintext)⟩ →
      frameOpen P ck dir (wire, ad) = some plaintext

theorem SessionStep.opened (h : Opened P ck dir p) (hstep : SessionStep P ck dir p mv p') :
    Opened P ck dir p' := by
  intro i wire ad plaintext hi
  cases hstep with
  | sends _ _ _ _ =>
      rcases Pool.concat_cases hi with ⟨-, hold⟩ | ⟨-, hnew⟩
      · exact h i wire ad plaintext hold
      · cases hnew
  | refuses _ _ _ _ _ _ =>
      rcases Pool.concat_cases hi with ⟨-, hold⟩ | ⟨-, hnew⟩
      · exact h i wire ad plaintext hold
      · cases hnew
  | admits _ _ _ _ =>
      rcases Pool.concat_cases hi with ⟨-, hold⟩ | ⟨-, hnew⟩
      · exact h i wire ad plaintext hold
      · cases hnew
  | idle _ _ _ => exact h i wire ad plaintext hi
  | sealing _ _ _ _ _ _ _ _ =>
      rcases Pool.set_cases hi with ⟨-, hold⟩ | ⟨-, hnew⟩
      · exact h i wire ad plaintext hold
      · cases hnew
  | opening _ _ _ _ _ _ =>
      rcases Pool.set_cases hi with ⟨-, hold⟩ | ⟨-, hnew⟩
      · exact h i wire ad plaintext hold
      · cases hnew
  | fails _ _ _ _ _ _ _ =>
      rcases Pool.set_cases hi with ⟨-, hold⟩ | ⟨-, hnew⟩
      · exact h i wire ad plaintext hold
      · cases hnew
  | delivers _ _ _ _ _ _ _ hopen =>
      rcases Pool.set_cases hi with ⟨-, hold⟩ | ⟨-, hnew⟩
      · exact h i wire ad plaintext hold
      · cases hnew
        exact hopen

/-- **Every run of a constructed session follows the schedule.** -/
theorem ratchetRun_underway {opts : RatchetSessionOptions} {s : RatchetSession}
    (hs : RatchetSession.new P opts = .ok s) (ms : RatchetMoves) :
    Underway P opts.recvChainKey opts.direction.opposite (ratchetRun P s ms) ∧
      Opened P opts.recvChainKey opts.direction.opposite (ratchetRun P s ms) := by
  induction ms using List.reverseRecOn with
  | nil =>
      refine ⟨⟨new_scheduleInv hs, ?_, nofun, nofun⟩, nofun⟩
      rw [new_ok hs]
      rfl
  | append_singleton ms mv ih =>
      have hstep := session_step ih.1 mv
      unfold ratchetRun at hstep ih ⊢
      rw [Pool.exec_concat]
      exact ⟨hstep.underway ih.1, hstep.opened ih.2⟩

end Steps

/-! ## Frames within the window -/

/-- The counters of the frames that these calls open. -/
def received (calls : List RatchetCall) : List ℕ := calls.filterMap fun
  | .decrypt wire _ => some (getBigUint64 wire)
  | .encrypt _ _ => none

/-- A counter that fits those before it. -/
structure InWindow (before : List ℕ) (n : ℕ) : Prop where
  new : n ∉ before
  recent : ∀ m ∈ before, m < n + 64
  near : n < 24 ∨ ∃ m ∈ before, n ≤ m + 16

/-- So far nothing was refused. -/
structure Flowing (P : Primitives) (ck : Bytes) (dir : Direction) (p : RatchetPool) : Prop where
  base : 7 ≤ p.shared.recvCache.highestDerived
  derived : ∀ n ∈ received (p.calls.map Call.arg), (n : ℤ) ≤ p.shared.recvCache.highestDerived
  highest : p.shared.replay.highest < 0 ∨
    ∃ n ∈ received (p.calls.map Call.arg), (n : ℤ) = p.shared.replay.highest
  marked : 0 ≤ p.shared.replay.highest → ∀ x : ℤ, x ≤ p.shared.replay.highest →
    p.shared.replay.highest - x < 64 →
    p.shared.replay.bitmap.testBit (p.shared.replay.highest - x).toNat = true →
      ∃ n ∈ received (p.calls.map Call.arg), (n : ℤ) = x
  opens : ∀ (i : ℕ) (wire ad : Bytes) (st : SessionStatus), p.calls[i]? = some ⟨.decrypt wire ad, st⟩ →
    (frameOpen P ck dir (wire, ad)).isSome ∧ ∀ e, st ≠ .settled (.error e)

section Window

variable {P : Primitives} {ck : Bytes} {dir : Direction} {p p' : RatchetPool}
  {mv : Move RatchetCall WebCryptoReply}

theorem received_append (calls calls' : List RatchetCall) :
    received (calls ++ calls') = received calls ++ received calls' := List.filterMap_append

theorem received_mem {wire ad : Bytes} {calls : List RatchetCall} (h : .decrypt wire ad ∈ calls) :
    getBigUint64 wire ∈ received calls :=
  List.mem_filterMap.mpr ⟨_, h, rfl⟩

/-- The replay window takes a counter that fits. -/
theorem Flowing.canAccept (h : Flowing P ck dir p) {n : ℕ}
    (hn : InWindow (received (p.calls.map Call.arg)) n) : p.shared.replay.canAccept n = true := by
  rw [ReplayWindow.canAccept_iff]
  refine ⟨Int.natCast_nonneg n, ?_⟩
  rcases h.highest with hneg | ⟨m, hm, hhighest⟩
  · exact Or.inl hneg
  right
  by_cases hlt : p.shared.replay.highest < n
  · exact Or.inl hlt
  right
  have hrecent := hn.recent m hm
  refine ⟨by omega, Bool.eq_false_iff.mpr fun hbit => ?_⟩
  obtain ⟨n', hn', heq⟩ := h.marked (by omega) n (by omega) (by omega) hbit
  rw [Int.natCast_inj] at heq
  subst heq
  exact hn.new hn'

/-- And the key cache reaches it. -/
theorem Flowing.reach (h : Flowing P ck dir p) {n : ℕ}
    (hn : InWindow (received (p.calls.map Call.arg)) n) :
    (n : ℤ) ≤ p.shared.recvCache.highestDerived + 16 := by
  rcases hn.near with hfirst | ⟨m, hm, hnear⟩
  · have hbase := h.base
    omega
  · have hderived := h.derived m hm
    omega

/-- A committed counter is marked, and no other one. -/
theorem Flowing.commit (h : Flowing P ck dir p) {n : ℕ}
    (hn : n ∈ received (p.calls.map Call.arg)) {x : ℤ}
    (hx : x ≤ (p.shared.replay.commit n).highest)
    (hw : (p.shared.replay.commit n).highest - x < 64)
    (hbit : (p.shared.replay.commit n).bitmap.testBit
      ((p.shared.replay.commit n).highest - x).toNat = true) :
    ∃ m ∈ received (p.calls.map Call.arg), (m : ℤ) = x := by
  have hmax := ReplayWindow.commit_highest (w := p.shared.replay) (Int.natCast_nonneg n)
  by_cases hneg : p.shared.replay.highest < 0
  · unfold ReplayWindow.commit at hx hw hbit
    rw [if_pos hneg] at hx hw hbit
    have hzero : ((n : ℤ) - x).toNat = 0 := by
      by_contra hpos
      exact hpos (Nat.testBit_one_eq_true_iff_self_eq_zero.mp hbit)
    exact ⟨n, hn, by dsimp only at hx; omega⟩
  · rw [hmax] at hx hw hbit
    rcases (ReplayWindow.commit_testBit (Int.natCast_nonneg n) (by omega) hx hw).mp hbit with
      rfl | ⟨hle, hold⟩
    · exact ⟨n, hn, rfl⟩
    · exact h.marked (by omega) x hle (by omega) hold

theorem Flowing.replace (h : Flowing P ck dir p) {s' : RatchetSession} {calls' : List SessionCall}
    (hderived : p.shared.recvCache.highestDerived ≤ s'.recvCache.highestDerived)
    (hreplay : s'.replay = p.shared.replay ∨ ∃ n ∈ received (p.calls.map Call.arg),
      s'.replay = p.shared.replay.commit n)
    (hold : ∀ n ∈ received (p.calls.map Call.arg), n ∈ received (calls'.map Call.arg))
    (hnew : ∀ n ∈ received (calls'.map Call.arg), n ∈ received (p.calls.map Call.arg) ∨
      (n : ℤ) ≤ s'.recvCache.highestDerived)
    (hcalls : ∀ (i : ℕ) (wire ad : Bytes) (st : SessionStatus), calls'[i]? = some ⟨.decrypt wire ad, st⟩ →
      ((∃ st', p.calls[i]? = some ⟨.decrypt wire ad, st'⟩) ∨
        (frameOpen P ck dir (wire, ad)).isSome) ∧
      ((∃ e, st = .settled (.error e)) → p.calls[i]? = some ⟨.decrypt wire ad, st⟩)) :
    Flowing P ck dir ⟨s', calls'⟩ where
  base := h.base.trans hderived
  derived := by
    intro n hn
    rcases hnew n hn with hbefore | hle
    · exact (h.derived n hbefore).trans hderived
    · exact hle
  highest := by
    dsimp only
    rcases hreplay with hsame | ⟨n, hn, hcommit⟩
    · rw [hsame]
      exact h.highest.imp id fun ⟨n, hn, heq⟩ => ⟨n, hold n hn, heq⟩
    · rw [hcommit, ReplayWindow.commit_highest (Int.natCast_nonneg n)]
      right
      rcases h.highest with hneg | ⟨m, hm, heq⟩
      · exact ⟨n, hold n hn, by omega⟩
      · rcases le_total (m : ℤ) n with hle | hle
        · exact ⟨n, hold n hn, by omega⟩
        · exact ⟨m, hold m hm, by omega⟩
  marked := by
    dsimp only
    intro hpos x hx hw hbit
    rcases hreplay with hsame | ⟨n, hn, hcommit⟩
    · rw [hsame] at hpos hx hw hbit
      obtain ⟨m, hm, heq⟩ := h.marked hpos x hx hw hbit
      exact ⟨m, hold m hm, heq⟩
    · rw [hcommit] at hx hw hbit
      obtain ⟨m, hm, heq⟩ := h.commit hn hx hw hbit
      exact ⟨m, hold m hm, heq⟩
  opens := by
    intro i wire ad st hi
    obtain ⟨hopen, herror⟩ := hcalls i wire ad st hi
    constructor
    · rcases hopen with ⟨st', hbefore⟩ | hsome
      · exact (h.opens i wire ad st' hbefore).1
      · exact hsome
    · rintro e rfl
      exact (h.opens i wire ad _ (herror ⟨e, rfl⟩)).2 e rfl

/-- What arrives within the window does not stop the flow. -/
theorem SessionStep.flowing (hp : Underway P ck dir p) (h : Flowing P ck dir p)
    (hstep : SessionStep P ck dir p mv p')
    (hmv : ∀ wire ad, mv = .start (.decrypt wire ad) → 24 ≤ wire.length ∧
      (frameOpen P ck dir (wire, ad)).isSome ∧
        InWindow (received (p.calls.map Call.arg)) (getBigUint64 wire)) :
    Flowing P ck dir p' := by
  have hset : ∀ {i : ℕ} {a : RatchetCall} {k : SessionCont} {st},
      p.calls[i]? = some ⟨a, .pending k⟩ →
        (p.calls.set i ⟨a, st⟩).map Call.arg = p.calls.map Call.arg :=
    fun hi => Pool.map_arg_set hi
  cases hstep with
  | sends plaintext ad k _ =>
      have hargs : ∀ c : SessionCall, c.arg = .encrypt plaintext ad →
          received ((p.calls ++ [c]).map Call.arg) = received (p.calls.map Call.arg) := by
        intro c hc
        rw [List.map_append, received_append, List.map_singleton, hc]
        exact List.append_nil _
      refine h.replace ?_ ?_ ?_ ?_ ?_
      · exact le_refl _
      · exact .inl rfl
      · intro n hn
        rwa [hargs _ rfl]
      · intro n hn
        rw [hargs _ rfl] at hn
        exact .inl hn
      · intro i wire ad' st hi
        rcases Pool.concat_cases hi with ⟨-, hbefore⟩ | ⟨-, hnew⟩
        · exact ⟨.inl ⟨st, hbefore⟩, fun _ => hbefore⟩
        · cases hnew
  | refuses wire ad e s' _ hno =>
      obtain ⟨hlen, -, hin⟩ := hmv wire ad rfl
      exact absurd ⟨⟨hlen, h.canAccept hin⟩, h.reach hin⟩ hno
  | admits wire ad hadm hreach =>
      obtain ⟨-, hopen, -⟩ := hmv wire ad rfl
      refine h.replace (RecvKeyCache.highestDerived_le_get _) (.inl rfl) (fun n hn => ?_)
        (fun n hn => ?_) ?_
      · rw [List.map_append, received_append]
        exact List.mem_append_left _ hn
      · rw [List.map_append, received_append] at hn
        rcases List.mem_append.mp hn with hn | hn
        · exact .inl hn
        · obtain rfl : n = getBigUint64 wire := List.mem_singleton.mp hn
          exact .inr (hp.schedule.reaches hadm hreach)
      · intro i wire' ad' st hi
        rcases Pool.concat_cases hi with ⟨-, hbefore⟩ | ⟨-, hnew⟩
        · exact ⟨.inl ⟨st, hbefore⟩, fun _ => hbefore⟩
        · cases hnew
          exact ⟨.inr hopen, by rintro ⟨_, ⟨⟩⟩⟩
  | idle i r _ => exact h
  | sealing i r plaintext ad k st hi _ =>
      refine h.replace (le_refl _) (.inl rfl) (fun n hn => by rwa [hset hi])
        (fun n hn => .inl (by rwa [hset hi] at hn)) ?_
      intro j wire ad' st' hj
      rcases Pool.set_cases hj with ⟨-, hbefore⟩ | ⟨rfl, hnew⟩
      · exact ⟨.inl ⟨st', hbefore⟩, fun _ => hbefore⟩
      · cases hnew
  | opening i r wire ad k hi =>
      refine h.replace (le_refl _) (.inl rfl) (fun n hn => by rwa [hset hi])
        (fun n hn => .inl (by rwa [hset hi] at hn)) ?_
      intro j wire' ad' st' hj
      rcases Pool.set_cases hj with ⟨-, hbefore⟩ | ⟨rfl, hnew⟩
      · exact ⟨.inl ⟨st', hbefore⟩, fun _ => hbefore⟩
      · cases hnew
        exact ⟨.inl ⟨_, hi⟩, by rintro ⟨_, ⟨⟩⟩⟩
  | fails i r wire ad k hi hnone =>
      have hopen := (h.opens i wire ad _ hi).1
      rw [hnone] at hopen
      cases hopen
  | delivers i r wire ad plaintext k hi _ =>
      have hmem : getBigUint64 wire ∈ received (p.calls.map Call.arg) :=
        received_mem (List.mem_map.mpr ⟨_, List.mem_of_getElem? hi, rfl⟩)
      obtain ⟨-, -, hprune⟩ := hp.schedule.tracks.pruneOlderThan (hp.derived i wire ad k hi)
      refine h.replace ?_ (.inr ⟨_, hmem, rfl⟩) (fun n hn => by rwa [hset hi])
        (fun n hn => .inl (by rwa [hset hi] at hn)) ?_
      · simp only [RatchetSession.accept, hprune]
        omega
      · intro j wire' ad' st' hj
        rcases Pool.set_cases hj with ⟨-, hbefore⟩ | ⟨rfl, hnew⟩
        · exact ⟨.inl ⟨st', hbefore⟩, fun _ => hbefore⟩
        · cases hnew
          exact ⟨.inl ⟨_, hi⟩, by rintro ⟨_, ⟨⟩⟩⟩

/-- A session that has received nothing yet. -/
theorem new_flowing {opts : RatchetSessionOptions} {s : RatchetSession}
    (hs : RatchetSession.new P opts = .ok s) : Flowing P ck dir (Pool.fresh s) := by
  rw [new_ok hs]
  refine ⟨?_, nofun, .inl ?_, ?_, nofun⟩
  · exact (RecvKeyCache.new_highestDerived P _).ge
  · exact (by decide : ReplayWindow.new.highest < 0)
  · exact fun hpos => absurd hpos (by decide : ¬ 0 ≤ ReplayWindow.new.highest)

/-- A call that is under way settles in two more steps. -/
theorem Underway.settles (h : Underway P ck dir p) {i : ℕ} {wire ad : Bytes}
    {st : SessionStatus}
    (hi : p.calls[i]? = some ⟨.decrypt wire ad, st⟩) (r r' : WebCryptoReply) :
    ∃ x, ((p.resume i r).resume i r').calls[i]? = some ⟨.decrypt wire ad, .settled x⟩ := by
  have hlt : i < p.calls.length := (List.getElem?_eq_some_iff.mp hi).1
  cases st with
  | settled x => exact ⟨x, Pool.resume_settled (Pool.resume_settled hi r) r'⟩
  | pending k =>
      -- What `subtle.decrypt` is resumed with settles the call.
      have hlast : ∀ (q : RatchetPool) (r : WebCryptoReply),
          q.calls[i]? = some ⟨.decrypt wire ad, .pending (finishingFrame P ck dir wire ad)⟩ →
          ∃ x, (q.resume i r).calls[i]? = some ⟨.decrypt wire ad, .settled x⟩ := by
        intro q r hq
        rw [Pool.resume_of_pending hq]
        have hqi : i < q.calls.length := (List.getElem?_eq_some_iff.mp hq).1
        rcases finishingFrame_cases P ck dir wire ad r q.shared with ⟨-, heq⟩ | ⟨plaintext, -, heq⟩
        · rw [heq]
          exact ⟨_, List.getElem?_set_self hqi⟩
        · rw [heq]
          exact ⟨_, List.getElem?_set_self hqi⟩
      cases h.goesOn i _ k hi with
      | opens _ _ =>
          apply hlast
          rw [Pool.resume_of_pending hi]
          exact List.getElem?_set_self hlt
      | finishes _ _ =>
          obtain ⟨x, hx⟩ := hlast p r hi
          exact ⟨x, Pool.resume_settled hx r'⟩

end Window

end Oxpulse.Crypto
