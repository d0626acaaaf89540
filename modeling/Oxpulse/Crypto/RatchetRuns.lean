import Mathlib.Order.Bounds.Basic
import Oxpulse.Foundation.Interleaving
import Oxpulse.Crypto.RatchetSchedule

/-!
# Interleaved decryptions

A run of a receiving session is any schedule of `decrypt` calls over it: the
transport starts one per incoming frame and waits for none of them. `RunInv`
is what holds after every schedule — the cache follows the key schedule, every
call in flight carries the schedule's key of its counter, every delivered
counter is spent, and the highest committed counter is a delivered one.

`start_cases` and `resume_cases` say once what a move can do to a pool that
satisfies it.
-/

namespace Oxpulse.Crypto

open Oxpulse.Coroutine

/-- What `decrypt` is called with: the wire bytes and the additional data. -/
abbrev Frame : Type := Bytes × Bytes

/-- The counter a frame carries. -/
def Frame.counter (f : Frame) : ℕ := getBigUint64 f.1

abbrev DecryptCall : Type := Call Frame Unit RatchetSession JsError Bytes

abbrev DecryptPool : Type := Pool Frame Unit RatchetSession JsError Bytes

def decryptCall (P : Primitives) (f : Frame) : Co Unit RatchetSession JsError Bytes :=
  RatchetSession.decrypt P f.1 f.2

/-- The first frame the peer of the sample session sends. -/
def firstFrame : Frame :=
  (sentWire .sample RatchetSessionOptions.sample.recvChainKey .responder 0 [42] [], [])

/-- The pool after a schedule of `decrypt` calls on the session. -/
def decryptRun (P : Primitives) (s : RatchetSession) (ms : List (Move Frame Unit)) :
    DecryptPool :=
  (Pool.fresh s).exec (decryptCall P) ms

/-- What the AEAD makes of a frame under the schedule's key of its counter. -/
def frameOpen (P : Primitives) (ck : Bytes) (dir : Direction) (f : Frame) : Option Bytes :=
  P.aesGcmOpen (frameKey P ck f.counter) (makeNonce dir f.counter) f.2 (f.1.drop 8)

/-- Some call resolved with a plaintext for this counter. -/
def Decrypted (p : DecryptPool) (n : ℕ) : Prop :=
  ∃ call ∈ p.calls, call.arg.counter = n ∧ ∃ pt, call.status = .settled (.ok pt)

/-- The continuation of a call that holds the schedule's key: before or after
`subtle.decrypt` was entered. -/
def InFlight (P : Primitives) (ck : Bytes) (dir : Direction) (f : Frame)
    (k : Unit → RatchetSession → Outcome Unit RatchetSession JsError Bytes) : Prop :=
  k = (fun _ => RatchetSession.openFrame P f.1 f.2 (frameKey P ck f.counter)
        (makeNonce dir f.counter)) ∨
  k = (fun _ => RatchetSession.finishDecrypt P f.1 f.2 (frameKey P ck f.counter)
        (makeNonce dir f.counter))

structure RunInv (P : Primitives) (ck : Bytes) (dir : Direction) (p : DecryptPool) : Prop where
  schedule : ScheduleInv P ck p.shared
  direction : p.shared.remoteDir = dir
  flight : ∀ call ∈ p.calls, ∀ k, call.status = .pending k →
    InFlight P ck dir call.arg k ∧
      (call.arg.counter : ℤ) ≤ p.shared.recvCache.highestDerived
  delivered : ∀ call ∈ p.calls, ∀ pt, call.status = .settled (.ok pt) →
    frameOpen P ck dir call.arg = some pt ∧ p.shared.replay.Spent call.arg.counter ∧
      (call.arg.counter : ℤ) ≤ p.shared.replay.highest
  attained : p.shared.replay.highest = -1 ∨ ∃ n, Decrypted p n ∧ (n : ℤ) = p.shared.replay.highest

variable {P : Primitives} {ck : Bytes} {dir : Direction} {p : DecryptPool}

/-! ## What a move does -/

/-- **Starting a call**: it is refused at once, and at most a lookup happened,
or it is admitted and in flight with the schedule's key. -/
theorem start_cases (h : RunInv P ck dir p) (f : Frame) :
    (∃ s' e, (s' = p.shared ∨ s' = p.shared.afterLookup P f.counter) ∧
      p.start (decryptCall P) f = ⟨s', p.calls ++ [⟨f, .settled (.error e)⟩]⟩) ∨
    (∃ k, InFlight P ck dir f k ∧ p.shared.replay.canAccept f.counter = true ∧
      (f.counter : ℤ) ≤ (p.shared.afterLookup P f.counter).recvCache.highestDerived ∧
      p.start (decryptCall P) f =
        ⟨p.shared.afterLookup P f.counter, p.calls ++ [⟨f, .pending k⟩]⟩) := by
  unfold Pool.start decryptCall
  rcases RatchetSession.decrypt_cases (ρ := Unit) P f.1 f.2 p.shared with
    ⟨-, heq⟩ | ⟨-, -, heq⟩ | ⟨-, -, -, heq⟩ | ⟨key, -, hacc, hkey, heq⟩
  · exact Or.inl ⟨_, _, Or.inl rfl, by rw [heq]; rfl⟩
  · exact Or.inl ⟨_, _, Or.inl rfl, by rw [heq]; rfl⟩
  · exact Or.inl ⟨_, _, Or.inr rfl, by rw [heq]; rfl⟩
  · right
    have hlookup := RecvKeyCache.get_fst h.schedule.tracks (f.counter : ℤ)
    rw [Frame.counter, hkey] at hlookup
    have hin : p.shared.recvCache.lowestCounter ≤ (f.counter : ℤ) ∧
        (f.counter : ℤ) ≤ p.shared.recvCache.highestDerived + 16 := by
      by_contra hn
      rw [← Frame.counter, if_neg hn] at hlookup
      cases hlookup
    rw [← Frame.counter, if_pos hin] at hlookup
    have hk : key = frameKey P ck f.counter := by simpa using hlookup
    subst hk
    refine ⟨_, Or.inl rfl, hacc, ?_, ?_⟩
    · simp only [RatchetSession.afterLookup, RecvKeyCache.get_snd_highestDerived]
      split <;> omega
    · rw [heq, h.direction]
      rfl

/-- **Resuming a call**: it moves on to the AEAD, fails there with the session
untouched, or delivers its plaintext and commits its counter. -/
theorem resume_cases (h : RunInv P ck dir p) (i : ℕ) :
    p.resume i () = p ∨
    ∃ f k, p.calls[i]? = some ⟨f, .pending k⟩ ∧
      (f.counter : ℤ) ≤ p.shared.recvCache.highestDerived ∧
      ((∃ k', InFlight P ck dir f k' ∧
          p.resume i () = ⟨p.shared, p.calls.set i ⟨f, .pending k'⟩⟩) ∨
       (frameOpen P ck dir f = none ∧
          p.resume i () = ⟨p.shared, p.calls.set i ⟨f, .settled (.error .library)⟩⟩) ∨
       (∃ pt, frameOpen P ck dir f = some pt ∧
          p.resume i () =
            ⟨p.shared.accept P f.counter, p.calls.set i ⟨f, .settled (.ok pt)⟩⟩)) := by
  rcases Pool.resume_cases p i () with heq | ⟨f, k, hi, heq⟩
  · exact Or.inl heq
  · right
    have hcall := h.flight _ (List.mem_of_getElem? hi) k rfl
    have hflight : InFlight P ck dir f k := hcall.1
    refine ⟨f, k, hi, hcall.2, ?_⟩
    rw [heq]
    rcases hflight with rfl | rfl
    · exact Or.inl ⟨_, Or.inr rfl, rfl⟩
    · right
      beta_reduce
      cases hopen : frameOpen P ck dir f with
      | none =>
          rw [RatchetSession.finishDecrypt_none hopen]
          exact Or.inl ⟨rfl, rfl⟩
      | some pt =>
          rw [RatchetSession.finishDecrypt_some hopen]
          exact Or.inr ⟨pt, rfl, rfl⟩

/-! ## The invariant of a run -/

/-- Both kinds of move replace the session and one call. -/
theorem RunInv.replace (h : RunInv P ck dir p) {s' : RatchetSession}
    {calls' : List DecryptCall}
    {new : DecryptCall}
    (hs : ScheduleInv P ck s') (hdir : s'.remoteDir = p.shared.remoteDir)
    (hhd : p.shared.recvCache.highestDerived ≤ s'.recvCache.highestDerived)
    (hspent : ∀ x, p.shared.replay.Spent x → s'.replay.Spent x)
    (hhigh : p.shared.replay.highest ≤ s'.replay.highest)
    (hmem : ∀ call ∈ calls', call ∈ p.calls ∨ call = new)
    (hflight : ∀ k, new.status = .pending k → InFlight P ck dir new.arg k ∧
      (new.arg.counter : ℤ) ≤ s'.recvCache.highestDerived)
    (hdeliv : ∀ pt, new.status = .settled (.ok pt) →
      frameOpen P ck dir new.arg = some pt ∧ s'.replay.Spent new.arg.counter ∧
        (new.arg.counter : ℤ) ≤ s'.replay.highest)
    (hatt : s'.replay.highest = -1 ∨
      ∃ n, Decrypted ⟨s', calls'⟩ n ∧ (n : ℤ) = s'.replay.highest) :
    RunInv P ck dir ⟨s', calls'⟩ where
  schedule := hs
  direction := hdir.trans h.direction
  flight := by
    intro call hcall k hk
    rcases hmem call hcall with hold | rfl
    · obtain ⟨hf, hle⟩ := h.flight call hold k hk
      exact ⟨hf, hle.trans hhd⟩
    · exact hflight k hk
  delivered := by
    intro call hcall pt hpt
    rcases hmem call hcall with hold | rfl
    · obtain ⟨hopen, hsp, hle⟩ := h.delivered call hold pt hpt
      exact ⟨hopen, hspent _ hsp, hle.trans hhigh⟩
    · exact hdeliv pt hpt
  attained := hatt

/-- A settled call survives any move. -/
theorem Decrypted.mono {p p' : DecryptPool} {n : ℕ} (h : Decrypted p n)
    (hkeep : ∀ call ∈ p.calls, ∀ r, call.status = .settled r → call ∈ p'.calls) :
    Decrypted p' n := by
  obtain ⟨call, hmem, hn, pt, hpt⟩ := h
  exact ⟨call, hkeep call hmem _ hpt, hn, pt, hpt⟩

theorem settled_mem_set {calls : List DecryptCall} {i : ℕ}
    {f : Frame} {k : Unit → RatchetSession → Outcome Unit RatchetSession JsError Bytes}
    (hi : calls[i]? = some ⟨f, .pending k⟩) (new : DecryptCall)
    {call : DecryptCall} (hmem : call ∈ calls)
    {r : Except JsError Bytes} (hr : call.status = .settled r) : call ∈ calls.set i new := by
  obtain ⟨j, hj⟩ := List.mem_iff_getElem?.mp hmem
  have hne : i ≠ j := by
    rintro rfl
    rw [hi] at hj
    cases hj
    cases hr
  exact List.mem_of_getElem? ((List.getElem?_set_ne hne).trans hj)

theorem RunInv.start (h : RunInv P ck dir p) (f : Frame) :
    RunInv P ck dir (p.start (decryptCall P) f) := by
  have hlookup : ScheduleInv P ck (p.shared.afterLookup P f.counter) :=
    h.schedule.afterLookup _
  have hmem : ∀ new, ∀ call ∈ p.calls ++ [new], call ∈ p.calls ∨ call = new := by
    intro new call hcall
    simpa using hcall
  have hatt : ∀ new (s' : RatchetSession), s'.replay = p.shared.replay →
      s'.replay.highest = -1 ∨
        ∃ n, Decrypted ⟨s', p.calls ++ [new]⟩ n ∧ (n : ℤ) = s'.replay.highest := by
    intro new s' heq
    rw [heq]
    refine h.attained.imp id fun ⟨n, hn, hmax⟩ => ⟨n, hn.mono ?_, hmax⟩
    exact fun call hcall _ _ => List.mem_append_left _ hcall
  rcases start_cases h f with ⟨s', e, hs', heq⟩ | ⟨k, hk, -, hle, heq⟩
  · rw [heq]
    have hsched : ScheduleInv P ck s' := by
      rcases hs' with rfl | rfl
      · exact h.schedule
      · exact hlookup
    have hreplay : s'.replay = p.shared.replay := by
      rcases hs' with rfl | rfl <;> rfl
    have hdir : s'.remoteDir = p.shared.remoteDir := by
      rcases hs' with rfl | rfl <;> rfl
    have hhd : p.shared.recvCache.highestDerived ≤ s'.recvCache.highestDerived := by
      rcases hs' with rfl | rfl
      · exact le_refl _
      · exact RecvKeyCache.highestDerived_le_get _
    exact h.replace hsched hdir hhd (by rw [hreplay]; exact fun _ hx => hx)
      (by rw [hreplay]) (hmem _) (fun k hk => by cases hk) (fun pt hpt => by cases hpt)
      (hatt _ s' hreplay)
  · rw [heq]
    exact h.replace hlookup rfl (RecvKeyCache.highestDerived_le_get _) (fun _ hx => hx)
      (le_refl _) (hmem _) (fun k' hk' => by cases hk'; exact ⟨hk, hle⟩)
      (fun pt hpt => by cases hpt) (hatt _ _ rfl)

theorem RunInv.resume (h : RunInv P ck dir p) (i : ℕ) :
    RunInv P ck dir (p.resume i ()) := by
  rcases resume_cases h i with heq | ⟨f, k, hi, hle, hcase⟩
  · rw [heq]; exact h
  · have hmem : ∀ new, ∀ call ∈ p.calls.set i new, call ∈ p.calls ∨ call = new :=
      fun new call hcall => List.mem_or_eq_of_mem_set hcall
    have hatt : ∀ new, p.shared.replay.highest = -1 ∨
        ∃ n, Decrypted ⟨p.shared, p.calls.set i new⟩ n ∧
          (n : ℤ) = p.shared.replay.highest := by
      intro new
      refine h.attained.imp id fun ⟨n, hn, hmax⟩ => ⟨n, hn.mono ?_, hmax⟩
      exact fun call hcall r hr => settled_mem_set hi new hcall hr
    rcases hcase with ⟨k', hk', heq⟩ | ⟨-, heq⟩ | ⟨pt, hopen, heq⟩
    · rw [heq]
      exact h.replace h.schedule rfl (le_refl _) (fun _ hx => hx) (le_refl _) (hmem _)
        (fun k'' hk'' => by cases hk''; exact ⟨hk', hle⟩) (fun pt hpt => by cases hpt) (hatt _)
    · rw [heq]
      exact h.replace h.schedule rfl (le_refl _) (fun _ hx => hx) (le_refl _) (hmem _)
        (fun k'' hk'' => by cases hk'') (fun pt hpt => by cases hpt) (hatt _)
    · rw [heq]
      have hpos : (0 : ℤ) ≤ f.counter := Int.natCast_nonneg _
      have hcommit : (p.shared.replay.commit f.counter).highest =
          max p.shared.replay.highest f.counter := ReplayWindow.commit_highest hpos
      obtain ⟨-, -, hprune⟩ := h.schedule.tracks.pruneOlderThan hle
      refine h.replace (h.schedule.accept hle) rfl ?_ (fun x hx => hx.commit hpos) ?_ (hmem _)
        (fun k'' hk'' => by cases hk'') ?_ ?_
      · simp only [RatchetSession.accept, hprune]
        omega
      · simp only [RatchetSession.accept, hcommit]
        omega
      · intro pt' hpt'
        cases hpt'
        refine ⟨hopen, ReplayWindow.commit_spent hpos, ?_⟩
        simp only [RatchetSession.accept, hcommit]
        omega
      · right
        simp only [RatchetSession.accept, hcommit]
        have hnew : Decrypted ⟨p.shared.accept P f.counter,
            p.calls.set i ⟨f, .settled (.ok pt)⟩⟩ f.counter := by
          have hlt : i < p.calls.length := (List.getElem?_eq_some_iff.mp hi).1
          exact ⟨_, List.mem_of_getElem? (List.getElem?_set_self hlt), rfl, pt, rfl⟩
        by_cases hmax : p.shared.replay.highest ≤ f.counter
        · exact ⟨f.counter, hnew, by omega⟩
        · rcases h.attained with hneg | ⟨n, hn, hn'⟩
          · omega
          · refine ⟨n, hn.mono ?_, by omega⟩
            exact fun call hcall r hr => settled_mem_set hi _ hcall hr

theorem RunInv.step (h : RunInv P ck dir p) (m : Move Frame Unit) :
    RunInv P ck dir (p.step (decryptCall P) m) := by
  cases m with
  | start f => exact h.start f
  | resume i r => exact h.resume i

theorem RunInv.exec (h : RunInv P ck dir p) (ms : List (Move Frame Unit)) :
    RunInv P ck dir (p.exec (decryptCall P) ms) := by
  induction ms using List.reverseRecOn with
  | nil => exact h
  | append_singleton ms m ih =>
      rw [Pool.exec_concat]
      exact ih.step m

/-- **Every run of a constructed session satisfies the invariant.** -/
theorem decryptRun_inv {opts : RatchetSessionOptions} {s : RatchetSession}
    (hs : RatchetSession.new P opts = .ok s) (ms : List (Move Frame Unit)) :
    RunInv P opts.recvChainKey opts.direction.opposite (decryptRun P s ms) := by
  apply RunInv.exec
  refine ⟨RatchetSession.new_scheduleInv hs, ?_, ?_, ?_, Or.inl ?_⟩
  · rw [RatchetSession.new_ok hs]; rfl
  · simp [Pool.fresh]
  · simp [Pool.fresh]
  · rw [RatchetSession.new_ok hs]; rfl

end Oxpulse.Crypto
