import Oxpulse.Crypto.RatchetRuns

/-!
# At-most-once delivery

`decrypt` checks the replay window before its two suspensions and commits to it
after them. Between the two, a second call for the same counter passes the same
check, and both deliver. So a counter is delivered at most once exactly as long
as no call is started for a counter that an acceptable call in flight already
claims (`Overlaps`): that keeps the claims unique, and a single overlap can be
scheduled into a double delivery.
-/

namespace Oxpulse.Crypto

open Oxpulse.Coroutine

/-- No counter is delivered by two calls. -/
def AtMostOnce (p : DecryptPool) : Prop :=
  ∀ (i j : ℕ) (c c' : DecryptCall) pt pt', p.calls[i]? = some c → p.calls[j]? = some c' →
    c.arg.counter = c'.arg.counter →
    c.status = .settled (.ok pt) → c'.status = .settled (.ok pt') → i = j

/-- A call for `f` is about to be started while a call for the same counter is
in flight: the replay window still admits the counter and the AEAD would accept
both frames. -/
def Overlaps (P : Primitives) (ck : Bytes) (dir : Direction) (p : DecryptPool)
    (f : Frame) : Prop :=
  (frameOpen P ck dir f).isSome ∧ p.shared.replay.canAccept f.counter = true ∧
    ∃ call ∈ p.calls, ∃ k, call.status = .pending k ∧ call.arg.counter = f.counter ∧
      (frameOpen P ck dir call.arg).isSome

/-- No call of the schedule overlaps another one when it is started. -/
def NoOverlap (P : Primitives) (ck : Bytes) (dir : Direction) (s : RatchetSession)
    (ms : List (Move Frame Unit)) : Prop :=
  ∀ ms₁ f ms₂, ms = ms₁ ++ Move.start f :: ms₂ → ¬ Overlaps P ck dir (decryptRun P s ms₁) f

/-- The call has delivered, or is in flight with a frame the AEAD will accept. -/
def Claims (P : Primitives) (ck : Bytes) (dir : Direction)
    (c : DecryptCall) : Prop :=
  (frameOpen P ck dir c.arg).isSome ∧
    ((∃ k, c.status = .pending k) ∨ ∃ pt, c.status = .settled (.ok pt))

/-- Every counter is claimed by at most one call. -/
def ClaimsUnique (P : Primitives) (ck : Bytes) (dir : Direction) (p : DecryptPool) : Prop :=
  ∀ (i j : ℕ) (c c' : DecryptCall), p.calls[i]? = some c → p.calls[j]? = some c' →
    c.arg.counter = c'.arg.counter → Claims P ck dir c → Claims P ck dir c' → i = j

variable {P : Primitives} {ck : Bytes} {dir : Direction} {p : DecryptPool}

theorem not_claims_error {f : Frame} {e : JsError} :
    ¬ Claims P ck dir ⟨f, .settled (.error e)⟩ := by
  rintro ⟨-, ⟨k, hk⟩ | ⟨pt, hpt⟩⟩
  · cases hk
  · cases hpt

/-- A delivered call claims its counter. -/
theorem RunInv.claims_of_delivered (h : RunInv P ck dir p)
    {c : DecryptCall} (hc : c ∈ p.calls) {pt : Bytes}
    (hpt : c.status = .settled (.ok pt)) : Claims P ck dir c := by
  obtain ⟨hopen, -, -⟩ := h.delivered c hc pt hpt
  exact ⟨by rw [hopen]; rfl, Or.inr ⟨pt, hpt⟩⟩

theorem ClaimsUnique.atMostOnce (h : RunInv P ck dir p) (hu : ClaimsUnique P ck dir p) :
    AtMostOnce p := by
  intro i j c c' pt pt' hi hj heq hpt hpt'
  exact hu i j c c' hi hj heq (h.claims_of_delivered (List.mem_of_getElem? hi) hpt)
    (h.claims_of_delivered (List.mem_of_getElem? hj) hpt')

/-! ## Moves that keep the claims unique -/

/-- A started call claims nothing, or nobody else claims its counter. -/
theorem ClaimsUnique.append (hu : ClaimsUnique P ck dir p) {s' : RatchetSession}
    {new : DecryptCall}
    (hnew : Claims P ck dir new → ∀ c ∈ p.calls, c.arg.counter = new.arg.counter →
      ¬ Claims P ck dir c) :
    ClaimsUnique P ck dir ⟨s', p.calls ++ [new]⟩ := by
  have hlookup : ∀ (i : ℕ) c, (p.calls ++ [new])[i]? = some c →
      p.calls[i]? = some c ∨ (i = p.calls.length ∧ c = new) := by
    intro i c hi
    rcases lt_or_ge i p.calls.length with hlt | hge
    · rw [List.getElem?_append_left hlt] at hi
      exact Or.inl hi
    · rw [List.getElem?_append_right hge, List.getElem?_singleton] at hi
      split at hi
      · cases hi
        exact Or.inr ⟨by omega, rfl⟩
      · cases hi
  intro i j c c' hi hj heq hc hc'
  rcases hlookup i c hi with hi₀ | ⟨rfl, rfl⟩ <;>
    rcases hlookup j c' hj with hj₀ | ⟨rfl, rfl⟩
  · exact hu i j c c' hi₀ hj₀ heq hc hc'
  · exact absurd hc (hnew hc' c (List.mem_of_getElem? hi₀) heq)
  · exact absurd hc' (hnew hc c' (List.mem_of_getElem? hj₀) heq.symm)
  · rfl

/-- A resumed call claims at most what it claimed before. -/
theorem ClaimsUnique.set (hu : ClaimsUnique P ck dir p) {s' : RatchetSession} {i : ℕ}
    {f : Frame} {k : Unit → RatchetSession → Outcome Unit RatchetSession JsError Bytes}
    (hi : p.calls[i]? = some ⟨f, .pending k⟩)
    (st : Status Unit RatchetSession JsError Bytes) :
    ClaimsUnique P ck dir ⟨s', p.calls.set i ⟨f, st⟩⟩ := by
  have hlookup : ∀ (j : ℕ) c, (p.calls.set i ⟨f, st⟩)[j]? = some c → Claims P ck dir c →
      ∃ c₀, p.calls[j]? = some c₀ ∧ c₀.arg = c.arg ∧ Claims P ck dir c₀ := by
    intro j c hj hc
    by_cases hij : i = j
    · subst hij
      have hlt : i < p.calls.length := (List.getElem?_eq_some_iff.mp hi).1
      rw [List.getElem?_set_self hlt] at hj
      cases hj
      exact ⟨_, hi, rfl, hc.1, Or.inl ⟨k, rfl⟩⟩
    · rw [List.getElem?_set_ne hij] at hj
      exact ⟨c, hj, rfl, hc⟩
  intro j j' c c' hj hj' heq hc hc'
  obtain ⟨c₀, hj₀, harg, hc₀⟩ := hlookup j c hj hc
  obtain ⟨c₁, hj₁, harg', hc₁⟩ := hlookup j' c' hj' hc'
  exact hu j j' c₀ c₁ hj₀ hj₁ (by rw [harg, harg', heq]) hc₀ hc₁

theorem ClaimsUnique.start (h : RunInv P ck dir p) (hu : ClaimsUnique P ck dir p) {f : Frame}
    (hno : ¬ Overlaps P ck dir p f) :
    ClaimsUnique P ck dir (p.start (decryptCall P) f) := by
  rcases start_cases h f with ⟨s', e, -, heq⟩ | ⟨k, -, hacc, -, heq⟩
  · rw [heq]
    exact hu.append fun hc => absurd hc not_claims_error
  · rw [heq]
    apply hu.append
    intro hnew c hc hctr hclaim
    -- the window admits the counter, so its claimant has not delivered yet
    rcases hclaim with ⟨hopen, ⟨k', hk'⟩ | ⟨pt, hpt⟩⟩
    · exact hno ⟨hnew.1, hacc, c, hc, k', hk', hctr, hopen⟩
    · obtain ⟨-, hspent, -⟩ := h.delivered c hc pt hpt
      rw [hctr] at hspent
      exact Bool.noConfusion (hacc.symm.trans hspent)

theorem ClaimsUnique.resume (hu : ClaimsUnique P ck dir p) (i : ℕ) :
    ClaimsUnique P ck dir (p.resume i ()) := by
  rcases Pool.resume_cases p i () with heq | ⟨f, k, hi, heq⟩
  · rw [heq]
    exact hu
  · rw [heq]
    exact hu.set hi _

theorem claimsUnique_of_noOverlap {opts : RatchetSessionOptions} {s : RatchetSession}
    (hs : RatchetSession.new P opts = .ok s) :
    ∀ ms : List (Move Frame Unit),
      NoOverlap P opts.recvChainKey opts.direction.opposite s ms →
        ClaimsUnique P opts.recvChainKey opts.direction.opposite (decryptRun P s ms) := by
  intro ms
  induction ms using List.reverseRecOn with
  | nil =>
      intro _ i j c c' hi
      simp [decryptRun, Pool.fresh] at hi
  | append_singleton ms m ih =>
      intro hno
      have hinit : NoOverlap P opts.recvChainKey opts.direction.opposite s ms := by
        intro ms₁ f ms₂ heq
        exact hno ms₁ f (ms₂ ++ [m]) (by rw [heq]; simp)
      rw [decryptRun, Pool.exec_concat]
      cases m with
      | start f => exact (ih hinit).start (decryptRun_inv hs ms) (hno ms f [] rfl)
      | resume i r => exact (ih hinit).resume i

/-! ## An overlap becomes a double delivery -/

/-- A pending call whose frame the AEAD accepts can be played to its delivery
without touching the other calls. -/
theorem deliver_pending (h : RunInv P ck dir p) {i : ℕ} {f : Frame} {pt : Bytes}
    {k : Unit → RatchetSession → Outcome Unit RatchetSession JsError Bytes}
    (hi : p.calls[i]? = some ⟨f, .pending k⟩) (hopen : frameOpen P ck dir f = some pt) :
    ∃ ms, (p.exec (decryptCall P) ms).calls[i]? = some ⟨f, .settled (.ok pt)⟩ ∧
      ∀ j, j ≠ i → (p.exec (decryptCall P) ms).calls[j]? = p.calls[j]? := by
  have hlt : i < p.calls.length := (List.getElem?_eq_some_iff.mp hi).1
  -- the last segment, from any pool that differs in call `i` only
  have hlast : ∀ q : DecryptPool,
      q.calls[i]? = some ⟨f, .pending (fun _ => RatchetSession.finishDecrypt P f.1 f.2
        (frameKey P ck f.counter) (makeNonce dir f.counter))⟩ →
      (q.resume i ()).calls = q.calls.set i ⟨f, .settled (.ok pt)⟩ := by
    intro q hq
    rw [Pool.resume_of_pending hq, RatchetSession.finishDecrypt_some hopen]
    rfl
  have hflight : InFlight P ck dir f k := (h.flight _ (List.mem_of_getElem? hi) k rfl).1
  rcases hflight with rfl | rfl
  · have hfirst : (p.resume i ()).calls = p.calls.set i ⟨f, .pending (fun _ =>
        RatchetSession.finishDecrypt P f.1 f.2 (frameKey P ck f.counter)
          (makeNonce dir f.counter))⟩ := by
      rw [Pool.resume_of_pending hi]
      rfl
    have hsecond := hlast (p.resume i ()) (by rw [hfirst, List.getElem?_set_self hlt])
    refine ⟨[.resume i (), .resume i ()], ?_, ?_⟩
    · change ((p.resume i ()).resume i ()).calls[i]? = _
      rw [hsecond, hfirst, List.set_set, List.getElem?_set_self hlt]
    · intro j hj
      change ((p.resume i ()).resume i ()).calls[j]? = _
      rw [hsecond, hfirst, List.set_set, List.getElem?_set_ne (Ne.symm hj)]
  · have hsecond := hlast p hi
    refine ⟨[.resume i ()], ?_, ?_⟩
    · change (p.resume i ()).calls[i]? = _
      rw [hsecond, List.getElem?_set_self hlt]
    · intro j hj
      change (p.resume i ()).calls[j]? = _
      rw [hsecond, List.getElem?_set_ne (Ne.symm hj)]

/-- An overlapping call is admitted: the window covers its counter, and the
cache already holds the key of the call it overlaps. -/
theorem start_overlapping (hgcm : AesGcmLaws P) (h : RunInv P ck dir p) {f : Frame}
    (hov : Overlaps P ck dir p f) :
    ∃ s' k, p.start (decryptCall P) f = ⟨s', p.calls ++ [⟨f, .pending k⟩]⟩ := by
  obtain ⟨hopen, hacc, call, hcall, k, hk, hctr, -⟩ := hov
  obtain ⟨pt, hpt⟩ := Option.isSome_iff_exists.mp hopen
  have hlen : 24 ≤ f.1.length := by
    have hct := hgcm.open_length _ _ _ _ _ hpt
    rw [List.length_drop] at hct
    omega
  have hlow : p.shared.recvCache.lowestCounter ≤ (f.counter : ℤ) := by
    have hfloor := h.schedule.floor
    rcases ReplayWindow.canAccept_iff.mp hacc with ⟨hpos, hneg | hgt | ⟨hin, -⟩⟩ <;> omega
  have hhigh : (f.counter : ℤ) ≤ p.shared.recvCache.highestDerived := by
    have hle := (h.flight call hcall k hk).2
    rwa [hctr] at hle
  have hkey := RecvKeyCache.get_fst h.schedule.tracks (f.counter : ℤ)
  rw [if_pos ⟨hlow, by omega⟩] at hkey
  unfold Pool.start decryptCall
  rcases RatchetSession.decrypt_cases (ρ := Unit) P f.1 f.2 p.shared with
    ⟨hshort, -⟩ | ⟨-, hrej, -⟩ | ⟨-, -, hnone, -⟩ | ⟨key, -, -, -, heq⟩
  · omega
  · exact Bool.noConfusion (hrej.symm.trans hacc)
  · rw [Frame.counter, hnone] at hkey
    cases hkey
  · rw [heq]
    exact ⟨_, _, rfl⟩

/-- Two acceptable calls in flight for one counter can both be delivered. -/
theorem deliver_twice (h : RunInv P ck dir p) {i j : ℕ} (hne : i ≠ j) {f g : Frame}
    {k k' : Unit → RatchetSession → Outcome Unit RatchetSession JsError Bytes}
    (hi : p.calls[i]? = some ⟨f, .pending k⟩) (hj : p.calls[j]? = some ⟨g, .pending k'⟩)
    (hctr : f.counter = g.counter) (hf : (frameOpen P ck dir f).isSome)
    (hg : (frameOpen P ck dir g).isSome) :
    ∃ ms, ¬ AtMostOnce (p.exec (decryptCall P) ms) := by
  obtain ⟨pt, hpt⟩ := Option.isSome_iff_exists.mp hf
  obtain ⟨pt', hpt'⟩ := Option.isSome_iff_exists.mp hg
  obtain ⟨ms, hdone, hkeep⟩ := deliver_pending h hi hpt
  have hj' := (hkeep j (Ne.symm hne)).trans hj
  obtain ⟨ms', hdone', hkeep'⟩ := deliver_pending (h.exec ms) hj' hpt'
  refine ⟨ms ++ ms', fun honce => hne ?_⟩
  rw [Pool.exec_append] at honce
  exact honce i j _ _ pt pt' ((hkeep' i hne).trans hdone) hdone' hctr rfl rfl

/-- **An overlap is a double delivery waiting to happen**: from the moment the
overlapping call is started, some schedule delivers its counter twice. -/
theorem overlap_delivers_twice (hgcm : AesGcmLaws P) (h : RunInv P ck dir p) {f : Frame}
    (hov : Overlaps P ck dir p f) :
    ∃ ms, ¬ AtMostOnce ((p.start (decryptCall P) f).exec (decryptCall P) ms) := by
  obtain ⟨s', k, hstart⟩ := start_overlapping hgcm h hov
  have hnext := h.start f
  rw [hstart] at hnext ⊢
  obtain ⟨hopen, -, call, hcall, k', hk', hctr, hopen'⟩ := hov
  obtain ⟨i, hi⟩ := List.mem_iff_getElem?.mp hcall
  have hlt : i < p.calls.length := (List.getElem?_eq_some_iff.mp hi).1
  obtain ⟨g, st⟩ := call
  cases hk'
  have hold : (p.calls ++ [⟨f, .pending k⟩])[i]? = some ⟨g, .pending k'⟩ := by
    rw [List.getElem?_append_left hlt]
    exact hi
  have hnew : (p.calls ++ [(⟨f, .pending k⟩ : DecryptCall)])[p.calls.length]? =
      some ⟨f, .pending k⟩ :=
    List.getElem?_concat_length
  exact deliver_twice hnext (Nat.ne_of_lt hlt) hold hnew hctr hopen' hopen

/-- **At most once, exactly without overlaps.** A run of a constructed session
in which no call overlaps another delivers every counter at most once; and
wherever a run starts an overlapping call, it can be continued to deliver that
call's counter twice. -/
theorem decrypt_at_most_once_iff_no_overlap (hgcm : AesGcmLaws P)
    {opts : RatchetSessionOptions} {s : RatchetSession}
    (hs : RatchetSession.new P opts = .ok s) (ms : List (Move Frame Unit)) :
    (NoOverlap P opts.recvChainKey opts.direction.opposite s ms →
      AtMostOnce (decryptRun P s ms)) ∧
    (∀ f, Overlaps P opts.recvChainKey opts.direction.opposite (decryptRun P s ms) f →
      ∃ ms', ¬ AtMostOnce (decryptRun P s (ms ++ Move.start f :: ms'))) := by
  have hinv := decryptRun_inv hs ms
  refine ⟨fun hno => (claimsUnique_of_noOverlap hs ms hno).atMostOnce hinv, fun f hov => ?_⟩
  obtain ⟨ms', htwice⟩ := overlap_delivers_twice hgcm hinv hov
  refine ⟨ms', ?_⟩
  rw [decryptRun, Pool.exec_append]
  exact htwice

/-- Opening the first copy before the second one arrives is a run without overlap. -/
theorem decrypt_at_most_once_in_order :
    AtMostOnce (decryptRun .sample .sample
      [.start firstFrame, .resume 0 (), .resume 0 (), .start firstFrame]) := by
  refine (decrypt_at_most_once_iff_no_overlap sample_aesGcmLaws RatchetSession.new_sample _).1 ?_
  rintro ms₁ f ms₂ heq ⟨-, hacc, call, hcall, -⟩
  rcases ms₁ with _ | ⟨m₁, _ | ⟨m₂, _ | ⟨m₃, _ | ⟨m₄, ms₁⟩⟩⟩⟩
  · simp [decryptRun, Pool.fresh] at hcall
  · simp at heq
  · simp at heq
  · -- the first copy is delivered, so the window refuses the second one
    simp only [List.cons_append, List.nil_append, List.cons.injEq, Move.start.injEq] at heq
    obtain ⟨rfl, rfl, rfl, rfl, rfl⟩ := heq
    exact absurd hacc (by decide +kernel)
  · simp at heq

/-- Both copies are started before either is opened. -/
def overlappingSchedule : List (Move Frame Unit) :=
  [.start firstFrame, .start firstFrame, .resume 0 (), .resume 1 (), .resume 0 (),
    .resume 1 ()]

/-- The frame is authentic, and both overlapping calls return its plaintext. -/
theorem duplicate_frame_delivered_twice :
    RatchetSession.new .sample .sample = .ok .sample ∧
    AuthenticFrame .sample .sample 0 [42] [] firstFrame.1 ∧
    ¬ AtMostOnce (decryptRun .sample .sample overlappingSchedule) := by
  have hauth := authenticFrame_sentWire (n := 0) RatchetSession.new_sample (by decide) [42] []
  refine ⟨RatchetSession.new_sample, hauth, ?_⟩
  intro honce
  have hrun : (decryptRun .sample .sample overlappingSchedule).calls.map
      (fun c => (c.arg.counter, c.status.value?)) = [(0, some [42]), (0, some [42])] := by
    decide +kernel
  have hcall : ∀ i < 2, ∃ c, (decryptRun .sample .sample overlappingSchedule).calls[i]? = some c ∧
      (c.arg.counter, c.status.value?) = (0, some [42]) := by
    intro i hi
    have hat := congrArg (fun l => l[i]?) hrun
    simp only [List.getElem?_map] at hat
    apply Option.map_eq_some_iff.mp
    rw [hat]
    rcases i with _ | _ | i
    · rfl
    · rfl
    · omega
  obtain ⟨c, hc, hval⟩ := hcall 0 (by decide)
  obtain ⟨c', hc', hval'⟩ := hcall 1 (by decide)
  rw [Prod.mk.injEq, Status.value?_eq_some] at hval hval'
  exact absurd (honce 0 1 c c' [42] [42] hc hc' (hval.1.trans hval'.1.symm)
    hval.2 hval'.2) (by decide)

end Oxpulse.Crypto
