import Oxpulse.MeshCore.BloomRuns

/-!
# Instances over one database

A flush puts the filter of its instance in the place of the row, without a look at
what is stored there; and a call of `open` that is still under way replaces the filter
by the row, without a look at what was marked in it. With instances of the same
parameters, in any interleaving, nothing that was flushed is lost if and only if every
put takes effect over a row whose bits it has, and every flush has the bits of what was
marked (`flushes_keep_marks_iff`). An instance that opened before another one's put took
effect is the way to break the first, calls of `open` that overlap the second.
-/

namespace Oxpulse.MeshCore

open BloomDedup

namespace BloomHost

variable {p : BloomParams} {host : BloomHost} {i j : ℕ} {f g : BloomDedup} {msgId : JsString}
  {call : BloomCall} {calls pre mid post : List BloomCall}

/-- The bit is set in the row. -/
def Stored (host : BloomHost) (bit : ℕ) : Prop :=
  ∃ f, host.row = some (.bits f) ∧ hasBit f.bits bit = true

/-- A put that takes effect has the bits that are stored. -/
def Covers (host : BloomHost) : BloomCall → Prop
  | .commit => ∀ row, host.queue.head? = some (.put row) → ∀ bit, host.Stored bit →
      ∃ f, row = .bits f ∧ hasBit f.bits bit = true
  | _ => True

/-- Every put of the run has the bits that are stored. -/
def PutsCover (p : BloomParams) (calls : List BloomCall) : Prop :=
  ∀ pre call post, calls = pre ++ call :: post → (run (fun _ => p) pre).Covers call

/-- Before every flush whose put takes effect, the instance has the bits of what was marked
in it since it was closed. -/
def FlushesCarry (p : BloomParams) (calls : List BloomCall) : Prop :=
  ∀ pre i msgId mid waiting post,
    calls = pre ++ .markSeen i msgId :: (mid ++ .flush i :: (waiting ++ .commit :: post)) →
    Flushed (fun _ => p) i msgId pre mid waiting →
    (run (fun _ => p) (pre ++ .markSeen i msgId :: mid)).Sees i msgId

/-- In a run of instances with the same parameters, the stored bits only grow; and an
id that was marked before a flush that is complete is in the row from then on, and is seen
by every instance whose `open` reads it afterwards. -/
structure KeepsMarks (p : BloomParams) (calls : List BloomCall) : Prop where
  grows : ∀ pre mid post, calls = pre ++ mid ++ post →
    ∀ bit, (run (fun _ => p) pre).Stored bit → (run (fun _ => p) (pre ++ mid)).Stored bit
  stored : ∀ i msgId done mid post, FlushWaits (fun _ => p) i msgId done →
    calls = done ++ .commit :: mid ++ post →
    ∃ f, load p (run (fun _ => p) (done ++ .commit :: mid)).row = some (some f) ∧
      f.hasSeen msgId = true
  reported : ∀ i msgId done mid j post, FlushWaits (fun _ => p) i msgId done →
    calls = done ++ .commit :: mid ++ .commit :: post →
    (run (fun _ => p) (done ++ .commit :: mid)).queue.head? = some (.read j) →
    (run (fun _ => p) calls).Sees j msgId

/-! ## The stored bits -/

theorem stored_step (hcovers : host.Covers call) {bit : ℕ} (h : host.Stored bit) :
    (step (fun _ => p) host call).Stored bit := by
  have hstep := step_store (fun _ => p) host call
  unfold Stored
  generalize (step (fun _ => p) host call).row = row at hstep ⊢
  generalize (step (fun _ => p) host call).queue = queue at hstep
  cases hstep with
  | same => exact h
  | connected i => exact h
  | flush i => exact h
  | put row queue hqueue =>
      obtain ⟨f, rfl, hbit⟩ := hcovers row (by rw [hqueue, List.head?_cons]) bit h
      exact ⟨f, rfl, hbit⟩
  | read i => exact h
  | abort => exact h

theorem stored_steps (hcovers : ∀ pre' call post', mid = pre' ++ call :: post' →
      (run (fun _ => p) (pre ++ pre')).Covers call)
    {bit : ℕ} (h : (run (fun _ => p) pre).Stored bit) :
    (run (fun _ => p) (pre ++ mid)).Stored bit := by
  induction mid using List.reverseRecOn with
  | nil => rwa [List.append_nil]
  | append_singleton mid call ih =>
      rw [← List.append_assoc, run_concat]
      exact stored_step (hcovers mid call [] rfl) (ih (Histories.each_left hcovers))

/-- An id has a bit. -/
theorem exists_probe (p : BloomParams) (msgId : JsString) : ∃ bit, bit ∈ probes p.m p.k msgId := by
  apply List.exists_mem_of_length_pos
  unfold probes
  rw [List.length_map, List.length_range]
  exact p.k_pos

/-- A put that has the stored bits has those of the row with the id. -/
theorem Covers.over (h : host.Covers .commit) (hrow : host.row = some (.bits f)) (hfor : f.IsFor p)
    (hseen : f.hasSeen msgId = true) {row : BloomRow} (hput : host.queue.head? = some (.put row)) :
    ∃ g, row = .bits g ∧ f.Within g := by
  obtain ⟨bit, hprobe⟩ := exists_probe p msgId
  rw [← hfor.1, ← hfor.2] at hprobe
  obtain ⟨g, rfl, -⟩ := h row hput bit ⟨f, hrow, List.all_eq_true.mp hseen bit hprobe⟩
  refine ⟨g, rfl, fun _ _ bit hbit => ?_⟩
  obtain ⟨g', hg', hbit'⟩ := h (.bits g) hput bit ⟨f, hrow, hbit⟩
  cases hg'
  exact hbit'

/-! ## What is stored, an instance that opens sees -/

/-- All rows have the parameters of the instances. -/
theorem rows_isFor (p : BloomParams) (calls : List BloomCall) :
    (∀ r ∈ (run (fun _ => p) calls).row, r.IsFor p) ∧
      ∀ r ∈ (run (fun _ => p) calls).puts, r.IsFor p := by
  simp only [mem_puts]
  induction calls using List.reverseRecOn with
  | nil => exact ⟨nofun, nofun⟩
  | append_singleton calls call ih =>
      obtain ⟨hrow, hputs⟩ := ih
      have hfit := fitted_run (fun _ => p) calls
      rw [run_concat]
      generalize run (fun _ => p) calls = host at hrow hputs hfit
      have hstep := step_store (fun _ => p) host call
      generalize (step (fun _ => p) host call).row = row at hstep ⊢
      generalize (step (fun _ => p) host call).queue = queue at hstep ⊢
      cases hstep with
      | same => exact ⟨hrow, hputs⟩
      | connected i =>
          refine ⟨hrow, fun r hr => ?_⟩
          rcases List.mem_append.mp hr with hold | hnew
          · exact hputs r hold
          · cases List.mem_singleton.mp hnew
      | flush i =>
          refine ⟨hrow, fun r hr => ?_⟩
          rcases List.mem_append.mp hr with hold | hnew
          · exact hputs r hold
          · cases List.mem_singleton.mp hnew
            exact BloomRow.ofFilter_isFor (hfit i)
      | put row queue hqueue =>
          rw [hqueue] at hputs
          constructor
          · rintro r ⟨⟩
            exact hputs row List.mem_cons_self
          · exact fun r hr => hputs r (List.mem_cons_of_mem _ hr)
      | read i queue hqueue =>
          rw [hqueue] at hputs
          exact ⟨hrow, fun r hr => hputs r (List.mem_cons_of_mem _ hr)⟩
      | abort => exact ⟨hrow, fun r hr => hputs r (List.mem_of_mem_tail hr)⟩

/-- What an instance reads is the row, if that is for it. -/
theorem Keeps.load (h : Keeps p msgId host) :
    ∃ f, MeshCore.load p host.row = some (some f) ∧ f.hasSeen msgId = true := by
  obtain ⟨⟨f, hrow, hfor, hseen⟩, -⟩ := h
  exact ⟨f, hrow ▸ load_bits hfor, hseen⟩

theorem Keeps.covered (hcovers : host.Covers call) (hfit : Fitted (fun _ => p) host)
    (h : Keeps p msgId host) : Keeps p msgId (host.step (fun _ => p) call) := by
  apply h.step hfit
  · rintro rfl f hrow row hput
    obtain ⟨f', hrow', hfor, hseen⟩ := h.row
    cases hrow.symm.trans hrow'
    exact hcovers.over hrow hfor hseen hput
  · exact fun _ _ => rfl

/-- An instance that has the id keeps it while the row does. -/
theorem Sees.step (hkeeps : Keeps p msgId host) (h : host.Sees j msgId) :
    (host.step (fun _ => p) call).Sees j msgId := by
  obtain ⟨f, hf, hseen⟩ := h
  have hstep := step_instance (fun _ => p) host j call
  unfold Sees
  generalize (host.step (fun _ => p) call).instances j = bloom at hstep ⊢
  cases hstep with
  | same => exact ⟨f, hf, hseen⟩
  | opens => exact ⟨f, hf, hseen⟩
  | connected => exact ⟨f, hf, hseen⟩
  | refused => exact ⟨f, hf, hseen⟩
  | close => exact ⟨f, hf, hseen⟩
  | markSeen msgId' =>
      refine ⟨f.markSeen msgId', ?_, hasSeen_markSeen_of_hasSeen hseen⟩
      rw [hf]
      rfl
  | read queue filter _ hload =>
      obtain ⟨f, hf, hseen⟩ := hkeeps.load
      rw [hload] at hf
      exact ⟨f, Option.some.inj hf, hseen⟩

theorem PutsCover.of_append (h : PutsCover p (calls ++ post)) : PutsCover p calls :=
  Histories.each_left h

theorem keeps_covered (h : Keeps p msgId (run (fun _ => p) pre)) (hcover : PutsCover p (pre ++ mid)) :
    Keeps p msgId (run (fun _ => p) (pre ++ mid)) := by
  induction mid using List.reverseRecOn with
  | nil => rwa [List.append_nil]
  | append_singleton mid call ih =>
      rw [← List.append_assoc] at hcover ⊢
      rw [run_concat]
      exact (ih hcover.of_append).covered (hcover _ call [] rfl) (fitted_run _ _)

theorem sees_covered (hkeeps : Keeps p msgId (run (fun _ => p) pre))
    (h : (run (fun _ => p) pre).Sees j msgId) (hcover : PutsCover p (pre ++ mid)) :
    (run (fun _ => p) (pre ++ mid)).Sees j msgId := by
  induction mid using List.reverseRecOn with
  | nil => rwa [List.append_nil]
  | append_singleton mid call ih =>
      rw [← List.append_assoc] at hcover ⊢
      rw [run_concat]
      exact Sees.step (keeps_covered hkeeps hcover.of_append) (ih hcover.of_append)

/-! ## The put of a flush -/

variable {waiting : List BloomCall}

/-- The row that it leaves. -/
theorem Flushed.row (h : Flushed (fun _ => p) i msgId pre mid waiting) :
    (run (fun _ => p) (pre ++ .markSeen i msgId :: (mid ++ .flush i :: waiting) ++ [.commit])).row =
      some (.ofFilter p ((run (fun _ => p) (pre ++ .markSeen i msgId :: mid)).instances i).filter) := by
  obtain ⟨new, hqueue⟩ := h.queue
  rw [run_concat]
  simp only [step, hqueue, perform]

/-- It has the id, if the instance had it. -/
theorem Flushed.keeps (h : Flushed (fun _ => p) i msgId pre mid waiting)
    (hsees : (run (fun _ => p) (pre ++ .markSeen i msgId :: mid)).Sees i msgId) :
    Keeps p msgId
      (run (fun _ => p) (pre ++ .markSeen i msgId :: (mid ++ .flush i :: waiting) ++ [.commit])) := by
  obtain ⟨f, hf, hseen⟩ := hsees
  have hrow := h.row
  rw [hf] at hrow
  exact ⟨⟨f, hrow, fitted_run _ _ i f hf, hseen⟩, (rows_isFor p _).2⟩

end BloomHost

open BloomHost

/-- **Flushing keeps the marks of all instances** if and only if every put that takes
effect has the bits that are stored by then, and every flush those of what was marked. -/
theorem flushes_keep_marks_iff (p : BloomParams) (calls : List BloomCall) :
    KeepsMarks p calls ↔ PutsCover p calls ∧ FlushesCarry p calls := by
  constructor
  · rintro ⟨hgrows, hstored, -⟩
    constructor
    · rintro pre call post rfl
      cases call with
      | commit =>
          intro row hput bit hbit
          obtain ⟨f, hrow, hset⟩ := hgrows pre [.commit] post (by simp) bit hbit
          obtain ⟨queue, hqueue⟩ := List.head?_eq_some_iff.mp hput
          rw [run_concat] at hrow
          simp only [step, hqueue, perform, Option.some.injEq] at hrow
          exact ⟨f, hrow, hset⟩
      | opens i => trivial
      | connected i => trivial
      | refused i => trivial
      | close i => trivial
      | markSeen i msgId => trivial
      | flush i => trivial
      | abort => trivial
    · rintro pre i msgId mid waiting post rfl hflushed
      obtain ⟨f, hf, hseen⟩ := hstored i msgId _ [] post ⟨pre, mid, waiting, rfl, hflushed⟩ (by simp)
      rw [hflushed.row] at hf
      have hfit := fitted_run (fun _ => p) (pre ++ .markSeen i msgId :: mid)
      rw [load_ofFilter (hfit i), Option.some.injEq] at hf
      exact ⟨f, hf, hseen⟩
  · rintro ⟨hcover, hcarry⟩
    have hkept : ∀ i msgId done mid post, FlushWaits (fun _ => p) i msgId done →
        calls = done ++ .commit :: mid ++ post →
        Keeps p msgId (run (fun _ => p) (done ++ .commit :: mid)) := by
      rintro i msgId done mid post ⟨pre, mid', waiting, rfl, hflushed⟩ rfl
      rw [List.append_cons] at hcover ⊢
      refine keeps_covered (hflushed.keeps ?_) hcover.of_append
      exact hcarry pre i msgId mid' waiting (mid ++ post) (by simp) hflushed
    constructor
    case grows =>
      rintro pre mid post rfl bit hbit
      refine stored_steps ?_ hbit
      rintro pre' call post' rfl
      exact hcover (pre ++ pre') call (post' ++ post) (by simp)
    case stored =>
      intro i msgId done mid post hwaits hcalls
      exact (hkept i msgId done mid post hwaits hcalls).load
    case reported =>
      intro i msgId done mid j post hwaits hcalls hread
      have hbefore := hkept i msgId done mid _ hwaits hcalls
      have hafter := hkept i msgId done (mid ++ [.commit]) post hwaits (by rw [hcalls]; simp)
      have hsplit : done ++ BloomCall.commit :: (mid ++ [.commit]) =
          done ++ .commit :: mid ++ [.commit] := by simp
      rw [hsplit] at hafter
      obtain ⟨queue, hqueue⟩ := List.head?_eq_some_iff.mp hread
      have hsees : (run (fun _ => p) (done ++ .commit :: mid ++ [.commit])).Sees j msgId := by
        rw [run_concat]
        obtain ⟨f, hload, hseen⟩ := hbefore.load
        refine ⟨f, ?_, hseen⟩
        simp only [step, hqueue, perform, hload, setInstance_self]
      rw [List.append_cons] at hcalls
      rw [hcalls] at hcover ⊢
      exact sees_covered hafter hsees hcover

/-- One instance at a time loses nothing. -/
theorem putsCover_of_oneAtATime {p : BloomParams} {calls : List BloomCall}
    (h : OneAtATime (fun _ => p) calls) : PutsCover p calls := by
  rintro pre call post rfl
  cases call with
  | commit =>
      rintro row hput bit ⟨f, hrow, hbit⟩
      obtain ⟨g, rfl, hwithin⟩ := (ordered_run h.of_append).over hrow hput
      obtain ⟨hrows, hputs⟩ := rows_isFor p pre
      have hf : f.IsFor p := hrows (.bits f) hrow
      have hg : g.IsFor p := hputs (.bits g) (mem_puts.mpr (List.mem_of_head? hput))
      exact ⟨g, rfl, (hwithin.grown hf hg).bits bit hbit⟩
  | opens i => trivial
  | connected i => trivial
  | refused i => trivial
  | close i => trivial
  | markSeen i msgId => trivial
  | flush i => trivial
  | abort => trivial

/-- Nor does an instance that is marked when none of its calls of `open` is under way. -/
theorem flushesCarry_of_settled {p : BloomParams} {calls : List BloomCall}
    (h : MarksSettled (fun _ => p) calls) : FlushesCarry p calls := by
  rintro pre i msgId mid waiting post rfl hflushed
  obtain ⟨f, hopened, hseen⟩ := hflushed.sees (h pre i msgId _ rfl)
  exact ⟨f, hopened.filter, hseen⟩

/-- Two instances, each with its copy of the empty row: the second one puts its copy
over the bits of the first. -/
theorem flush_overwrites_marks :
    ¬ ∀ (p : BloomParams) (calls : List BloomCall), KeepsMarks p calls := by
  intro h
  obtain ⟨-, -, hreported⟩ := h smallParams [.opens 0, .connected 0, .commit, .opens 1,
    .connected 1, .commit, .markSeen 0 [1], .flush 0, .commit, .flush 1, .commit, .opens 2,
    .connected 2, .commit]
  have hwaits : FlushWaits (fun _ => smallParams) 0 [1] [.opens 0, .connected 0, .commit, .opens 1,
      .connected 1, .commit, .markSeen 0 [1], .flush 0] :=
    ⟨[.opens 0, .connected 0, .commit, .opens 1, .connected 1, .commit], [], [], rfl, rfl, rfl,
      List.not_mem_nil, rfl⟩
  obtain ⟨f, hf, hseen⟩ := hreported 0 [1] _ [.flush 1, .commit, .opens 2, .connected 2] 2 []
    hwaits rfl rfl
  have hunseen : ((run (fun _ => smallParams) [.opens 0, .connected 0, .commit, .opens 1,
      .connected 1, .commit, .markSeen 0 [1], .flush 0, .commit, .flush 1, .commit, .opens 2,
      .connected 2, .commit]).instances 2).filter.all (fun f => f.hasSeen [1] = false) = true := by
    decide +kernel
  rw [hf, Option.all_some, decide_eq_true_eq, hseen] at hunseen
  cases hunseen

/-- Two calls of `open` of one instance: the read of the second takes the mark away, and the
flush puts a row without it. -/
example : ((run (fun _ => smallParams) [.opens 0, .opens 0, .connected 0, .commit,
    .markSeen 0 [1], .connected 0, .commit, .flush 0, .commit, .opens 1, .connected 1,
    .commit]).instances 1).filter.all (fun f => f.hasSeen [1] = false) = true := by
  decide +kernel

end Oxpulse.MeshCore
