import Oxpulse.Crypto.Primitives
import Oxpulse.Foundation.Histories
import Oxpulse.Foundation.HostTimers

/-!
# MAC rotation

`MacRotationTimer` of `mac-rotation.ts` on the timers of the host. The `rotate`
callback is the user's: while it runs, `start`, `stop` and `onVisibilityChange`
may be called, and it may throw. So a firing that calls `rotate` is two steps,
and what happens between them happens inside the callback. The moments at which
timers fire are left to the host; delays are not modelled.

The callback of the jitter timer sets the interval after `rotate` returned,
whatever `rotate` did (`afterJitter`). A `stop` inside it leaves an interval that
nobody asked for, a `start` inside it a second timer; as long as `rotate` does
neither there, the timer obeys `stop` (`rotation_obeys_stop`).
-/

namespace Oxpulse.MeshCore

open Oxpulse.Crypto Oxpulse.HostTimers

/-- The two closures that are handed to the host. -/
inductive RotationCallback : Type where
  | jitter
  | interval
deriving DecidableEq

structure MacRotationTimer : Type where
  initialJitter : Bool
  handle : Option ℕ
  jitterHandle : Option ℕ
  paused : Bool

/-- The object, the timers it set, and the callback that is inside `rotate`. -/
structure Rotation : Type where
  timer : MacRotationTimer
  timers : Timers RotationCallback
  rotating : Option RotationCallback

namespace Rotation

/-- The constructor. -/
def new (initialJitter : Bool) : Rotation where
  timer := ⟨initialJitter, none, none, false⟩
  timers := .empty
  rotating := none

def startJitter (r : Rotation) : Rotation :=
  { r with
    timer := { r.timer with jitterHandle := some r.timers.next }
    timers := r.timers.set .jitter }

def startInterval (r : Rotation) : Rotation :=
  { r with
    timer := { r.timer with handle := some r.timers.next }
    timers := r.timers.set .interval }

def start (r : Rotation) : Except JsError Rotation :=
  if r.timer.handle ≠ none ∨ r.timer.jitterHandle ≠ none then .error (.error "already started")
  else if r.timer.initialJitter then .ok r.startJitter
  else .ok r.startInterval

def stop (r : Rotation) : Rotation :=
  { r with
    timer := { r.timer with jitterHandle := none, handle := none }
    timers := (r.timers.clearSome r.timer.jitterHandle).clearSome r.timer.handle }

def onVisibilityChange (visible : Bool) (r : Rotation) : Rotation :=
  { r with timer := { r.timer with paused := !visible } }

/-- The end of the jitter callback. -/
def afterJitter (r : Rotation) : Rotation := { r.startInterval with rotating := none }

/-- The jitter timer is gone when it fires. -/
def jitterFires (handle : ℕ) (r : Rotation) : Rotation :=
  let r :=
    { r with
      timer := { r.timer with jitterHandle := none }
      timers := r.timers.clear handle }
  if r.timer.paused then r.afterJitter else { r with rotating := some .jitter }

def intervalFires (r : Rotation) : Rotation :=
  if r.timer.paused then r else { r with rotating := some .interval }

end Rotation

inductive RotationEvent : Type where
  | start
  | stop
  | onVisibilityChange (visible : Bool)
  /-- A pending timer fires; no callback is running. -/
  | fires (handle : ℕ)
  | rotateReturns
  | rotateThrows
deriving DecidableEq

open Rotation

/-- What an event does; `none` where it cannot occur. -/
def rotationStep (r : Rotation) : RotationEvent → Option Rotation
  | .start =>
      match r.start with
      | .ok r' => some r'
      | .error _ => some r
  | .stop => some r.stop
  | .onVisibilityChange visible => some (r.onVisibilityChange visible)
  | .fires handle =>
      if r.rotating = none then
        match r.timers.callback? handle with
        | none => none
        | some .jitter => some (r.jitterFires handle)
        | some .interval => some r.intervalFires
      else none
  | .rotateReturns =>
      match r.rotating with
      | none => none
      | some .jitter => some r.afterJitter
      | some .interval => some { r with rotating := none }
  | .rotateThrows =>
      match r.rotating with
      | none => none
      | some _ => some { r with rotating := none }

/-- A new timer after these events. -/
def rotationRun (initialJitter : Bool) (events : List RotationEvent) : Option Rotation :=
  events.foldlM rotationStep (new initialJitter)

/-! ## What a history says -/

/-- Whether the last call of `start` or `stop` was a `start`. -/
def started : List RotationEvent → Bool :=
  List.foldl (fun b e =>
    match e with
    | .start => true
    | .stop => false
    | _ => b) false

/-- Whether the last `onVisibilityChange` was a hidden one. -/
def hidden : List RotationEvent → Bool :=
  List.foldl (fun b e =>
    match e with
    | .onVisibilityChange visible => !visible
    | _ => b) false

/-- Whether `start` or `stop` was called since a timer fired. -/
def calledSinceFiring : List RotationEvent → Bool :=
  List.foldl (fun b e =>
    match e with
    | .start | .stop => true
    | .fires _ => false
    | _ => b) false

/-- The step calls `rotate`. -/
def CallsRotate (r r' : Rotation) : Prop := r.rotating = none ∧ r'.rotating ≠ none

/-- At most one timer is pending at any time, and `rotate` is called only while
the timer is started and not paused. -/
structure ObeysStop (initialJitter : Bool) (events : List RotationEvent) : Prop where
  single : ∀ pre post r, events = pre ++ post → rotationRun initialJitter pre = some r →
    r.timers.pending.length ≤ 1
  visible : ∀ pre e post r r', events = pre ++ e :: post →
    rotationRun initialJitter pre = some r → rotationStep r e = some r' → CallsRotate r r' →
    hidden pre = false
  running : ∀ pre e post r r', events = pre ++ e :: post →
    rotationRun initialJitter pre = some r → rotationStep r e = some r' → CallsRotate r r' →
    started pre = true

/-- `rotate` does not return to the jitter callback after it called `start` or
`stop`. -/
def Undisturbed (history : List RotationEvent) (r : Rotation) (e : RotationEvent) : Prop :=
  e = .rotateReturns → r.rotating = some .jitter → calledSinceFiring history = false

/-! ## Histories -/

section Histories

variable (history : List RotationEvent)

theorem started_concat (e : RotationEvent) : started (history ++ [e]) =
    match e with
    | .start => true
    | .stop => false
    | _ => started history := by
  unfold started
  rw [List.foldl_append]
  rfl

theorem hidden_concat (e : RotationEvent) : hidden (history ++ [e]) =
    match e with
    | .onVisibilityChange visible => !visible
    | _ => hidden history := by
  unfold hidden
  rw [List.foldl_append]
  rfl

theorem calledSinceFiring_concat (e : RotationEvent) : calledSinceFiring (history ++ [e]) =
    match e with
    | .start | .stop => true
    | .fires _ => false
    | _ => calledSinceFiring history := by
  unfold calledSinceFiring
  rw [List.foldl_append]
  rfl

theorem rotationRun_concat (initialJitter : Bool) (e : RotationEvent) :
    rotationRun initialJitter (history ++ [e]) =
      (rotationRun initialJitter history).bind fun r => rotationStep r e := by
  unfold rotationRun
  rw [List.foldlM_append]
  cases List.foldlM rotationStep (new initialJitter) history with
  | none => rfl
  | some r => simp

end Histories

/-! ## The handles and the pending timers -/

/-- The timer the object knows of. -/
abbrev Armed : Type := Option (ℕ × RotationCallback)

def handleOf (c : RotationCallback) (armed : Armed) : Option ℕ :=
  armed.bind fun timer => if timer.2 = c then some timer.1 else none

/-- The handles are those of the timer that is pending, and there is no other. -/
structure Holds (r : Rotation) (armed : Armed) : Prop where
  pending : r.timers.pending = armed.toList
  handle : r.timer.handle = handleOf .interval armed
  jitterHandle : r.timer.jitterHandle = handleOf .jitter armed

section Holds

variable {r : Rotation} {armed : Armed}

theorem holds_new (initialJitter : Bool) : Holds (new initialJitter) none := ⟨rfl, rfl, rfl⟩

theorem holds_startJitter (h : Holds r none) :
    Holds r.startJitter (some (r.timers.next, .jitter)) := by
  refine ⟨?_, h.handle, rfl⟩
  show r.timers.pending ++ _ = _
  rw [h.pending]
  rfl

theorem holds_startInterval (h : Holds r none) :
    Holds r.startInterval (some (r.timers.next, .interval)) := by
  refine ⟨?_, rfl, h.jitterHandle⟩
  show r.timers.pending ++ _ = _
  rw [h.pending]
  rfl

theorem holds_stop (h : Holds r armed) : Holds r.stop none := by
  refine ⟨?_, rfl, rfl⟩
  show ((r.timers.clearSome r.timer.jitterHandle).clearSome r.timer.handle).pending = []
  rw [h.handle, h.jitterHandle]
  match armed, h.pending with
  | none, hp => exact hp
  | some (h, .jitter), hp => exact Timers.pending_clear_single hp
  | some (h, .interval), hp => exact Timers.pending_clear_single hp

/-- `start` throws exactly when a timer is pending. -/
theorem start_of_holds (h : Holds r armed) :
    (armed.isSome ∧ r.start = .error (.error "already started")) ∨
      (armed = none ∧ ∃ r' a, r.start = .ok r' ∧ Holds r' (some a) ∧
        r'.timer.paused = r.timer.paused ∧ r'.rotating = r.rotating) := by
  unfold Rotation.start
  rw [h.handle, h.jitterHandle]
  match armed, h with
  | some (handle, .jitter), _ => exact Or.inl ⟨rfl, if_pos (Or.inr (by simp [handleOf]))⟩
  | some (handle, .interval), _ => exact Or.inl ⟨rfl, if_pos (Or.inl (by simp [handleOf]))⟩
  | none, h =>
      refine Or.inr ⟨rfl, ?_⟩
      rw [if_neg (by simp [handleOf])]
      cases r.timer.initialJitter with
      | true => exact ⟨r.startJitter, _, rfl, holds_startJitter h, rfl, rfl⟩
      | false => exact ⟨r.startInterval, _, rfl, holds_startInterval h, rfl, rfl⟩

/-- Only the timer that is held fires. -/
theorem armed_of_callback? {handle : ℕ} {c : RotationCallback} (h : Holds r armed)
    (hc : r.timers.callback? handle = some c) : armed = some (handle, c) := by
  have hmem := Timers.mem_of_callback? hc
  rw [h.pending] at hmem
  exact Option.mem_toList.mp hmem

end Holds

/-! ## One event -/

/-- What holds after a history in which `rotate` left the jitter callback
undisturbed. -/
structure Tracked (history : List RotationEvent) (r : Rotation) (armed : Armed) : Prop where
  holds : Holds r armed
  paused : r.timer.paused = hidden history
  running : armed.isSome → started history = true
  /-- The jitter callback is going to set the interval. -/
  undisturbed : r.rotating = some .jitter → calledSinceFiring history = false →
    armed = none ∧ started history = true
  disturbed : r.rotating = some .jitter → calledSinceFiring history = true →
    started history = true → armed.isSome

section Step

variable {history : List RotationEvent} {r r' : Rotation} {armed : Armed}

theorem tracked_new (initialJitter : Bool) : Tracked [] (new initialJitter) none :=
  ⟨holds_new initialJitter, rfl, fun h => (nomatch h), fun h => (nomatch h), fun h => (nomatch h)⟩

theorem tracked_start (h : Tracked history r armed) (hstep : rotationStep r .start = some r') :
    ∃ armed', Tracked (history ++ [.start]) r' armed' := by
  have hstarted : started (history ++ [.start]) = true := started_concat history .start
  have hcalled : calledSinceFiring (history ++ [.start]) = true :=
    calledSinceFiring_concat history .start
  have hhidden : r.timer.paused = hidden (history ++ [.start]) := by
    rw [hidden_concat]
    exact h.paused
  unfold rotationStep at hstep
  rcases start_of_holds h.holds with ⟨hsome, hthrows⟩ | ⟨rfl, r₁, a, hok, hholds, hpaused, hrot⟩
  · rw [hthrows] at hstep
    cases hstep
    exact ⟨armed, h.holds, hhidden, fun _ => hstarted,
      fun _ hfalse => absurd (hcalled.symm.trans hfalse) Bool.noConfusion, fun _ _ _ => hsome⟩
  · rw [hok] at hstep
    cases hstep
    exact ⟨some a, hholds, hpaused.trans hhidden, fun _ => hstarted,
      fun _ hfalse => absurd (hcalled.symm.trans hfalse) Bool.noConfusion, fun _ _ _ => rfl⟩

theorem tracked_stop (h : Tracked history r armed) : Tracked (history ++ [.stop]) r.stop none := by
  have hstarted : started (history ++ [.stop]) = false := started_concat history .stop
  have hcalled : calledSinceFiring (history ++ [.stop]) = true :=
    calledSinceFiring_concat history .stop
  refine ⟨holds_stop h.holds, ?_, fun h => (nomatch h), fun _ hfalse => ?_, fun _ _ htrue => ?_⟩
  · rw [hidden_concat]
    exact h.paused
  · exact absurd (hcalled.symm.trans hfalse) Bool.noConfusion
  · exact absurd (hstarted.symm.trans htrue) Bool.noConfusion

theorem tracked_onVisibilityChange (visible : Bool) (h : Tracked history r armed) :
    Tracked (history ++ [.onVisibilityChange visible]) (r.onVisibilityChange visible) armed := by
  have hstarted := started_concat history (.onVisibilityChange visible)
  have hcalled := calledSinceFiring_concat history (.onVisibilityChange visible)
  refine ⟨⟨h.holds.pending, h.holds.handle, h.holds.jitterHandle⟩, ?_, fun hsome => ?_,
    fun hrot hfalse => ?_, fun hrot htrue hst => ?_⟩
  · rw [hidden_concat]
    rfl
  · exact hstarted.trans (h.running hsome)
  · obtain ⟨hnone, hst⟩ := h.undisturbed hrot (hcalled.symm.trans hfalse)
    exact ⟨hnone, hstarted.trans hst⟩
  · exact h.disturbed hrot (hcalled.symm.trans htrue) (hstarted.symm.trans hst)

/-- Setting the interval when no timer is held: no callback runs any more. -/
theorem tracked_afterJitter {e : RotationEvent} (hholds : Holds r none)
    (hpaused : r.timer.paused = hidden (history ++ [e]))
    (hstarted : started (history ++ [e]) = true) :
    Tracked (history ++ [e]) r.afterJitter (some (r.timers.next, .interval)) := by
  obtain ⟨hpending, hhandle, hjitter⟩ := holds_startInterval hholds
  exact ⟨⟨hpending, hhandle, hjitter⟩, hpaused, fun _ => hstarted, fun h => (nomatch h),
    fun h => (nomatch h)⟩

/-- The callback is left without more ado. -/
theorem tracked_leave {e : RotationEvent} (h : Tracked history r armed)
    (hhidden : hidden (history ++ [e]) = hidden history)
    (hstarted : started (history ++ [e]) = started history) :
    Tracked (history ++ [e]) { r with rotating := none } armed :=
  ⟨⟨h.holds.pending, h.holds.handle, h.holds.jitterHandle⟩, h.paused.trans hhidden.symm,
    fun hsome => hstarted.trans (h.running hsome), fun h => (nomatch h), fun h => (nomatch h)⟩

/-- A timer fires: `rotate` is called only if the timer is started and visible. -/
theorem tracked_fires {handle : ℕ} (h : Tracked history r armed)
    (hstep : rotationStep r (.fires handle) = some r') :
    (∃ armed', Tracked (history ++ [.fires handle]) r' armed') ∧
      (r'.rotating ≠ none → hidden history = false ∧ started history = true) := by
  have hstarted := started_concat history (.fires handle)
  have hhidden := hidden_concat history (.fires handle)
  have hcalled : calledSinceFiring (history ++ [.fires handle]) = false :=
    calledSinceFiring_concat history (.fires handle)
  simp only [rotationStep] at hstep
  split at hstep
  next hidle =>
    cases hc : r.timers.callback? handle with
    | none =>
        rw [hc] at hstep
        cases hstep
    | some c =>
        rw [hc] at hstep
        obtain rfl := armed_of_callback? h.holds hc
        have hst : started history = true := h.running rfl
        have hpaused : r.timer.paused = hidden (history ++ [.fires handle]) :=
          h.paused.trans hhidden.symm
        cases c with
        | jitter =>
            cases hstep
            have hgone : Holds { r with
                timer := { r.timer with jitterHandle := none }
                timers := r.timers.clear handle } none :=
              ⟨Timers.pending_clear_single h.holds.pending, h.holds.handle, rfl⟩
            unfold jitterFires
            dsimp only
            split
            next hp =>
              exact ⟨⟨_, tracked_afterJitter hgone hpaused (hstarted.trans hst)⟩,
                fun hrot => absurd rfl hrot⟩
            next hp =>
              refine ⟨⟨none, ⟨hgone.pending, hgone.handle, hgone.jitterHandle⟩, hpaused,
                fun h => (nomatch h), fun _ _ => ⟨rfl, hstarted.trans hst⟩, fun _ htrue => ?_⟩,
                fun _ => ⟨h.paused ▸ Bool.eq_false_iff.mpr hp, hst⟩⟩
              exact absurd (hcalled.symm.trans htrue) Bool.noConfusion
        | interval =>
            cases hstep
            unfold intervalFires
            split
            next hp =>
              refine ⟨⟨_, h.holds, hpaused, fun _ => hstarted.trans hst, fun hrot => ?_,
                fun hrot => ?_⟩, fun hrot => absurd hidle hrot⟩
              · rw [hidle] at hrot
                cases hrot
              · rw [hidle] at hrot
                cases hrot
            next hp =>
              exact ⟨⟨_, ⟨h.holds.pending, h.holds.handle, h.holds.jitterHandle⟩, hpaused,
                fun _ => hstarted.trans hst, fun h => (nomatch h), fun h => (nomatch h)⟩,
                fun _ => ⟨h.paused ▸ Bool.eq_false_iff.mpr hp, hst⟩⟩
  next => cases hstep

theorem tracked_rotateReturns (h : Tracked history r armed)
    (hcalm : Undisturbed history r .rotateReturns)
    (hstep : rotationStep r .rotateReturns = some r') :
    ∃ armed', Tracked (history ++ [.rotateReturns]) r' armed' := by
  have hstarted := started_concat history .rotateReturns
  have hhidden := hidden_concat history .rotateReturns
  simp only [rotationStep] at hstep
  split at hstep
  next => cases hstep
  next hrot =>
    cases hstep
    obtain ⟨rfl, hst⟩ := h.undisturbed hrot (hcalm rfl hrot)
    exact ⟨_, tracked_afterJitter h.holds (h.paused.trans hhidden.symm) (hstarted.trans hst)⟩
  next hrot =>
    cases hstep
    exact ⟨armed, tracked_leave h hhidden hstarted⟩

theorem tracked_rotateThrows (h : Tracked history r armed)
    (hstep : rotationStep r .rotateThrows = some r') :
    Tracked (history ++ [.rotateThrows]) r' armed := by
  simp only [rotationStep] at hstep
  split at hstep
  next => cases hstep
  next =>
    cases hstep
    exact tracked_leave h (hidden_concat history .rotateThrows)
      (started_concat history .rotateThrows)

/-- **One event.** -/
theorem tracked_step {e : RotationEvent} (h : Tracked history r armed)
    (hcalm : Undisturbed history r e) (hstep : rotationStep r e = some r') :
    ∃ armed', Tracked (history ++ [e]) r' armed' := by
  cases e with
  | start => exact tracked_start h hstep
  | stop =>
      cases hstep
      exact ⟨none, tracked_stop h⟩
  | onVisibilityChange visible =>
      cases hstep
      exact ⟨armed, tracked_onVisibilityChange visible h⟩
  | fires handle => exact (tracked_fires h hstep).1
  | rotateReturns => exact tracked_rotateReturns h hcalm hstep
  | rotateThrows => exact ⟨armed, tracked_rotateThrows h hstep⟩

/-- Only a firing calls `rotate`. -/
theorem fires_of_callsRotate {e : RotationEvent} (hstep : rotationStep r e = some r')
    (hcall : CallsRotate r r') : ∃ handle, e = .fires handle := by
  obtain ⟨hidle, hrot⟩ := hcall
  cases e with
  | fires handle => exact ⟨handle, rfl⟩
  | start =>
      simp only [rotationStep, Rotation.start] at hstep
      split at hstep
      next heq =>
        split at heq
        · cases heq
        · split at heq <;> cases heq <;> cases hstep <;> exact absurd hidle hrot
      next =>
        cases hstep
        exact absurd hidle hrot
  | stop | onVisibilityChange =>
      cases hstep
      exact absurd hidle hrot
  | rotateReturns | rotateThrows =>
      simp only [rotationStep, hidle] at hstep
      cases hstep

end Step

/-! ## Runs -/

/-- Every return of `rotate` into the jitter callback finds it undisturbed. -/
def AllUndisturbed (initialJitter : Bool) (events : List RotationEvent) : Prop :=
  ∀ pre e post r, events = pre ++ e :: post → rotationRun initialJitter pre = some r →
    Undisturbed pre r e

section Runs

variable {initialJitter : Bool} {events : List RotationEvent} {r r' : Rotation}

theorem AllUndisturbed.prefix {l l' : List RotationEvent}
    (h : AllUndisturbed initialJitter (l ++ l')) : AllUndisturbed initialJitter l := by
  intro pre e post r heq
  exact Histories.each_left (P := fun pre e => ∀ r, rotationRun initialJitter pre = some r →
    Undisturbed pre r e) (fun pre e post heq r => h pre e post r heq) pre e post heq r

/-- **Every run that leaves the jitter callback undisturbed is tracked.** -/
theorem tracked_run (hcalm : AllUndisturbed initialJitter events)
    (hrun : rotationRun initialJitter events = some r) : ∃ armed, Tracked events r armed := by
  induction events using List.reverseRecOn generalizing r with
  | nil =>
      cases hrun
      exact ⟨none, tracked_new initialJitter⟩
  | append_singleton events e ih =>
      rw [rotationRun_concat] at hrun
      obtain ⟨r₁, hrun₁, hstep⟩ := Option.bind_eq_some_iff.mp hrun
      obtain ⟨armed, h⟩ := ih hcalm.prefix hrun₁
      exact tracked_step h (hcalm events e [] r₁ rfl hrun₁) hstep

theorem Tracked.length_le {armed : Armed} (h : Tracked events r armed) :
    r.timers.pending.length ≤ 1 := by
  rw [h.holds.pending]
  cases armed <;> simp

/-- Only a started and visible timer calls `rotate`. -/
theorem Tracked.callsRotate {armed : Armed} {e : RotationEvent} (h : Tracked events r armed)
    (hstep : rotationStep r e = some r') (hcall : CallsRotate r r') :
    hidden events = false ∧ started events = true := by
  obtain ⟨handle, rfl⟩ := fires_of_callsRotate hstep hcall
  exact (tracked_fires h hstep).2 hcall.2

theorem obeysStop_of_undisturbed (hcalm : AllUndisturbed initialJitter events) :
    ObeysStop initialJitter events := by
  constructor
  case single =>
    rintro pre post r rfl hrun
    obtain ⟨armed, h⟩ := tracked_run hcalm.prefix hrun
    exact h.length_le
  case visible =>
    rintro pre e post r r' rfl hrun hstep hcall
    obtain ⟨armed, h⟩ := tracked_run hcalm.prefix hrun
    exact (h.callsRotate hstep hcall).1
  case running =>
    rintro pre e post r r' rfl hrun hstep hcall
    obtain ⟨armed, h⟩ := tracked_run hcalm.prefix hrun
    exact (h.callsRotate hstep hcall).2

/-- After `rotate` disturbed the jitter callback and returned, two timers are
pending, or a stopped timer calls `rotate` as soon as the page is visible and its
interval fires. -/
theorem disobeys_of_disturbed (hcalm : AllUndisturbed initialJitter events)
    (hrun : rotationRun initialJitter events = some r) (hrot : r.rotating = some .jitter)
    (hcalled : calledSinceFiring events = true) :
    ¬ ObeysStop initialJitter (events ++
      [.rotateReturns, .onVisibilityChange true, .fires r.timers.next]) := by
  intro hobeys
  obtain ⟨armed, h⟩ := tracked_run hcalm hrun
  have hreturn : rotationRun initialJitter (events ++ [.rotateReturns]) = some r.afterJitter := by
    rw [rotationRun_concat, hrun]
    simp [rotationStep, hrot]
  cases armed with
  | some timer =>
      have hlength := hobeys.single (events ++ [.rotateReturns]) _ _
        (by rw [List.append_assoc]; rfl) hreturn
      have htwo : r.afterJitter.timers.pending = [timer, (r.timers.next, .interval)] := by
        show r.timers.pending ++ _ = _
        rw [h.holds.pending]
        rfl
      rw [htwo] at hlength
      exact absurd hlength (Nat.not_succ_le_self 1)
  | none =>
      have hstopped : started events = false := by
        rw [← Bool.not_eq_true]
        exact fun hst => absurd (h.disturbed hrot hcalled hst) Bool.noConfusion
      have hpending : r.afterJitter.timers.pending = [(r.timers.next, .interval)] := by
        show r.timers.pending ++ _ = _
        rw [h.holds.pending]
        rfl
      have hvisible : rotationRun initialJitter
          (events ++ [.rotateReturns] ++ [.onVisibilityChange true]) =
            some (r.afterJitter.onVisibilityChange true) := by
        rw [rotationRun_concat, hreturn]
        rfl
      have hfires : rotationStep (r.afterJitter.onVisibilityChange true)
          (.fires r.timers.next) =
            some { r.afterJitter.onVisibilityChange true with rotating := some .interval } := by
        have hc : (r.afterJitter.onVisibilityChange true).timers.callback? r.timers.next =
            some .interval := Timers.callback?_single hpending
        have hidle : (r.afterJitter.onVisibilityChange true).rotating = none := rfl
        simp only [rotationStep, hidle, hc, if_true]
        rfl
      have hstarted := hobeys.running (events ++ [.rotateReturns] ++ [.onVisibilityChange true])
        (.fires r.timers.next) [] _ _ (by simp) hvisible hfires ⟨rfl, by simp⟩
      rw [started_concat, started_concat, hstopped] at hstarted
      cases hstarted

end Runs

/-- **The timer obeys `stop`** in every run in which `rotate` does not return to
the jitter callback after it called `start` or `stop`; and where it does, the run
or a continuation of it does not obey. -/
theorem rotation_obeys_stop (initialJitter : Bool) (events : List RotationEvent) :
    (AllUndisturbed initialJitter events → ObeysStop initialJitter events) ∧
    ∀ r, AllUndisturbed initialJitter events → rotationRun initialJitter events = some r →
      ¬ Undisturbed events r .rotateReturns →
      ∃ post, ¬ ObeysStop initialJitter (events ++ .rotateReturns :: post) := by
  refine ⟨obeysStop_of_undisturbed, fun r hcalm hrun hdisturbed => ?_⟩
  unfold Undisturbed at hdisturbed
  push Not at hdisturbed
  obtain ⟨-, hrot, hcalled⟩ := hdisturbed
  exact ⟨_, disobeys_of_disturbed hcalm hrun hrot (by simpa using hcalled)⟩

/-- `rotate` called by the jitter timer, with nothing else in between. -/
def quietRotation : List RotationEvent := [.start, .fires 0, .rotateReturns, .stop]

/-- `stop` inside `rotate`. -/
def stopInRotate : List RotationEvent := [.start, .fires 0, .stop]

theorem quietRotation_undisturbed : AllUndisturbed true quietRotation := by
  rintro pre e post r heq - rfl -
  have hpre : pre = [.start, .fires 0] := by
    match pre, heq with
    | [_, _], heq =>
        cases heq
        rfl
    | [_, _, _, _], heq => simp [quietRotation] at heq
    | _ :: _ :: _ :: _ :: _ :: _, heq => simp [quietRotation] at heq
  rw [hpre]
  rfl

theorem stopInRotate_undisturbed : AllUndisturbed true stopInRotate := by
  rintro pre e post r heq - rfl -
  have hmem : RotationEvent.rotateReturns ∈ stopInRotate := by
    rw [heq]
    simp
  exact absurd hmem (by decide)

theorem rotation_obeys_stop_sample :
    ObeysStop true quietRotation ∧
      ∃ post, ¬ ObeysStop true (stopInRotate ++ .rotateReturns :: post) :=
  ⟨(rotation_obeys_stop true quietRotation).1 quietRotation_undisturbed,
    (rotation_obeys_stop true stopInRotate).2 _ stopInRotate_undisturbed rfl
      fun h => absurd (h rfl rfl) (by decide)⟩

/-- `stop` called from inside the first `rotate`: the interval is set all the same, and
`rotate` is called again. -/
theorem rotate_after_stop :
    ¬ ObeysStop true [.start, .fires 0, .stop, .rotateReturns, .fires 1] := by
  intro h
  have hstarted := h.running [.start, .fires 0, .stop, .rotateReturns] (.fires 1) [] _ _ rfl rfl rfl
    ⟨rfl, by decide⟩
  exact absurd hstarted (by decide)

end Oxpulse.MeshCore
