import Mathlib.Algebra.BigOperators.Intervals
import Oxpulse.Foundation.LiveSet
import Oxpulse.Transport.MeshBranches

/-!
# Who is told of a change

`notifyHandshakeChange` calls the handlers of `onHandshakeStateChange` one after
the other, ignores what they throw, and sees what they do to the set meanwhile.
Of the branches that change a verdict or set a SAS, those of `advanceHandshake`
that reject a pending object do not call it, and all others do
(`change_announced_iff`).
-/

namespace Oxpulse.Transport

open Oxpulse.Coroutine Oxpulse.Crypto Oxpulse.LiveSet

/-! ## The handlers -/

/-- What a handler does to the set of handlers. -/
inductive HandlerChange (H : Type) : Type where
  | subscribe (handler : H)
  | unsubscribe (handler : H)

/-- A call of a handler: what it does to the set, and whether it throws. -/
structure HandlerReply (H : Type) : Type where
  changes : List (HandlerChange H)
  result : Except JsError Unit

structure Handlers (H : Type) : Type where
  /-- `handshakeChangeHandlers`. -/
  registered : Slots H
  /-- Which handlers were called, in order. -/
  called : List H

section Handlers

variable {H : Type} [DecidableEq H]

def onHandshakeStateChange (handler : H) (s : Handlers H) : Handlers H :=
  { s with registered := s.registered.add handler }

/-- The function that `onHandshakeStateChange` returns. -/
def unsubscribeHandler (handler : H) (s : Handlers H) : Handlers H :=
  { s with registered := s.registered.delete handler }

def HandlerChange.apply (s : Handlers H) : HandlerChange H → Handlers H
  | .subscribe handler => onHandshakeStateChange handler s
  | .unsubscribe handler => unsubscribeHandler handler s

/-- `h()`, where the `n`-th call of all does `reply n`. -/
def callHandler (reply : ℕ → HandlerReply H) (h : H) (s : Handlers H) :
    Handlers H × Except JsError Unit :=
  let r := reply s.called.length
  (r.changes.foldl HandlerChange.apply { s with called := s.called ++ [h] }, r.result)

/-- The body of the loop: what the handler throws is ignored. -/
def tryHandler (reply : ℕ → HandlerReply H) (h : H) (s : Handlers H) :
    Handlers H × Except JsError Unit :=
  match callHandler reply h s with
  | (s', .ok _) => (s', .ok ())
  | (s', .error _) => (s', .ok ())

def notifyHandshakeChange (reply : ℕ → HandlerReply H) (fuel : ℕ) (s : Handlers H) :
    Option (Handlers H × Except JsError Unit) :=
  forOf Handlers.registered (tryHandler reply) fuel 0 s

/-- So many notifications after each other, each of which returns. -/
def Notifications (reply : ℕ → HandlerReply H) : ℕ → Handlers H → Handlers H → Prop
  | 0, s, s' => s' = s
  | k + 1, s, s' =>
      ∃ fuel s₁, notifyHandshakeChange reply fuel s = some (s₁, .ok ()) ∧
        Notifications reply k s₁ s'

/-- The calls that lead from one state to the other. -/
def Calls (s s' : Handlers H) (calls : List H) : Prop := s'.called = s.called ++ calls

/-- Every handler that is registered in the end has been called. -/
def AllCalled (s s' : Handlers H) : Prop :=
  ∃ calls, Calls s s' calls ∧ ∀ h, some h ∈ s'.registered → h ∈ calls

/-- The handlers subscribe no others, from some call on. -/
def StopSubscribing (reply : ℕ → HandlerReply H) : Prop :=
  ∃ N, ∀ n, N ≤ n → ∀ h, HandlerChange.subscribe h ∉ (reply n).changes

variable {reply : ℕ → HandlerReply H} {s s' s'' : Handlers H} {h : H}

/-- The loop goes on after each handler. -/
theorem tryHandler_eq (reply : ℕ → HandlerReply H) (h : H) (s : Handlers H) :
    tryHandler reply h s = ((callHandler reply h s).1, .ok ()) := by
  unfold tryHandler
  split
  next s₁ u hcall => rw [hcall]
  next s₁ e hcall => rw [hcall]

theorem apply_called (c : HandlerChange H) (s : Handlers H) : (c.apply s).called = s.called := by
  cases c with
  | subscribe h => rfl
  | unsubscribe h => rfl

theorem apply_grows (c : HandlerChange H) (s : Handlers H) :
    Grows s.registered (c.apply s).registered := by
  cases c with
  | subscribe h => exact grows_add h s.registered
  | unsubscribe h => exact grows_delete h s.registered

theorem changes_called (changes : List (HandlerChange H)) :
    ∀ s : Handlers H, (changes.foldl HandlerChange.apply s).called = s.called := by
  induction changes with
  | nil => exact fun s => rfl
  | cons c changes ih => exact fun s => (ih (c.apply s)).trans (apply_called c s)

theorem changes_grows (changes : List (HandlerChange H)) :
    ∀ s : Handlers H, Grows s.registered (changes.foldl HandlerChange.apply s).registered := by
  induction changes with
  | nil => exact fun s => .refl s.registered
  | cons c changes ih => exact fun s => (apply_grows c s).trans (ih (c.apply s))

theorem callHandler_called (reply : ℕ → HandlerReply H) (h : H) (s : Handlers H) :
    (callHandler reply h s).1.called = s.called ++ [h] :=
  changes_called _ _

theorem callHandler_grows (reply : ℕ → HandlerReply H) (h : H) (s : Handlers H) :
    Grows s.registered (callHandler reply h s).1.registered :=
  changes_grows _ { s with called := s.called ++ [h] }

/-- What the loop does for a handler that it comes to. -/
theorem tryHandler_visits (reply : ℕ → HandlerReply H) (s : Handlers H) :
    Visits Handlers.registered (tryHandler reply) (fun t => ∃ calls, Calls s t calls)
      fun h t => ∃ calls, Calls s t calls ∧ h ∈ calls where
  returns := fun h t => by rw [tryHandler_eq]
  grows := fun h t => by
    rw [tryHandler_eq]
    exact callHandler_grows reply h t
  invariant := fun h t hcalls => by
    obtain ⟨calls, hcalls⟩ := hcalls
    refine ⟨calls ++ [h], ?_⟩
    unfold Calls at hcalls ⊢
    rw [tryHandler_eq, callHandler_called, hcalls, List.append_assoc]
  visits := fun h t hcalls => by
    obtain ⟨calls, hcalls⟩ := hcalls
    refine ⟨calls ++ [h], ?_, List.mem_append_right _ List.mem_cons_self⟩
    unfold Calls at hcalls ⊢
    rw [tryHandler_eq, callHandler_called, hcalls, List.append_assoc]
  keeps := fun h h' t hcalls => by
    obtain ⟨calls, hcalls, hmem⟩ := hcalls
    refine ⟨calls ++ [h'], ?_, List.mem_append_left _ hmem⟩
    unfold Calls at hcalls ⊢
    rw [tryHandler_eq, callHandler_called, hcalls, List.append_assoc]

/-- **A notification calls every handler**, whatever the others throw. -/
theorem notifyHandshakeChange_calls {fuel : ℕ} {x : Except JsError Unit}
    (hrun : notifyHandshakeChange reply fuel s = some (s', x)) : x = .ok () ∧ AllCalled s s' := by
  have hstart : Passed Handlers.registered (fun h t => ∃ calls, Calls s t calls ∧ h ∈ calls) 0 s :=
    fun k h hk _ => absurd hk (Nat.not_lt_zero k)
  obtain ⟨hreturns, ⟨calls, hcalls⟩, hall⟩ := forOf_visits (tryHandler_visits reply s) fuel 0 s s' x
    ⟨[], (List.append_nil _).symm⟩ hstart hrun
  refine ⟨hreturns, calls, hcalls, fun h hregistered => ?_⟩
  obtain ⟨calls', hcalls', hmem⟩ := hall h hregistered
  rw [List.append_cancel_left (hcalls.symm.trans hcalls')]
  exact hmem

/-- How many slots there can be, if no handler subscribes others from the `N`-th
call on. -/
def slotRoom (reply : ℕ → HandlerReply H) (N : ℕ) (s : Handlers H) : ℕ :=
  s.registered.length + ∑ n ∈ Finset.Ico s.called.length N, (reply n).changes.length

theorem changes_length_le (changes : List (HandlerChange H)) :
    ∀ s : Handlers H, (changes.foldl HandlerChange.apply s).registered.length ≤
      s.registered.length + changes.length := by
  induction changes with
  | nil => exact fun s => Nat.le_refl _
  | cons c changes ih =>
      intro s
      have hrest := ih (c.apply s)
      have hfirst : (c.apply s).registered.length ≤ s.registered.length + 1 := by
        cases c with
        | subscribe h => exact length_add_le h s.registered
        | unsubscribe h => exact (length_delete h s.registered).trans_le (Nat.le_succ _)
      rw [List.foldl_cons, List.length_cons]
      omega

theorem changes_length_eq (changes : List (HandlerChange H)) :
    (∀ h, HandlerChange.subscribe h ∉ changes) → ∀ s : Handlers H,
      (changes.foldl HandlerChange.apply s).registered.length = s.registered.length := by
  induction changes with
  | nil => exact fun _ s => rfl
  | cons c changes ih =>
      intro hnone s
      have hrest := ih (fun h hmem => hnone h (List.mem_cons_of_mem c hmem)) (c.apply s)
      rw [List.foldl_cons, hrest]
      cases c with
      | subscribe h => exact absurd List.mem_cons_self (hnone h)
      | unsubscribe h => exact length_delete h s.registered

theorem slotRoom_le {N : ℕ} (hN : ∀ n, N ≤ n → ∀ h, HandlerChange.subscribe h ∉ (reply n).changes)
    (h : H) (s : Handlers H) : slotRoom reply N (callHandler reply h s).1 ≤ slotRoom reply N s := by
  have hcalled : (callHandler reply h s).1.called.length = s.called.length + 1 := by
    rw [callHandler_called, List.length_append]
    rfl
  unfold slotRoom
  rw [hcalled]
  rcases Nat.lt_or_ge s.called.length N with hlt | hge
  · have hlength : (callHandler reply h s).1.registered.length ≤
        s.registered.length + (reply s.called.length).changes.length :=
      changes_length_le _ { s with called := s.called ++ [h] }
    rw [Finset.sum_eq_sum_Ico_succ_bot hlt]
    omega
  · have hlength : (callHandler reply h s).1.registered.length = s.registered.length :=
      changes_length_eq _ (hN _ hge) { s with called := s.called ++ [h] }
    rw [hlength, Finset.Ico_eq_empty_of_le hge, Finset.Ico_eq_empty_of_le (hge.trans (Nat.le_succ _))]

/-- **A notification returns**, if the handlers do not subscribe others for ever. -/
theorem notifyHandshakeChange_returns (hsettles : StopSubscribing reply) (s : Handlers H) :
    ∃ fuel s', notifyHandshakeChange reply fuel s = some (s', .ok ()) := by
  obtain ⟨N, hN⟩ := hsettles
  have hroom : ∀ s : Handlers H, s.registered.length ≤ slotRoom reply N s :=
    fun s => Nat.le_add_right _ _
  have hbody : ∀ (h : H) (s : Handlers H),
      slotRoom reply N (tryHandler reply h s).1 ≤ slotRoom reply N s := by
    intro h s
    rw [tryHandler_eq]
    exact slotRoom_le hN h s
  have hends : (notifyHandshakeChange reply (slotRoom reply N s + 1) s).isSome :=
    forOf_ends hroom hbody _ 0 s (Nat.succ_pos _) (by omega)
  obtain ⟨⟨s', x⟩, hrun⟩ := Option.isSome_iff_exists.mp hends
  have hreturns := (notifyHandshakeChange_calls hrun).1
  rw [hreturns] at hrun
  exact ⟨_, s', hrun⟩

theorem notifications_return (hsettles : StopSubscribing reply) (k : ℕ) :
    ∀ s : Handlers H, ∃ s', Notifications reply k s s' := by
  induction k with
  | zero => exact fun s => ⟨s, rfl⟩
  | succ k ih =>
      intro s
      obtain ⟨fuel, s₁, hrun⟩ := notifyHandshakeChange_returns hsettles s
      obtain ⟨s', hrest⟩ := ih s₁
      exact ⟨s', fuel, s₁, hrun, hrest⟩

theorem notifications_call (k : ℕ) :
    ∀ s s' : Handlers H, Notifications reply (k + 1) s s' → AllCalled s s' := by
  induction k with
  | zero =>
      intro s s' h
      obtain ⟨fuel, s₁, hrun, hsame⟩ := h
      rw [show s' = s₁ from hsame]
      exact (notifyHandshakeChange_calls hrun).2
  | succ k ih =>
      intro s s' h
      obtain ⟨fuel, s₁, hrun, hrest⟩ := h
      obtain ⟨first, hfirst, -⟩ := (notifyHandshakeChange_calls hrun).2
      obtain ⟨calls, hcalls, hall⟩ := ih s₁ s' hrest
      refine ⟨first ++ calls, ?_, fun h hmem => List.mem_append_right _ (hall h hmem)⟩
      unfold Calls at hfirst hcalls ⊢
      rw [hcalls, hfirst, List.append_assoc]

end Handlers

/-- So many notifications call every handler, and they return. -/
def EveryHandlerCalled (k : ℕ) : Prop :=
  ∀ (H : Type) [DecidableEq H] (reply : ℕ → HandlerReply H) (s : Handlers H),
    (StopSubscribing reply → ∃ s', Notifications reply k s s') ∧
      ∀ s', Notifications reply k s s' → AllCalled s s'

/-- So many notifications call no handler. -/
def NoHandlerCalled (k : ℕ) : Prop :=
  ∀ (H : Type) [DecidableEq H] (reply : ℕ → HandlerReply H) (s s' : Handlers H),
    Notifications reply k s s' → s'.called = s.called

theorem everyHandlerCalled_of_pos {k : ℕ} (hk : 0 < k) : EveryHandlerCalled k := by
  obtain ⟨k, rfl⟩ := Nat.exists_eq_succ_of_ne_zero hk.ne'
  intro H _ reply s
  exact ⟨fun hstops => notifications_return hstops (k + 1) s, notifications_call k s⟩

theorem noHandlerCalled_zero : NoHandlerCalled 0 :=
  fun _ _ _ _ _ hnone => congrArg Handlers.called hnone

theorem not_everyHandlerCalled_zero : ¬ EveryHandlerCalled 0 := by
  intro hevery
  obtain ⟨calls, hcalls, hall⟩ := (hevery Unit (fun _ => ⟨[], .ok ()⟩) ⟨[some ()], []⟩).2 _ rfl
  have hmem : () ∈ calls := hall () List.mem_cons_self
  rw [← List.nil_append calls, ← hcalls] at hmem
  exact List.not_mem_nil hmem

/-! ## The branches -/

namespace Branch

/-- The branch sets the SAS of the object. -/
def SetsSas (ref : ℕ) (b : Branch) : Prop :=
  ∃ deviceId session sas, b = .handshake ref deviceId (.established session sas)

/-- The branch changes the verdict of the object or sets its SAS. -/
def Changes (ref : ℕ) (m : Mesh) (b : Branch) : Prop :=
  ((b.act m).object ref).verdict ≠ (m.object ref).verdict ∨ b.SetsSas ref

/-- The notifications of the branch call every handler if it changes an object,
and none if it does not. -/
def Announces (m : Mesh) (b : Branch) : Prop :=
  ((∃ ref, b.Changes ref m) → EveryHandlerCalled ((b.act m).notified - m.notified)) ∧
    ((∀ ref, ¬ b.Changes ref m) → NoHandlerCalled ((b.act m).notified - m.notified))

/-- A branch of `advanceHandshake` that rejects a pending object. -/
def Silent (m : Mesh) : Branch → Prop
  | .handshake ref deviceId b => (m.object ref).verdict = .pending ∧ b.Rejects (m.view ref deviceId)
  | _ => False

end Branch

section Branches

variable {n ref : ℕ} {e : Event} {m m' : Mesh} {b : Branch}

/-! ### What a branch does to the verdicts and the SAS -/

/-- What the branches do: nothing that is announced, a verdict or a SAS with a
notification, or a verdict without one. -/
inductive Branch.Effect (m : Mesh) (b : Branch) : Prop where
  | none : (∀ ref, ((b.act m).object ref).verdict = (m.object ref).verdict) →
      (∀ ref, ¬ b.SetsSas ref) → (b.act m).notified = m.notified → ¬ b.Silent m → Effect m b
  | told (ref : ℕ) : b.Changes ref m → (b.act m).notified = m.notified + 1 → ¬ b.Silent m →
      Effect m b
  | silent (ref : ℕ) : b.Changes ref m → (b.act m).notified = m.notified → b.Silent m → Effect m b

theorem Branch.Effect.announces_iff (h : b.Effect m) : b.Announces m ↔ ¬ b.Silent m := by
  cases h with
  | none hverdict hsas hnotified hloud =>
      have hchanges : ∀ ref, ¬ b.Changes ref m := fun ref hc =>
        hc.elim (fun hne => hne (hverdict ref)) (hsas ref)
      refine iff_of_true ⟨fun ⟨ref, hc⟩ => absurd hc (hchanges ref), fun _ => ?_⟩ hloud
      rw [hnotified, Nat.sub_self]
      exact noHandlerCalled_zero
  | told ref hchanges hnotified hloud =>
      refine iff_of_true ⟨fun _ => ?_, fun hnone => absurd hchanges (hnone ref)⟩ hloud
      rw [hnotified, Nat.add_sub_cancel_left]
      exact everyHandlerCalled_of_pos Nat.one_pos
  | silent ref hchanges hnotified hsilent =>
      refine iff_of_false (fun hannounces => ?_) (not_not_intro hsilent)
      have hevery := hannounces.1 ⟨ref, hchanges⟩
      rw [hnotified, Nat.sub_self] at hevery
      exact not_everyHandlerCalled_zero hevery

/-- A branch that changes no object. -/
theorem effect_of_objects (hobjects : (b.act m).objects = m.objects)
    (hsas : ∀ ref, ¬ b.SetsSas ref) (hnotified : (b.act m).notified = m.notified)
    (hloud : ¬ b.Silent m) : b.Effect m :=
  .none (fun ref => by rw [object_of_objects hobjects]) hsas hnotified hloud

/-- A branch that leaves the verdict of its object. -/
theorem verdict_of_set {c : CryptoState} (hlt : ref < m.objects.length)
    (hobjects : m'.objects = m.objects.set ref c) (hverdict : c.verdict = (m.object ref).verdict)
    (i : ℕ) : (m'.object i).verdict = (m.object i).verdict := by
  by_cases hi : ref = i
  · subst hi
    rw [object_of_set_self hobjects hlt, hverdict]
  · rw [object_of_set_ne hobjects hi]

/-- A branch that decides its object. -/
theorem changes_of_set {c : CryptoState} (hlt : ref < m.objects.length)
    (hobjects : (b.act m).objects = m.objects.set ref c)
    (hpending : (m.object ref).verdict = .pending) (hdecided : c.verdict ≠ .pending) :
    b.Changes ref m := by
  refine Or.inl ?_
  rw [object_of_set_self hobjects hlt, hpending]
  exact hdecided

theorem acceptPeer_effect (p : PeerIdHex)
    (hlt : ∀ ref, m.findPeer p = some ref → ref < m.objects.length) :
    (Branch.acceptPeer p).Effect m := by
  rcases acceptPeer_cases p m with hsame | ⟨ref, hfind, hpending, hset, hnotified⟩
  · have hact : (Branch.acceptPeer p).act m = m := hsame
    refine effect_of_objects (by rw [hact]) ?_ (by rw [hact]) id
    rintro ref ⟨_, _, _, ⟨⟩⟩
  · refine .told ref (changes_of_set (hlt ref hfind) hset hpending ?_) hnotified id
    rintro ⟨⟩

theorem rejectPeer_effect (p : PeerIdHex)
    (hlt : ∀ ref, m.findPeer p = some ref → ref < m.objects.length) :
    (Branch.rejectPeer p).Effect m := by
  rcases rejectPeer_cases p m with hsame | ⟨ref, hfind, hpending, hset, hnotified⟩
  · have hact : (Branch.rejectPeer p).act m = m := hsame
    refine effect_of_objects (by rw [hact]) ?_ (by rw [hact]) id
    rintro ref ⟨_, _, _, ⟨⟩⟩
  · refine .told ref (changes_of_set (hlt ref hfind) hset hpending ?_) hnotified id
    rintro ⟨⟩

theorem timeout_effect (entry : DeviceId × ℕ) (hlt : entry.2 < m.objects.length) :
    (Branch.timeout entry).Effect m := by
  have hsas : ∀ ref, ¬ (Branch.timeout entry).SetsSas ref := by
    rintro ref ⟨_, _, _, ⟨⟩⟩
  have hact : (Branch.timeout entry).act m = m.checkTimeout entry := rfl
  unfold Mesh.checkTimeout at hact
  dsimp only at hact
  split_ifs at hact with hdecided _ _ _
  · exact effect_of_objects (by rw [hact]) hsas (by rw [hact]) id
  · exact effect_of_objects (by rw [hact]) hsas (by rw [hact]) id
  · exact effect_of_objects (by rw [hact]) hsas (by rw [hact]) id
  · have hpending := not_not.mp hdecided
    rw [transitionVerdict_pending _ hpending] at hact
    refine .told entry.2 (changes_of_set hlt (congrArg Mesh.objects hact) hpending ?_)
      (congrArg Mesh.notified hact) id
    rintro ⟨⟩
  · exact effect_of_objects (by rw [hact]) hsas (by rw [hact]) id

theorem failHandshake_effect (cs : Option ℕ) (hlt : ∀ ref, cs = some ref → ref < m.objects.length) :
    (Branch.failHandshake cs).Effect m := by
  have hsas : ∀ ref, ¬ (Branch.failHandshake cs).SetsSas ref := by
    rintro ref ⟨_, _, _, ⟨⟩⟩
  cases cs with
  | none => exact effect_of_objects rfl hsas rfl id
  | some ref =>
      have hact : (Branch.failHandshake (some ref)).act m = m.failHandshake (some ref) := rfl
      unfold Mesh.failHandshake at hact
      dsimp only at hact
      by_cases hpending : (m.object ref).verdict = .pending
      · simp only [transitionVerdict_pending _ hpending, if_true] at hact
        refine .told ref (changes_of_set (hlt ref rfl) (congrArg Mesh.objects hact) hpending ?_)
          (congrArg Mesh.notified hact) id
        rintro ⟨⟩
      · simp only [transitionVerdict_decided _ hpending, Bool.false_eq_true, if_false] at hact
        exact .none (verdict_of_set (hlt ref rfl) (congrArg Mesh.objects hact) rfl) hsas
          (by rw [hact]; rfl) id

theorem handshake_effect (deviceId : DeviceId) (b : HandshakeBranch)
    (hlt : ref < m.objects.length) : (Branch.handshake ref deviceId b).Effect m := by
  have hview : (m.view ref deviceId).cs = m.object ref := rfl
  have hobjects : ((Branch.handshake ref deviceId b).act m).objects =
    m.objects.set ref (b.act (m.view ref deviceId)).cs := rfl
  have hnotified : ((Branch.handshake ref deviceId b).act m).notified =
    (b.act (m.view ref deviceId)).notified := rfl
  by_cases hrejects : b.Rejects (m.view ref deviceId)
  · obtain ⟨hverdict, -, hsame⟩ := act_rejects hrejects
    have hsas : ∀ i, ¬ (Branch.handshake ref deviceId b).SetsSas i := by
      rintro i ⟨_, _, _, h⟩
      cases h
      exact hrejects
    by_cases hpending : (m.object ref).verdict = .pending
    · refine .silent ref (changes_of_set hlt hobjects hpending ?_) (hnotified.trans hsame)
        ⟨hpending, hrejects⟩
      rw [hverdict, hview, transitionVerdict_pending _ hpending]
      rintro ⟨⟩
    · rw [hview, transitionVerdict_decided _ hpending] at hverdict
      exact .none (verdict_of_set hlt hobjects hverdict) hsas (hnotified.trans hsame)
        fun h => hpending h.1
  · cases b with
    | readFailed err =>
        have hunseen := readFailed_unseen hrejects
        refine .none (verdict_of_set hlt hobjects hunseen.face.verdict) ?_
          (hnotified.trans hunseen.notified) fun h => hrejects h.2
        rintro i ⟨_, _, _, ⟨⟩⟩
    | answerFailed => exact absurd trivial hrejects
    | splitFailed => exact absurd trivial hrejects
    | established session sas =>
        obtain ⟨-, -, htold⟩ := act_established session sas (m.view ref deviceId)
        exact .told ref (Or.inr ⟨deviceId, session, sas, rfl⟩) (hnotified.trans htold)
          fun h => hrejects h.2

theorem Branch.effect (hfits : b.Fits n e m) : b.Effect m := by
  cases b with
  | acceptPeer p => exact acceptPeer_effect p hfits.2
  | rejectPeer p => exact rejectPeer_effect p hfits.2
  | timeout entry => exact timeout_effect entry hfits.2.2
  | handshake ref deviceId b => exact handshake_effect deviceId b hfits.2
  | failHandshake cs => exact failHandshake_effect cs hfits.2
  | decryptFailed err | startFailed kind | started | stopped =>
      refine effect_of_objects rfl ?_ rfl id
      rintro ref ⟨_, _, _, ⟨⟩⟩

/-! ### What is left as it was -/

/-- What a blank object has, and a relation keeps, is the same for every object. -/
theorem Lifts.same {β : Type} {Rel : CryptoState → CryptoState → Prop} {f : CryptoState → β}
    (h : Lifts Rel m m') (x : β) (hblank : ∀ c, Blank c → f c = x)
    (hrel : ∀ c c', Rel c c' → f c' = f c) (ref : ℕ) : f (m'.object ref) = f (m.object ref) := by
  rcases Nat.lt_or_ge ref m.objects.length with hold | hnew
  · exact hrel _ _ (h.old ref hold)
  · rw [hblank _ (blank_beyond hnew)]
    rcases Nat.lt_or_ge ref m'.objects.length with hlt | hge
    · obtain ⟨c, hc, hkeeps⟩ := h.new ref hnew hlt
      rw [hrel _ _ hkeeps, hblank c hc]
    · exact hblank _ (blank_beyond hge)

theorem Branch.lifts (hsas : ∀ ref, ¬ b.SetsSas ref) : ∃ A, Lifts (Keeps A) m (b.act m) := by
  cases b with
  | acceptPeer p => exact ⟨_, acceptPeer_lifts p m⟩
  | rejectPeer p => exact ⟨Nobody, rejectPeer_lifts p m⟩
  | timeout entry => exact ⟨Nobody, checkTimeout_lifts m entry⟩
  | handshake ref deviceId b =>
      refine ⟨Nobody, .of_set .refl rfl (act_keeps (v := m.view ref deviceId) ?_)⟩
      rintro session sas rfl
      exact hsas ref ⟨deviceId, session, sas, rfl⟩
  | failHandshake cs =>
      rcases transitionVerdict_rejected_cases cs m with hsame | ⟨ref, c, hkeeps, hset⟩
      · exact ⟨Nobody, .of_objects .refl hsame⟩
      · exact ⟨Nobody, .of_set .refl hset hkeeps⟩
  | decryptFailed err | startFailed kind | started | stopped =>
      exact ⟨Nobody, .of_objects .refl rfl⟩

/-- No verdict and no SAS is another one. -/
def SameFaces (m m' : Mesh) : Prop := ∀ ref, SameFace (m.object ref) (m'.object ref)

theorem Branch.sameFaces (h : ∀ ref, ¬ b.Changes ref m) : SameFaces m (b.act m) := by
  obtain ⟨A, hlifts⟩ := Branch.lifts (m := m) fun ref hsets => h ref (Or.inr hsets)
  intro ref
  refine ⟨not_not.mp fun hne => h ref (Or.inl hne), ?_⟩
  exact hlifts.same none (fun _ hc => hc.sas) (fun _ _ hkeeps => hkeeps.keys.sas) ref

theorem Mesh.Quiet.sameFaces (h : m.Quiet m') : SameFaces m m' := fun ref =>
  ⟨h.faces.same .pending (fun _ hc => hc.verdict) (fun _ _ hface => hface.verdict) ref,
    h.faces.same none (fun _ hc => hc.sas) (fun _ _ hface => hface.sas) ref⟩

end Branches

/-! ## Steps -/

section Steps

variable {fits : Mesh → Branch → Prop} {l : List (Mesh × Branch)} {m m' : Mesh}

/-- The notifications of a step with these branches. -/
def StepAnnounces (l : List (Mesh × Branch)) (m m' : Mesh) : Prop :=
  ((∃ x ∈ l, ∃ ref, x.2.Changes ref x.1) → EveryHandlerCalled (m'.notified - m.notified)) ∧
    ((∀ x ∈ l, ∀ ref, ¬ x.2.Changes ref x.1) → NoHandlerCalled (m'.notified - m.notified))

theorem notified_mono (h : seen.Trace fits l m m')
    (heffect : ∀ m b, fits m b → b.Effect m) : m.notified ≤ m'.notified := by
  refine h.related (R := fun a b => a.notified ≤ b.notified) (fun _ _ _ => Nat.le_trans)
    (fun a b hq => hq.notified.ge) fun x _ hfits => ?_
  cases heffect _ _ hfits with
  | none _ _ hnotified _ => exact hnotified.ge
  | told ref _ hnotified _ => exact (Nat.le_succ _).trans hnotified.ge
  | silent ref _ hnotified _ => exact hnotified.ge

theorem Trace.sameFaces (h : seen.Trace fits l m m')
    (hnone : ∀ x ∈ l, ∀ ref, ¬ x.2.Changes ref x.1) : SameFaces m m' := by
  refine h.related (R := SameFaces) (fun a b c hab hbc ref => (hab ref).trans (hbc ref))
    (fun a b hq => Mesh.Quiet.sameFaces hq) fun x hx _ => Branch.sameFaces (hnone x hx)

/-- A step with no silent branch announces what it changes. -/
theorem Trace.announces (h : seen.Trace fits l m m') (heffect : ∀ m b, fits m b → b.Effect m)
    (hloud : ∀ x ∈ l, ¬ x.2.Silent x.1) : StepAnnounces l m m' := by
  constructor
  · rintro ⟨x, hx, ref, hchanges⟩
    obtain ⟨hfits, front, back, -, -, hfront, hback⟩ := h.split hx
    have hbefore := notified_mono hfront heffect
    have hafter := notified_mono hback heffect
    apply everyHandlerCalled_of_pos
    cases heffect _ _ hfits with
    | none hverdict hsas _ _ =>
        exact absurd hchanges fun hc => hc.elim (fun hne => hne (hverdict ref)) (hsas ref)
    | told ref' _ hnotified _ =>
        have hact : (seen.act x.2 x.1).notified = x.1.notified + 1 := hnotified
        omega
    | silent ref' _ _ hsilent => exact absurd hsilent (hloud x hx)
  · intro hnone
    have hsame : m'.notified = m.notified := by
      refine h.related (R := fun a b => b.notified = a.notified)
        (fun a b c (hab : b.notified = a.notified) (hbc : c.notified = b.notified) =>
          hbc.trans hab) (fun a b hq => hq.notified) fun x hx hfits => ?_
      cases heffect _ _ hfits with
      | none _ _ hnotified _ => exact hnotified
      | told ref hchanges _ _ => exact absurd hchanges (hnone x hx ref)
      | silent ref hchanges _ _ => exact absurd hchanges (hnone x hx ref)
    rw [hsame, Nat.sub_self]
    exact noHandlerCalled_zero

end Steps

/-- **Changes are announced** exactly by the branches that are not silent; so a
step without silent branches announces what it changes. -/
theorem change_announced_iff (P : Primitives) (tofu : TofuStore) (now : ℕ)
    (ms : List (Move Event Unit)) (mv : Move Event Unit) :
    let p := meshRun P (.initial tofu now) ms
    let p' := meshRun P (.initial tofu now) (ms ++ [mv])
    (∃ l, seen.Trace (StepFits p mv) l p.shared p'.shared) ∧
      ∀ l, seen.Trace (StepFits p mv) l p.shared p'.shared →
        (∀ x ∈ l, x.2.Announces x.1 ↔ ¬ x.2.Silent x.1) ∧
        ((∀ x ∈ l, ∀ ref, ¬ x.2.Changes ref x.1) → SameFaces p.shared p'.shared) ∧
        ((∀ x ∈ l, ¬ x.2.Silent x.1) → StepAnnounces l p.shared p'.shared) := by
  intro p p'
  have heffect : ∀ m b, StepFits p mv m b → b.Effect m := by
    rintro m b ⟨n, e, -, hfits⟩
    exact Branch.effect hfits
  refine ⟨meshRun_trace (pristine_initial tofu now) ms mv, fun l hl => ⟨fun x hx => ?_, ?_, ?_⟩⟩
  · exact (heffect _ _ (hl.split hx).1).announces_iff
  · exact Trace.sameFaces hl
  · exact Trace.announces hl heffect

/-! ### A rejection with and without a notification -/

/-- Peer 2 is sighted and its handshake begins. -/
def beginsHandshake : List (Move Event Unit) :=
  alone 0 (.startMesh sampleStart) 12 ++ alone 1 (sightingOf 2 "A") 40

/-- Its msg-2 arrives, and the first write of the answer is under way: it is to
fail. -/
def answers : List (Move Event Unit) :=
  let chunks := chunksOf sampleMsg2 FrameType.HandshakeMsg2
  beginsHandshake ++ arrives "A" 40 2 chunks.dropLast ++
    alone 7 (.chunk "A" (chunks.getLastD []) sampleIdentity
      { sampleReplies with writeRx := fun _ => .error .library }) 21

theorem rejectPeer_shared (P : Primitives) (m : Mesh) (ms : List (Move Event Unit))
    (p : PeerIdHex) : (meshRun P m (ms ++ [.start (.rejectPeer p)])).shared =
      ((meshRun P m ms).shared.number.rejectPeer p).land (meshRun P m ms).shared.calls := by
  rw [meshRun_concat]
  rfl

/-- A step of `rejectPeer` is its one branch. -/
theorem rejectPeer_trace {P : Primitives} {m : Mesh} (hm : Pristine m)
    (ms : List (Move Event Unit)) (p : PeerIdHex) :
    seen.Trace (StepFits (meshRun P m ms) (.start (.rejectPeer p)))
      [((meshRun P m ms).shared.number, .rejectPeer p)] (meshRun P m ms).shared
      (meshRun P m (ms ++ [.start (.rejectPeer p)])).shared := by
  have hlive := meshRun_live (P := P) hm ms
  rw [rejectPeer_shared]
  exact .act _ _ _ _ [] (quiet_of_objects rfl rfl rfl)
    ⟨_, _, ⟨rfl, rfl⟩, rfl, fun ref href => hlive.findPeer href⟩
    (.quiet _ _ (quiet_of_objects rfl rfl rfl))

/-- The user's rejection, on the other hand, is announced. -/
theorem rejectPeer_announced :
    EveryHandlerCalled
      ((meshRun .sample (.initial .empty 0)
          (beginsHandshake ++ [.start (.rejectPeer "0202020202020202")])).shared.notified -
        (meshRun .sample (.initial .empty 0) beginsHandshake).shared.notified) := by
  have hchanges : (Branch.rejectPeer "0202020202020202").Changes 0
      (meshRun .sample (.initial .empty 0) beginsHandshake).shared.number :=
    Or.inl (by decide +kernel)
  obtain ⟨-, -, hannounces⟩ := (change_announced_iff .sample .empty 0 beginsHandshake
    (.start (.rejectPeer "0202020202020202"))).2 _
      (rejectPeer_trace (pristine_initial .empty 0) beginsHandshake "0202020202020202")
  refine (hannounces fun x hx => ?_).1 ⟨_, List.mem_cons_self, 0, hchanges⟩
  rw [List.mem_singleton.mp hx]
  exact id

/-- The write of msg-3 fails: the peer is rejected in this step, and no handler
is called. -/
theorem failed_answer_is_silent :
    let p := meshRun .sample (.initial .empty 0) answers
    let p' := meshRun .sample (.initial .empty 0) (answers ++ [.resume 7 ()])
    (p.shared.object 0).verdict = .pending ∧ (p'.shared.object 0).verdict = .rejected ∧
      NoHandlerCalled (p'.shared.notified - p.shared.notified) ∧
      ¬ EveryHandlerCalled (p'.shared.notified - p.shared.notified) := by
  intro p p'
  have hnotified : p'.shared.notified - p.shared.notified = 0 := by decide +kernel
  refine ⟨by decide +kernel, by decide +kernel, ?_, ?_⟩
  · rw [hnotified]
    exact noHandlerCalled_zero
  · rw [hnotified]
    exact not_everyHandlerCalled_zero

end Oxpulse.Transport
