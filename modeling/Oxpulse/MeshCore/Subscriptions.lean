import Oxpulse.MeshCore.OnIncoming

/-!
# Several subscriptions

The cache of `router.ts` belongs to the module, so that all subscriptions share
it, and the transport hands each frame to one callback after another. The
handlers together are called once for each key (`Sound.nodup`): the first
subscription that is live when the key comes in gets the frame, and the others
never do. Each of them gets every new frame only if there is one of them
(`each_gets_new_frames_iff`).
-/

namespace Oxpulse.MeshCore

open Oxpulse.Crypto

inductive RouterEvent : Type where
  /-- `onIncoming({ handler })`, with a number of its own. -/
  | subscribe
  /-- The function that `onIncoming` returned. -/
  | unsubscribe (id : ℕ)
  /-- The transport received a frame. -/
  | frame (peerIdHex : JsString) (frame : Bytes)

/-- The subscriptions in the order of the set `frameHandlers`, how many there
were, the cache, and what the handlers were called with. -/
structure Router : Type where
  frameHandlers : List ℕ
  subscribed : ℕ
  dedupe : DedupeCache
  calls : List (ℕ × Bytes)

namespace Router

def new : Router where
  frameHandlers := []
  subscribed := 0
  dedupe := DedupeCache.new DedupeCache.defaultCapacity
  calls := []

/-- The callback of a subscription. -/
def callback (frame : Bytes) (r : Router) (id : ℕ) : Router :=
  let (dedupe, _, accepted) := onIncoming frame r.dedupe none
  { r with dedupe, calls := if accepted then r.calls ++ [(id, frame)] else r.calls }

def step (r : Router) : RouterEvent → Router
  | .subscribe =>
      { r with
        frameHandlers := r.frameHandlers ++ [r.subscribed]
        subscribed := r.subscribed + 1 }
  | .unsubscribe id => { r with frameHandlers := r.frameHandlers.filter (· ≠ id) }
  | .frame _ frame => r.frameHandlers.foldl (callback frame) r

def run (events : List RouterEvent) : Router := events.foldl step new

theorem run_append_singleton (events : List RouterEvent) (e : RouterEvent) :
    run (events ++ [e]) = (run events).step e :=
  List.foldl_append ..

/-- How often the handler of a subscription was called with a frame of this key. -/
def callsWith (r : Router) (id : ℕ) (key : Bytes × Bytes) : ℕ :=
  r.calls.countP fun call => call.1 = id ∧ frameKey call.2 = key

end Router

/-- The frames that came in. -/
def framesOf (events : List RouterEvent) : List Bytes :=
  events.filterMap fun
    | .frame _ frame => some frame
    | _ => none

theorem framesOf_append (events events' : List RouterEvent) :
    framesOf (events ++ events') = framesOf events ++ framesOf events' :=
  List.filterMap_append ..

theorem framesOf_frame (peerIdHex : JsString) (frame : Bytes) (events : List RouterEvent) :
    framesOf (.frame peerIdHex frame :: events) = frame :: framesOf events :=
  rfl

namespace Router

/-- The frames that some handler was called with. -/
def past (r : Router) : List Bytes := r.calls.map Prod.snd

/-- A key was delivered to some handler. -/
def Knows (r : Router) (key : Bytes × Bytes) : Prop := key ∈ r.past.map frameKey

section Step

variable {all : List Bytes} {r : Router} {frame : Bytes}

theorem callback_known (h : Remembers all r.past r.dedupe) (hframe : frame ∈ all)
    (hknown : r.Knows (frameKey frame)) (id : ℕ) : r.callback frame id = r := by
  unfold callback onIncoming
  rw [if_neg (by simp), if_pos ((h.hasSeen_iff hframe).mpr hknown)]
  rfl

theorem callback_new (h : Remembers all r.past r.dedupe) (hframe : frame ∈ all)
    (hnew : ¬ r.Knows (frameKey frame)) (id : ℕ) :
    r.callback frame id =
      { r with
        dedupe := r.dedupe.markSeen (channelIdHex frame) (msgIdHex frame)
        calls := r.calls ++ [(id, frame)] } := by
  unfold callback onIncoming
  rw [if_neg (by simp), if_neg (mt (h.hasSeen_iff hframe).mp hnew)]
  rfl

theorem dispatch_known (h : Remembers all r.past r.dedupe) (hframe : frame ∈ all)
    (hknown : r.Knows (frameKey frame)) (ids : List ℕ) : ids.foldl (callback frame) r = r := by
  induction ids with
  | nil => rfl
  | cons id ids ih => rw [List.foldl_cons, callback_known h hframe hknown, ih]

/-- The state after the first callback of a new frame. -/
def deliver (r : Router) (id : ℕ) (frame : Bytes) : Router :=
  { r with
    dedupe := r.dedupe.markSeen (channelIdHex frame) (msgIdHex frame)
    calls := r.calls ++ [(id, frame)] }

theorem past_deliver (id : ℕ) : (r.deliver id frame).past = r.past ++ [frame] := by
  unfold past deliver
  rw [List.map_append]
  rfl

theorem knows_deliver (id : ℕ) : (r.deliver id frame).Knows (frameKey frame) := by
  unfold Knows
  rw [past_deliver, List.map_append]
  exact List.mem_append_right _ (List.mem_singleton_self _)

theorem remembers_deliver (h : Remembers all r.past r.dedupe) (hframe : frame ∈ all)
    (hnew : ¬ r.Knows (frameKey frame)) (id : ℕ) :
    Remembers all (r.deliver id frame).past (r.deliver id frame).dedupe := by
  rw [past_deliver]
  exact h.markSeen hframe hnew

/-- **A frame is delivered to the first subscription**, if its key is new. -/
theorem step_frame (h : Remembers all r.past r.dedupe) (hframe : frame ∈ all)
    (peerIdHex : JsString) :
    (r.Knows (frameKey frame) ∧ r.step (.frame peerIdHex frame) = r) ∨
      (r.frameHandlers = [] ∧ r.step (.frame peerIdHex frame) = r) ∨
      ∃ id ids, r.frameHandlers = id :: ids ∧ ¬ r.Knows (frameKey frame) ∧
        r.step (.frame peerIdHex frame) = r.deliver id frame := by
  by_cases hknown : r.Knows (frameKey frame)
  · exact Or.inl ⟨hknown, dispatch_known h hframe hknown _⟩
  cases hids : r.frameHandlers with
  | nil =>
      refine Or.inr (Or.inl ⟨rfl, ?_⟩)
      show r.frameHandlers.foldl (callback frame) r = r
      rw [hids]
      rfl
  | cons id ids =>
      refine Or.inr (Or.inr ⟨id, ids, rfl, hknown, ?_⟩)
      show r.frameHandlers.foldl (callback frame) r = _
      rw [hids, List.foldl_cons, callback_new h hframe hknown]
      exact dispatch_known (remembers_deliver h hframe hknown id) hframe (knows_deliver id) ids

end Step

/-! ## Runs -/

/-- The cache holds what was delivered, and the subscriptions have numbers of
their own. -/
structure Sound (all : List Bytes) (r : Router) : Prop where
  remembers : Remembers all r.past r.dedupe
  distinct : r.frameHandlers.Nodup
  numbered : ∀ id ∈ r.frameHandlers, id < r.subscribed

variable {all : List Bytes} {r : Router} {events : List RouterEvent}

/-- The handlers together are called once for each key. -/
theorem Sound.nodup (h : Sound all r) : (r.past.map frameKey).Nodup := h.remembers.nodup

theorem Sound.step (h : Sound all r) {e : RouterEvent} (he : ∀ frame ∈ framesOf [e], frame ∈ all) :
    Sound all (r.step e) := by
  cases e with
  | subscribe =>
      refine ⟨h.remembers, ?_, fun id hid => ?_⟩
      · refine List.nodup_append.mpr ⟨h.distinct, List.nodup_singleton _, fun id hid id' hid' => ?_⟩
        rw [List.mem_singleton.mp hid']
        exact Nat.ne_of_lt (h.numbered id hid)
      · rcases List.mem_append.mp hid with hid | hid
        · exact Nat.lt_succ_of_lt (h.numbered id hid)
        · rw [List.mem_singleton.mp hid]
          exact Nat.lt_succ_self _
  | unsubscribe id =>
      exact ⟨h.remembers, h.distinct.filter _, fun id' hid' =>
        h.numbered id' (List.mem_of_mem_filter hid')⟩
  | frame peerIdHex frame =>
      have hframe := he frame (List.mem_singleton_self _)
      rcases step_frame h.remembers hframe peerIdHex with ⟨-, heq⟩ | ⟨-, heq⟩ | ⟨id, ids, -, hnew, heq⟩
      · rw [heq]
        exact h
      · rw [heq]
        exact h
      · rw [heq]
        exact ⟨remembers_deliver h.remembers hframe hnew id, h.distinct, h.numbered⟩

theorem sound_run (hlong : ∀ frame ∈ all, 59 ≤ frame.length)
    (hfew : (all.map frameKey).toFinset.card < DedupeCache.defaultCapacity)
    (hall : ∀ frame ∈ framesOf events, frame ∈ all) : Sound all (run events) := by
  induction events using List.reverseRecOn with
  | nil =>
      exact ⟨⟨rfl, fun _ hmem => absurd hmem List.not_mem_nil, hlong, hfew.le⟩, List.nodup_nil,
        fun _ hmem => absurd hmem List.not_mem_nil⟩
  | append_singleton events e ih =>
      rw [framesOf_append] at hall
      rw [run_append_singleton]
      exact (ih fun frame hmem => hall frame (List.mem_append_left _ hmem)).step
        fun frame hmem => hall frame (List.mem_append_right _ hmem)

/-! ### Who is subscribed -/

/-- A frame changes no subscription, and adds only calls with itself. -/
theorem foldl_callback (frame : Bytes) (ids : List ℕ) (r : Router) :
    (ids.foldl (callback frame) r).frameHandlers = r.frameHandlers ∧
      (ids.foldl (callback frame) r).subscribed = r.subscribed ∧
      ∃ called : List ℕ, (ids.foldl (callback frame) r).calls =
        r.calls ++ called.map fun id => (id, frame) := by
  induction ids generalizing r with
  | nil => exact ⟨rfl, rfl, [], (List.append_nil _).symm⟩
  | cons id ids ih =>
      obtain ⟨hhandlers, hsubscribed, called, hcalls⟩ := ih (r.callback frame id)
      rw [List.foldl_cons, hhandlers, hsubscribed, hcalls]
      unfold callback
      rcases onIncoming frame r.dedupe none with ⟨dedupe, bloom, accepted⟩
      cases accepted with
      | false => exact ⟨rfl, rfl, called, rfl⟩
      | true => exact ⟨rfl, rfl, id :: called, List.append_assoc ..⟩

theorem subscribed_le (r : Router) (e : RouterEvent) : r.subscribed ≤ (r.step e).subscribed := by
  cases e with
  | subscribe => exact Nat.le_succ _
  | unsubscribe id => exact le_rfl
  | frame peerIdHex frame => exact ((foldl_callback frame _ r).2.1).ge

/-- A subscription is live until it is given up. -/
theorem live_iff (before between : List RouterEvent) :
    (run before).subscribed < (run (before ++ .subscribe :: between)).subscribed ∧
      ((run before).subscribed ∈ (run (before ++ .subscribe :: between)).frameHandlers ↔
        .unsubscribe (run before).subscribed ∉ between) := by
  induction between using List.reverseRecOn with
  | nil =>
      rw [run_append_singleton]
      refine ⟨Nat.lt_succ_self _, fun _ => List.not_mem_nil, fun _ => ?_⟩
      exact List.mem_append_right _ (List.mem_singleton_self _)
  | append_singleton between e ih =>
      obtain ⟨hlt, hlive⟩ := ih
      rw [← List.cons_append, ← List.append_assoc, run_append_singleton]
      refine ⟨hlt.trans_le (subscribed_le _ e), ?_⟩
      rw [List.mem_append, List.mem_singleton, not_or, ← hlive]
      cases e with
      | subscribe =>
          refine Iff.trans List.mem_append ⟨fun h => ⟨?_, nofun⟩, fun h => Or.inl h.1⟩
          exact h.resolve_right fun hlast => Nat.ne_of_lt hlt (List.mem_singleton.mp hlast)
      | unsubscribe id =>
          refine Iff.trans List.mem_filter (and_congr_right fun _ => ?_)
          rw [decide_eq_true_eq]
          exact not_congr ⟨fun h => by rw [h], fun h => RouterEvent.unsubscribe.inj h⟩
      | frame peerIdHex frame =>
          show _ ∈ ((run (before ++ .subscribe :: between)).step _).frameHandlers ↔ _
          rw [show ((run (before ++ .subscribe :: between)).step
            (.frame peerIdHex frame)).frameHandlers = _ from (foldl_callback frame _ _).1]
          exact ⟨fun h => ⟨h, nofun⟩, fun h => h.1⟩

/-- A live subscription was made. -/
theorem exists_subscribe {id : ℕ} (h : id ∈ (run events).frameHandlers) :
    ∃ before between, events = before ++ .subscribe :: between ∧
      (run before).subscribed = id := by
  induction events using List.reverseRecOn with
  | nil => exact absurd h List.not_mem_nil
  | append_singleton events e ih =>
      have hold : id ∈ (run events).frameHandlers → ∃ before between,
          events ++ [e] = before ++ .subscribe :: between ∧ (run before).subscribed = id := by
        intro hid
        obtain ⟨before, between, heq, hnumber⟩ := ih hid
        exact ⟨before, between ++ [e], by rw [heq, List.append_assoc]; rfl, hnumber⟩
      rw [run_append_singleton] at h
      cases e with
      | subscribe =>
          rcases List.mem_append.mp h with hid | hid
          · exact hold hid
          · exact ⟨events, [], rfl, (List.mem_singleton.mp hid).symm⟩
      | unsubscribe id' => exact hold (List.mem_of_mem_filter h)
      | frame peerIdHex frame =>
          rw [show ((run events).step (.frame peerIdHex frame)).frameHandlers = _ from
            (foldl_callback frame _ _).1] at h
          exact hold h

/-! ### What was called -/

theorem calls_step (r : Router) (e : RouterEvent) :
    ∃ calls, (r.step e).calls = r.calls ++ calls ∧ ∀ call ∈ calls, call.2 ∈ framesOf [e] := by
  cases e with
  | subscribe => exact ⟨[], (List.append_nil _).symm, fun _ h => absurd h List.not_mem_nil⟩
  | unsubscribe id => exact ⟨[], (List.append_nil _).symm, fun _ h => absurd h List.not_mem_nil⟩
  | frame peerIdHex frame =>
      obtain ⟨called, hcalls⟩ := (foldl_callback frame r.frameHandlers r).2.2
      refine ⟨called.map fun id => (id, frame), hcalls, fun call hcall => ?_⟩
      obtain ⟨id, -, rfl⟩ := List.mem_map.mp hcall
      exact List.mem_singleton_self _

theorem calls_run_append (events later : List RouterEvent) :
    ∃ calls, (run (events ++ later)).calls = (run events).calls ++ calls := by
  induction later using List.reverseRecOn with
  | nil => exact ⟨[], by rw [List.append_nil, List.append_nil]⟩
  | append_singleton later e ih =>
      obtain ⟨calls, hcalls⟩ := ih
      obtain ⟨calls', hcalls', -⟩ := calls_step (run (events ++ later)) e
      refine ⟨calls ++ calls', ?_⟩
      rw [← List.append_assoc, run_append_singleton, hcalls', hcalls, List.append_assoc]

/-- Handlers are called with frames that came in. -/
theorem past_subset : ∀ frame ∈ (run events).past, frame ∈ framesOf events := by
  induction events using List.reverseRecOn with
  | nil => exact fun _ h => absurd h List.not_mem_nil
  | append_singleton events e ih =>
      intro frame h
      obtain ⟨calls, hcalls, hframes⟩ := calls_step (run events) e
      unfold past at h
      rw [run_append_singleton, hcalls, List.map_append] at h
      rw [framesOf_append]
      rcases List.mem_append.mp h with h | h
      · exact List.mem_append_left _ (ih frame h)
      · obtain ⟨call, hcall, rfl⟩ := List.mem_map.mp h
        exact List.mem_append_right _ (hframes call hcall)

theorem Sound.callsWith (h : Sound all r) {id : ℕ} {frame : Bytes} (hcall : (id, frame) ∈ r.calls)
    (id' : ℕ) : r.callsWith id' (frameKey frame) = if id' = id then 1 else 0 := by
  have hkeys : (r.calls.map fun call => frameKey call.2).Nodup := by
    have hnodup := h.nodup
    unfold past at hnodup
    rwa [List.map_map] at hnodup
  have honly : ∀ call ∈ r.calls, frameKey call.2 = frameKey frame → call = (id, frame) :=
    fun call hmem heq => List.inj_on_of_nodup_map hkeys hmem hcall heq
  unfold Router.callsWith
  split
  next heq =>
    subst heq
    rw [← List.count_eq_one_of_mem hkeys.of_map hcall, List.count]
    refine List.countP_congr fun call hmem => ?_
    rw [decide_eq_true_eq, beq_iff_eq]
    refine ⟨fun hboth => honly call hmem hboth.2, ?_⟩
    rintro rfl
    exact ⟨rfl, rfl⟩
  next hne =>
    rw [List.countP_eq_zero]
    intro call hmem hboth
    rw [decide_eq_true_eq] at hboth
    rw [honly call hmem hboth.2] at hboth
    exact hne hboth.1.symm

/-- **The first frame with a key** goes to the first subscription, and no other
frame with it to any. -/
theorem callsWith_first {pre post : List RouterEvent} {peerIdHex : JsString} {frame : Bytes}
    (hpre : Sound all (run pre)) (hrun : Sound all (run (pre ++ .frame peerIdHex frame :: post)))
    (hframe : frame ∈ all) (hnew : frameKey frame ∉ (framesOf pre).map frameKey) {id : ℕ}
    {ids : List ℕ} (hids : (run pre).frameHandlers = id :: ids) (id' : ℕ) :
    (run (pre ++ .frame peerIdHex frame :: post)).callsWith id' (frameKey frame) =
      if id' = id then 1 else 0 := by
  refine hrun.callsWith ?_ id'
  have hunknown : ¬ (run pre).Knows (frameKey frame) := by
    intro hknown
    obtain ⟨frame', hpast, heq⟩ := List.mem_map.mp hknown
    exact hnew (List.mem_map.mpr ⟨frame', past_subset frame' hpast, heq⟩)
  obtain ⟨calls, hcalls⟩ := calls_run_append (pre ++ [.frame peerIdHex frame]) post
  rw [List.append_assoc, List.singleton_append] at hcalls
  rw [hcalls, run_append_singleton]
  rcases step_frame hpre.remembers hframe peerIdHex with ⟨hknown, -⟩ | ⟨hnone, -⟩ |
    ⟨id'', ids', hids', -, heq⟩
  · exact absurd hknown hunknown
  · rw [hids] at hnone
    cases hnone
  · rw [hids] at hids'
    cases hids'
    rw [heq]
    exact List.mem_append_left _ (List.mem_append_right _ (List.mem_singleton_self _))

/-- Before a frame, or at it, its key comes in for the first time. -/
theorem exists_first (between post : List RouterEvent) (peerIdHex : JsString) (frame : Bytes) :
    ∃ pre rest peerIdHex' frame', between ++ .frame peerIdHex frame :: post =
        pre ++ .frame peerIdHex' frame' :: rest ∧
      (∀ e ∈ pre, e ∈ between) ∧ frameKey frame' = frameKey frame ∧
      frameKey frame ∉ (framesOf pre).map frameKey := by
  induction between with
  | nil => exact ⟨[], post, peerIdHex, frame, rfl, fun _ h => h, rfl, List.not_mem_nil⟩
  | cons e between ih =>
      obtain ⟨pre, rest, peerIdHex', frame', heq, hsub, hkey, hnew⟩ := ih
      have hcons : ∀ e' ∈ e :: pre, e' ∈ e :: between := by
        intro e' he'
        rcases List.mem_cons.mp he' with rfl | he'
        · exact List.mem_cons_self
        · exact List.mem_cons_of_mem _ (hsub e' he')
      have hlater : frameKey frame ∉ (framesOf (e :: pre)).map frameKey →
          ∃ pre rest peerIdHex' frame', e :: between ++ .frame peerIdHex frame :: post =
            pre ++ .frame peerIdHex' frame' :: rest ∧
          (∀ e' ∈ pre, e' ∈ e :: between) ∧ frameKey frame' = frameKey frame ∧
          frameKey frame ∉ (framesOf pre).map frameKey :=
        fun hnew' => ⟨e :: pre, rest, peerIdHex', frame', congrArg _ heq, hcons, hkey, hnew'⟩
      cases e with
      | subscribe => exact hlater hnew
      | unsubscribe id => exact hlater hnew
      | frame p f =>
          by_cases hf : frameKey f = frameKey frame
          · exact ⟨[], _, p, f, rfl, fun _ h => absurd h List.not_mem_nil, hf, List.not_mem_nil⟩
          · refine hlater ?_
            rw [framesOf_frame, List.map_cons, List.mem_cons, not_or]
            exact ⟨Ne.symm hf, hnew⟩

end Router

open Router

/-- **Each live subscription gets each new frame once**, whatever subscriptions
come and go, if and only if there is at most one of them whenever a key comes in
for the first time. -/
theorem each_gets_new_frames_iff {events : List RouterEvent}
    (hlong : ∀ frame ∈ framesOf events, 59 ≤ frame.length)
    (hfew : ((framesOf events).map frameKey).toFinset.card < DedupeCache.defaultCapacity) :
    (∀ before between peerIdHex frame post,
      events = before ++ .subscribe :: (between ++ .frame peerIdHex frame :: post) →
      RouterEvent.unsubscribe (run before).subscribed ∉ between →
      frameKey frame ∉ (framesOf before).map frameKey →
      (run events).callsWith (run before).subscribed (frameKey frame) = 1) ↔
    ∀ pre peerIdHex frame post, events = pre ++ .frame peerIdHex frame :: post →
      frameKey frame ∉ (framesOf pre).map frameKey → (run pre).frameHandlers.length ≤ 1 := by
  have hsound : ∀ pre post, events = pre ++ post → Sound (framesOf events) (run pre) := by
    intro pre post heq
    refine sound_run hlong hfew fun frame hmem => ?_
    rw [heq, framesOf_append]
    exact List.mem_append_left _ hmem
  have hfirst : ∀ pre peerIdHex frame post, events = pre ++ .frame peerIdHex frame :: post →
      frameKey frame ∉ (framesOf pre).map frameKey →
      ∀ id ids, (run pre).frameHandlers = id :: ids →
        ∀ id', (run events).callsWith id' (frameKey frame) = if id' = id then 1 else 0 := by
    intro pre peerIdHex frame post heq hnew id ids hids id'
    have hrun : Sound (framesOf events) (run (pre ++ .frame peerIdHex frame :: post)) := by
      rw [← heq]
      exact hsound events [] (List.append_nil _).symm
    have hmem : frame ∈ framesOf events := by
      rw [heq, framesOf_append, framesOf_frame]
      exact List.mem_append_right _ List.mem_cons_self
    have hcalls := callsWith_first (hsound pre _ heq) hrun hmem hnew hids id'
    rwa [← heq] at hcalls
  constructor
  · intro h pre peerIdHex frame post heq hnew
    by_contra hmany
    -- The second subscription does not get the frame.
    cases hids : (run pre).frameHandlers with
    | nil =>
        rw [hids] at hmany
        exact hmany (Nat.zero_le 1)
    | cons id ids =>
        cases ids with
        | nil =>
            rw [hids] at hmany
            exact hmany le_rfl
        | cons id' ids =>
            have hdistinct := (hsound pre _ heq).distinct
            rw [hids, List.nodup_cons] at hdistinct
            have hid' : id' ∈ (run pre).frameHandlers := by
              rw [hids]
              exact List.mem_cons_of_mem _ List.mem_cons_self
            obtain ⟨before, between, rfl, rfl⟩ := exists_subscribe hid'
            have hlive := (live_iff before between).2.mp hid'
            have hbefore : frameKey frame ∉ (framesOf before).map frameKey := by
              intro hold
              rw [framesOf_append, List.map_append] at hnew
              exact hnew (List.mem_append_left _ hold)
            have hone := h before between peerIdHex frame post (by rw [heq, List.append_assoc]; rfl)
              hlive hbefore
            have hcalls := hfirst _ _ _ _ heq hnew id _ hids (run before).subscribed
            rw [hone, if_neg] at hcalls
            · cases hcalls
            · intro hsame
              exact hdistinct.1 (hsame ▸ List.mem_cons_self)
  · intro h before between peerIdHex frame post heq hlive hnew
    obtain ⟨pre, rest, peerIdHex', frame', hsplit, hsub, hkey, hpre⟩ :=
      exists_first between post peerIdHex frame
    have heq' : events = (before ++ .subscribe :: pre) ++ .frame peerIdHex' frame' :: rest := by
      rw [heq, hsplit, List.append_assoc]
      rfl
    have hnew' : frameKey frame' ∉ (framesOf (before ++ .subscribe :: pre)).map frameKey := by
      rw [hkey, framesOf_append, List.map_append, List.mem_append, not_or]
      exact ⟨hnew, hpre⟩
    have hid := (live_iff before pre).2.mpr fun hgone => hlive (hsub _ hgone)
    have hle := h _ _ _ _ heq' hnew'
    obtain ⟨id, hids⟩ : ∃ id, (run (before ++ .subscribe :: pre)).frameHandlers = [id] := by
      refine List.length_eq_one_iff.mp (le_antisymm hle ?_)
      exact List.length_pos_of_mem hid
    have hcalls := hfirst _ _ _ _ heq' hnew' id [] hids (run before).subscribed
    rw [hids] at hid
    rwa [hkey, if_pos (List.mem_singleton.mp hid)] at hcalls

/-- A subscription is given up for another one, which gets the old frame again and a new
one. -/
def takenOver : List RouterEvent :=
  [.subscribe, .frame [1] (frameOn 1), .unsubscribe 0, .subscribe, .frame [2] (frameOn 1),
    .frame [2] (frameOn 2)]

/-- Each of the two is called with the frame that was new to it. -/
theorem each_gets_new_frames_iff_sample :
    (run takenOver).callsWith 0 (frameKey (frameOn 1)) = 1 ∧
      (run takenOver).callsWith 1 (frameKey (frameOn 2)) = 1 := by
  have hlive : ∀ k < takenOver.length, (run (takenOver.take k)).frameHandlers.length ≤ 1 := by
    decide +kernel
  have hfirst : ∀ pre peerIdHex frame post, takenOver = pre ++ .frame peerIdHex frame :: post →
      (run pre).frameHandlers.length ≤ 1 := by
    intro pre peerIdHex frame post heq
    have hpre : takenOver.take pre.length = pre := by simp [heq]
    rw [← hpre]
    apply hlive
    simp [heq]
  have hcalls := (each_gets_new_frames_iff (by decide) (by decide +kernel)).mpr
    fun pre peerIdHex frame post heq _ => hfirst pre peerIdHex frame post heq
  constructor
  · exact hcalls [] [] [1] (frameOn 1) _ rfl List.not_mem_nil List.not_mem_nil
  · exact hcalls [.subscribe, .frame [1] (frameOn 1), .unsubscribe 0] [.frame [2] (frameOn 1)] [2]
      (frameOn 2) [] rfl (by simp) (by decide)

/-- Of two subscriptions the second one gets nothing. -/
theorem second_subscription_starves :
    ¬ ∀ events : List RouterEvent, (∀ frame ∈ framesOf events, 59 ≤ frame.length) →
      ((framesOf events).map frameKey).toFinset.card < DedupeCache.defaultCapacity →
      ∀ before between peerIdHex frame post,
        events = before ++ .subscribe :: (between ++ .frame peerIdHex frame :: post) →
        RouterEvent.unsubscribe (run before).subscribed ∉ between →
        frameKey frame ∉ (framesOf before).map frameKey →
        (run events).callsWith (run before).subscribed (frameKey frame) = 1 := by
  intro h
  have hone := h [.subscribe, .subscribe, .frame [1] (frameOn 1)] (by decide) (by decide +kernel)
    [.subscribe] [] [1] (frameOn 1) [] rfl List.not_mem_nil List.not_mem_nil
  revert hone
  decide +kernel

end Oxpulse.MeshCore
