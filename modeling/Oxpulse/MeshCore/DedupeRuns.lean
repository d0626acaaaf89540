import Oxpulse.Foundation.Recency
import Oxpulse.MeshCore.Dedupe

/-!
# The cache over a run

A run of a `DedupeCache` is a sequence of its calls. Whatever they are, the keys
in the map are those of the pairs that were marked last since the cache was
cleared, as many as it has room for, and in the order in which they were marked
(`holdsRecent_run`): the cache is an exact set of the most recent marks.
-/

namespace Oxpulse.MeshCore

open Oxpulse.Recency

/-- The calls of a `DedupeCache`. -/
inductive DedupeCall : Type where
  | markSeen (channelId msgId : JsString)
  | hasSeen (channelId msgId : JsString)
  | clear
deriving DecidableEq

/-- The channel that a call is about. -/
def DedupeCall.channelId? : DedupeCall → Option JsString
  | .markSeen channelId _ => some channelId
  | .hasSeen channelId _ => some channelId
  | .clear => none

/-- No channel of the call contains the character that separates it from the
message id. -/
def DedupeCall.NulFree (call : DedupeCall) : Prop := ∀ channelId ∈ call.channelId?, 0 ∉ channelId

instance (call : DedupeCall) : Decidable call.NulFree :=
  inferInstanceAs (Decidable (∀ channelId ∈ call.channelId?, 0 ∉ channelId))

/-- The marks after a call. -/
def DedupeCall.marks (marks : List (JsString × JsString)) : DedupeCall → List (JsString × JsString)
  | .markSeen channelId msgId => marks ++ [(channelId, msgId)]
  | .hasSeen _ _ => marks
  | .clear => []

/-- The pairs that were marked since the last `clear`, in order. -/
def marksSince (calls : List DedupeCall) : List (JsString × JsString) :=
  calls.foldl DedupeCall.marks []

theorem marksSince_concat (calls : List DedupeCall) (call : DedupeCall) :
    marksSince (calls ++ [call]) = call.marks (marksSince calls) :=
  List.foldl_append ..

namespace DedupeCache

/-- The cache after a call, and what the call returns. -/
def call (cache : DedupeCache) : DedupeCall → DedupeCache × Option Bool
  | .markSeen channelId msgId => (cache.markSeen channelId msgId, none)
  | .hasSeen channelId msgId => (cache, some (cache.hasSeen channelId msgId))
  | .clear => (cache.clear, none)

def run (cache : DedupeCache) (calls : List DedupeCall) : DedupeCache :=
  calls.foldl (fun cache c => (cache.call c).1) cache

/-! ## What a mark does to the keys -/

variable {cache : DedupeCache} {c m : JsString}

/-- A key that is there moves to the end. -/
theorem keys_markSeen_seen (h : key c m ∈ cache.seen.keys) :
    (cache.markSeen c m).seen.keys = touch (key c m) cache.seen.keys := by
  have hhas : cache.seen.has (key c m) = true := InsMap.get?_isSome.mpr h
  unfold markSeen
  dsimp only
  rw [if_pos hhas, InsMap.keys_set_new (InsMap.get?_delete_self ..), InsMap.keys_delete]
  rfl

/-- A new one takes the place of the oldest when the cache is full. -/
theorem keys_markSeen_full (hcapacity : 1 ≤ cache.capacity) (h : key c m ∉ cache.seen.keys)
    (hfull : cache.capacity ≤ cache.seen.keys.length) :
    (cache.markSeen c m).seen.keys = cache.seen.keys.tail ++ [key c m] := by
  have hhas : ¬ cache.seen.has (key c m) = true := mt InsMap.get?_isSome.mp h
  have hsize : cache.seen.size ≥ cache.capacity := by
    unfold InsMap.keys at hfull
    rwa [List.length_map] at hfull
  unfold markSeen
  dsimp only
  rw [if_neg hhas, if_pos hsize]
  cases hkeys : cache.seen.keys with
  | nil =>
      rw [hkeys, List.length_nil] at hfull
      omega
  | cons oldest rest =>
      have hnodup : (oldest :: rest).Nodup := hkeys ▸ cache.seen.nodup
      have hdelete : (cache.seen.delete oldest).keys = rest := by
        rw [InsMap.keys_delete, hkeys, List.filter_cons_of_neg (by simp)]
        exact filter_ne_of_notMem (List.nodup_cons.mp hnodup).1
      rw [List.head?_cons]
      dsimp only
      rw [InsMap.keys_set_new, hdelete, List.tail_cons]
      rw [InsMap.get?_eq_none, hdelete]
      rw [hkeys] at h
      exact fun hmem => h (List.mem_cons_of_mem _ hmem)

/-! ## The run -/

/-- The keys are those of the pairs that were marked last. -/
structure HoldsRecent (capacity : ℕ) (marks : List (JsString × JsString)) (cache : DedupeCache) :
    Prop where
  cap : cache.capacity = capacity
  keys : cache.seen.keys = recent capacity (marks.map fun pair => key pair.1 pair.2)

variable {capacity : ℕ} {marks : List (JsString × JsString)}

theorem holdsRecent_nil (hcapacity : cache.capacity = capacity) (hkeys : cache.seen.keys = []) :
    HoldsRecent capacity [] cache :=
  ⟨hcapacity, by rw [hkeys, List.map_nil, recent_nil]⟩

theorem HoldsRecent.markSeen (h : HoldsRecent capacity marks cache) (hcapacity : 1 ≤ capacity) :
    HoldsRecent capacity (marks ++ [(c, m)]) (cache.markSeen c m) := by
  obtain ⟨rfl, hkeys⟩ := h
  refine ⟨rfl, ?_⟩
  rw [List.map_append, List.map_singleton]
  by_cases hseen : key c m ∈ cache.seen.keys
  · rw [keys_markSeen_seen hseen, hkeys, recent_concat_of_mem (hkeys ▸ hseen)]
  · by_cases hfull : cache.capacity ≤ cache.seen.keys.length
    · rw [keys_markSeen_full hcapacity hseen hfull, hkeys,
        recent_concat_of_full hcapacity (hkeys ▸ hseen) (hkeys ▸ hfull)]
    · have hhas : cache.hasSeen c m = false := by
        rwa [← Bool.not_eq_true, hasSeen_iff]
      have hroom := Nat.not_le.mp hfull
      rw [keys_markSeen hhas hroom, hkeys, recent_concat_of_room (hkeys ▸ hseen) (hkeys ▸ hroom)]

theorem run_concat (cache : DedupeCache) (calls : List DedupeCall) (call : DedupeCall) :
    cache.run (calls ++ [call]) = ((cache.run calls).call call).1 :=
  List.foldl_append ..

theorem holdsRecent_run (hcapacity : 1 ≤ capacity) (calls : List DedupeCall) :
    HoldsRecent capacity (marksSince calls) ((new capacity).run calls) := by
  induction calls using List.reverseRecOn with
  | nil => exact holdsRecent_nil rfl rfl
  | append_singleton calls call ih =>
      rw [run_concat, marksSince_concat]
      cases call with
      | markSeen c m => exact ih.markSeen hcapacity
      | hasSeen c m => exact ih
      | clear => exact holdsRecent_nil ih.cap rfl

theorem key_inj_of_nulFree {c c' m m' : JsString} (hc : 0 ∉ c) (hc' : 0 ∉ c')
    (h : key c m = key c' m') : (c, m) = (c', m') := by
  have hlength : c.length = c'.length := by
    have hindex : ∀ c m : JsString, 0 ∉ c → (key c m).idxOf 0 = c.length := by
      intro c m hc
      unfold key
      rw [List.idxOf_append_of_notMem hc, List.idxOf_cons_self, Nat.add_zero]
    rw [← hindex c m hc, h, hindex c' m' hc']
  obtain ⟨rfl, rfl⟩ := key_inj hlength h
  rfl

theorem marksSince_nulFree {calls : List DedupeCall} (hcalls : ∀ call ∈ calls, call.NulFree) :
    ∀ pair ∈ marksSince calls, 0 ∉ pair.1 := by
  induction calls using List.reverseRecOn with
  | nil => exact fun _ hmem => absurd hmem List.not_mem_nil
  | append_singleton calls call ih =>
      have hrest := ih fun call' hmem => hcalls call' (List.mem_append_left _ hmem)
      have hlast := hcalls call (List.mem_append_right _ (List.mem_singleton_self _))
      rw [marksSince_concat]
      cases call with
      | markSeen c m =>
          intro pair hmem
          rcases List.mem_append.mp hmem with hold | hnew
          · exact hrest pair hold
          · rw [List.mem_singleton.mp hnew]
            exact hlast c rfl
      | hasSeen c m => exact hrest
      | clear => exact fun _ hmem => absurd hmem List.not_mem_nil

end DedupeCache

open DedupeCache

/-- **The cache is an exact set of the most recent marks**: for every capacity of
at least one and every sequence of calls whose channels contain no NUL, a pair is
seen if and only if it is among the `capacity` distinct ones that were marked last
since the last `clear`; there are never more keys than that, and asking changes
nothing. -/
theorem dedupe_remembers_recent {capacity : ℕ} (hcapacity : 1 ≤ capacity)
    {calls : List DedupeCall} (hcalls : ∀ call ∈ calls, call.NulFree) {c m : JsString}
    (hc : 0 ∉ c) :
    (((new capacity).run calls).hasSeen c m = true ↔
        (c, m) ∈ recent capacity (marksSince calls)) ∧
      ((new capacity).run calls).seen.size ≤ capacity ∧
      (new capacity).run (calls ++ [.hasSeen c m]) = (new capacity).run calls := by
  have hkeys := (holdsRecent_run hcapacity calls).keys
  have hfree := marksSince_nulFree hcalls
  refine ⟨?_, ?_, ?_⟩
  · rw [hasSeen_iff, hkeys, recent_map fun a ha b hb =>
      key_inj_of_nulFree (hfree a ha) (hfree b hb), List.mem_map]
    constructor
    · rintro ⟨pair, hmem, heq⟩
      exact key_inj_of_nulFree (hfree pair (mem_of_mem_recent hmem)) hc heq ▸ hmem
    · exact fun hmem => ⟨(c, m), hmem, rfl⟩
  · have hlength := length_recent_le capacity
      ((marksSince calls).map fun pair => key pair.1 pair.2)
    rw [← hkeys] at hlength
    unfold InsMap.keys at hlength
    rwa [List.length_map] at hlength
  · exact run_concat ..

/-- A refresh: the third pair pushes out the second one, which is the oldest. -/
theorem dedupe_remembers_recent_sample :
    (((new 2).run [.markSeen [1] [1], .markSeen [2] [2], .markSeen [1] [1],
        .markSeen [3] [3]]).hasSeen [1] [1] = true ↔
      ([1], [1]) ∈ recent 2 (marksSince [.markSeen [1] [1], .markSeen [2] [2],
        .markSeen [1] [1], .markSeen [3] [3]])) ∧
    ([1], [1]) ∈ recent 2 (marksSince [.markSeen [1] [1], .markSeen [2] [2],
      .markSeen [1] [1], .markSeen [3] [3]]) :=
  ⟨(dedupe_remembers_recent (by decide) (by decide) (by decide)).1, by decide⟩

end Oxpulse.MeshCore
