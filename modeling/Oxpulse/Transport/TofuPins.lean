import Mathlib.Data.List.Induction
import Oxpulse.Foundation.Eviction
import Oxpulse.Transport.Handshake

/-!
# The pins of TOFU

The store that a sequence of `tofuCheck` calls leaves, and which records it
loses. A check that trusts a key hands `saved` to `tofuSave`, which keeps the
newest `TOFU_MAX_ENTRIES` of its records. As long as the clock does not run
backwards the record that was just written is among these, since it is the
newest one and a new id is appended last; and a record that is not evicted keeps
its key (`pins_hold`).
-/

namespace Oxpulse.Transport

open Oxpulse.Eviction

/-- A call of `tofuCheck`, with the time `Date.now()` returns in it. -/
structure TofuCall : Type where
  peerIdHex : PeerIdHex
  pubkeyB64 : String
  now : ℕ

namespace TofuCall

def run (c : TofuCall) (store : TofuStore) : TofuStore × TofuResult :=
  tofuCheck c.peerIdHex c.pubkeyB64 c.now store

/-- What the call hands to `tofuSave`, or the store as it is. -/
def saved (c : TofuCall) (store : TofuStore) : TofuStore :=
  match store.get? c.peerIdHex with
  | none => store.set c.peerIdHex ⟨c.pubkeyB64, c.now, c.now⟩
  | some existing =>
      if existing.pubkeyB64 = c.pubkeyB64 then
        store.set c.peerIdHex { existing with lastSeen := c.now }
      else store

end TofuCall

/-- The store after these calls, from an empty one. -/
def tofuRun (calls : List TofuCall) : TofuStore :=
  calls.foldl (fun store c => (c.run store).1) .empty

theorem tofuRun_concat (calls : List TofuCall) (c : TofuCall) :
    tofuRun (calls ++ [c]) = (c.run (tofuRun calls)).1 := by
  unfold tofuRun
  rw [List.foldl_append]
  rfl

/-- The call trusts the key it is given. -/
def Trusts (calls : List TofuCall) (c : TofuCall) : Prop :=
  (c.run (tofuRun calls)).2.trusted = true

/-- Saving after the call drops the record. -/
def Evicts (calls : List TofuCall) (c : TofuCall) (peerIdHex : PeerIdHex) (r : TofuRecord) :
    Prop :=
  (c.saved (tofuRun calls)).get? peerIdHex = some r ∧
    (tofuRun (calls ++ [c])).get? peerIdHex = none

/-! ## Eviction -/

section Eviction

variable {store : TofuStore} {peerIdHex : PeerIdHex} {r r' : TofuRecord}

def lastSeen (e : PeerIdHex × TofuRecord) : ℕ := e.2.lastSeen

theorem tofuEvict_of_le (h : store.size ≤ TOFU_MAX_ENTRIES) : tofuEvict store = store := by
  unfold tofuEvict
  exact if_pos h

theorem entries_tofuEvict (h : ¬ store.size ≤ TOFU_MAX_ENTRIES) :
    (tofuEvict store).entries = newest lastSeen TOFU_MAX_ENTRIES store.entries := by
  have hnil : (InsMap.empty : TofuStore).entries = [] := rfl
  have hnodup : (((InsMap.empty : TofuStore).entries ++
      newest lastSeen TOFU_MAX_ENTRIES store.entries).map Prod.fst).Nodup := by
    rw [hnil, List.nil_append]
    exact nodup_map_newest store.nodup
  have hfold := InsMap.entries_foldl_set _ hnodup
  rw [hnil, List.nil_append] at hfold
  have hlength : ¬ store.entries.length ≤ TOFU_MAX_ENTRIES := h
  unfold tofuEvict
  dsimp only
  rw [if_neg hlength]
  exact hfold

theorem size_tofuEvict (store : TofuStore) : (tofuEvict store).size ≤ TOFU_MAX_ENTRIES := by
  by_cases h : store.size ≤ TOFU_MAX_ENTRIES
  · rw [tofuEvict_of_le h]
    exact h
  · unfold InsMap.size
    rw [entries_tofuEvict h, length_newest]
    exact Nat.min_le_left _ _

/-- Evicting changes no record it keeps. -/
theorem get?_of_tofuEvict (h : (tofuEvict store).get? peerIdHex = some r) :
    store.get? peerIdHex = some r := by
  by_cases hsize : store.size ≤ TOFU_MAX_ENTRIES
  · rwa [tofuEvict_of_le hsize] at h
  · rw [InsMap.get?_eq_some, entries_tofuEvict hsize] at h
    exact InsMap.get?_eq_some.mpr (mem_of_mem_newest h)

/-- **What is evicted was seen no later than what is kept.** -/
theorem lastSeen_le_of_evicted {peerIdHex' : PeerIdHex} (h : store.get? peerIdHex = some r)
    (hgone : (tofuEvict store).get? peerIdHex = none)
    (hkept : (tofuEvict store).get? peerIdHex' = some r') : r.lastSeen ≤ r'.lastSeen := by
  by_cases hsize : store.size ≤ TOFU_MAX_ENTRIES
  · rw [tofuEvict_of_le hsize, h] at hgone
    cases hgone
  · have hdropped : (peerIdHex, r) ∉ newest lastSeen TOFU_MAX_ENTRIES store.entries := by
      rw [← entries_tofuEvict hsize, ← InsMap.get?_eq_some, hgone]
      simp
    rw [InsMap.get?_eq_some, entries_tofuEvict hsize] at hkept
    have hle : lastSeen (peerIdHex, r) ≤ lastSeen (peerIdHex', r') :=
      rank_le_of_dropped (InsMap.get?_eq_some.mp h) hdropped hkept
    exact hle

/-- A new record that is the newest survives. -/
theorem get?_tofuEvict_new (hnew : store.get? peerIdHex = none)
    (hmax : ∀ e ∈ store.entries, e.2.lastSeen ≤ r.lastSeen) :
    (tofuEvict (store.set peerIdHex r)).get? peerIdHex = some r := by
  by_cases hsize : (store.set peerIdHex r).size ≤ TOFU_MAX_ENTRIES
  · rw [tofuEvict_of_le hsize, InsMap.get?_set_self]
  · have hentries := InsMap.entries_set_new (a := r) hnew
    have hnodup : (store.entries ++ [(peerIdHex, r)]).Nodup := by
      rw [← hentries]
      exact (store.set peerIdHex r).nodup.of_map _
    rw [InsMap.get?_eq_some, entries_tofuEvict hsize, hentries]
    exact mem_newest_of_last (by decide) hnodup hmax

end Eviction

/-! ## One check -/

section Check

variable {c : TofuCall} {store : TofuStore} {peerIdHex : PeerIdHex} {r r' : TofuRecord}

/-- What a run of checks keeps. -/
structure Pinned (now : ℕ) (store : TofuStore) : Prop where
  size : store.size ≤ TOFU_MAX_ENTRIES
  seen : ∀ e ∈ store.entries, e.2.lastSeen ≤ now

theorem Pinned.mono {now now' : ℕ} (h : Pinned now store) (hnow : now ≤ now') :
    Pinned now' store :=
  ⟨h.size, fun e he => (h.seen e he).trans hnow⟩

/-- The three branches of `tofuCheck`: whatever was trusted is saved. -/
theorem run_cases (c : TofuCall) (store : TofuStore) :
    (store.get? c.peerIdHex = none ∧ c.saved store =
        store.set c.peerIdHex ⟨c.pubkeyB64, c.now, c.now⟩ ∧
      c.run store = (tofuEvict (c.saved store), ⟨true, false⟩)) ∨
    (∃ r, store.get? c.peerIdHex = some r ∧ r.pubkeyB64 = c.pubkeyB64 ∧
      c.saved store = store.set c.peerIdHex { r with lastSeen := c.now } ∧
      c.run store = (tofuEvict (c.saved store), ⟨true, false⟩)) ∨
    (∃ r, store.get? c.peerIdHex = some r ∧ r.pubkeyB64 ≠ c.pubkeyB64 ∧ c.saved store = store ∧
      c.run store = (store, ⟨false, true⟩)) := by
  unfold TofuCall.run TofuCall.saved tofuCheck
  cases hget : store.get? c.peerIdHex with
  | none => exact Or.inl (by simp)
  | some r =>
      by_cases hkey : r.pubkeyB64 = c.pubkeyB64
      · refine Or.inr (Or.inl ⟨r, rfl, hkey, if_pos hkey, ?_⟩)
        dsimp only
        rw [if_pos hkey, if_pos hkey]
      · refine Or.inr (Or.inr ⟨r, rfl, hkey, if_neg hkey, ?_⟩)
        dsimp only
        rw [if_neg hkey]

/-- Saving evicts, whatever the check said. -/
theorem run_fst (h : store.size ≤ TOFU_MAX_ENTRIES) (c : TofuCall) :
    (c.run store).1 = tofuEvict (c.saved store) := by
  rcases run_cases c store with ⟨-, -, hrun⟩ | ⟨r, -, -, -, hrun⟩ | ⟨r, -, -, hsaved, hrun⟩
  · rw [hrun]
  · rw [hrun]
  · rw [hrun, hsaved, tofuEvict_of_le h]

/-- Each record the call saves was there with the same key, or is the one it
wrote. -/
theorem get?_saved (hget : (c.saved store).get? peerIdHex = some r) :
    (store.get? peerIdHex = some r) ∨
      (peerIdHex = c.peerIdHex ∧ r.lastSeen = c.now ∧ r.pubkeyB64 = c.pubkeyB64 ∧
        ∀ r', store.get? peerIdHex = some r' → r'.pubkeyB64 = r.pubkeyB64) := by
  rcases run_cases c store with ⟨hnone, hsaved, -⟩ | ⟨r₀, hr₀, hkey, hsaved, -⟩ | ⟨-, -, -, hsaved, -⟩
  · rw [hsaved, InsMap.get?_set] at hget
    split at hget
    next heq =>
      cases hget
      refine Or.inr ⟨heq.symm, rfl, rfl, fun r' hr' => ?_⟩
      rw [← heq, hnone] at hr'
      cases hr'
    next => exact Or.inl hget
  · rw [hsaved, InsMap.get?_set] at hget
    split at hget
    next heq =>
      cases hget
      refine Or.inr ⟨heq.symm, rfl, hkey, fun r' hr' => ?_⟩
      rw [← heq, hr₀] at hr'
      cases hr'
      rfl
    next => exact Or.inl hget
  · rw [hsaved] at hget
    exact Or.inl hget

/-- Nothing is lost before it is evicted. -/
theorem saved_of_get? (c : TofuCall)
    (hget : store.get? peerIdHex = some r) : ∃ r', (c.saved store).get? peerIdHex = some r' := by
  have hset : ∀ r₁, ∃ r', (store.set c.peerIdHex r₁).get? peerIdHex = some r' := by
    intro r₁
    rw [InsMap.get?_set]
    split
    · exact ⟨r₁, rfl⟩
    · exact ⟨r, hget⟩
  rcases run_cases c store with ⟨-, hsaved, -⟩ | ⟨r₀, -, -, hsaved, -⟩ | ⟨-, -, -, hsaved, -⟩
  · rw [hsaved]
    exact hset _
  · rw [hsaved]
    exact hset _
  · rw [hsaved]
    exact ⟨r, hget⟩

theorem Pinned.run (h : Pinned c.now store) : Pinned c.now (c.run store).1 := by
  rw [run_fst h.size]
  refine ⟨size_tofuEvict _, fun e he => ?_⟩
  have hkept : (tofuEvict (c.saved store)).get? e.1 = some e.2 := InsMap.get?_eq_some.mpr he
  rcases get?_saved (get?_of_tofuEvict hkept) with hold | ⟨-, hnow, -, -⟩
  · exact h.seen e (InsMap.get?_eq_some.mp hold)
  · exact le_of_eq hnow

/-- A record that survives the check keeps its key. -/
theorem Pinned.key (h : Pinned c.now store) (hget : store.get? peerIdHex = some r)
    (hrun : (c.run store).1.get? peerIdHex = some r') : r'.pubkeyB64 = r.pubkeyB64 := by
  rw [run_fst h.size] at hrun
  rcases get?_saved (get?_of_tofuEvict hrun) with hold | ⟨-, -, -, hsame⟩
  · rw [hget] at hold
    cases hold
    rfl
  · exact (hsame r hget).symm

/-- A key is trusted against a record only if it is the record's. -/
theorem key_of_trusted (hget : store.get? c.peerIdHex = some r)
    (htrusts : (c.run store).2.trusted = true) : r.pubkeyB64 = c.pubkeyB64 := by
  rcases run_cases c store with ⟨hnone, -, -⟩ | ⟨r₀, hr₀, hkey, -⟩ | ⟨r₀, -, -, -, hrun⟩
  · rw [hnone] at hget
    cases hget
  · rw [hr₀] at hget
    cases hget
    exact hkey
  · rw [hrun] at htrusts
    cases htrusts

/-- **What is trusted is stored.** -/
theorem Pinned.stored (h : Pinned c.now store) (htrusts : (c.run store).2.trusted = true) :
    ∃ r, (c.run store).1.get? c.peerIdHex = some r ∧ r.pubkeyB64 = c.pubkeyB64 := by
  rcases run_cases c store with ⟨hnone, hsaved, hrun⟩ | ⟨r, hr, hkey, hsaved, hrun⟩ |
    ⟨r, -, -, -, hrun⟩
  · refine ⟨⟨c.pubkeyB64, c.now, c.now⟩, ?_, rfl⟩
    rw [hrun, hsaved]
    exact get?_tofuEvict_new hnone h.seen
  · refine ⟨{ r with lastSeen := c.now }, ?_, hkey⟩
    have hsize : (store.set c.peerIdHex { r with lastSeen := c.now }).size ≤ TOFU_MAX_ENTRIES := by
      have hcount := InsMap.countP_set (fun _ => true) store c.peerIdHex
        { r with lastSeen := c.now }
      rw [hr, ← InsMap.size_eq_countP, ← InsMap.size_eq_countP] at hcount
      have hone : (some r).toList.countP (fun _ => true) = 1 := rfl
      have hone' : [{ r with lastSeen := c.now }].countP (fun _ => true) = 1 := rfl
      have hle := h.size
      omega
    rw [hrun, hsaved, tofuEvict_of_le hsize, InsMap.get?_set_self]
  · rw [hrun] at htrusts
    cases htrusts

end Check

/-! ## Sequences of checks -/

/-- The clock does not run backwards. -/
def Chronological (calls : List TofuCall) : Prop := calls.Pairwise fun a b => a.now ≤ b.now

theorem pinned_tofuRun (calls : List TofuCall) (h : Chronological calls) {now : ℕ}
    (hnow : ∀ c ∈ calls, c.now ≤ now) : Pinned now (tofuRun calls) := by
  induction calls using List.reverseRecOn generalizing now with
  | nil => exact ⟨Nat.zero_le _, fun e he => absurd he (List.not_mem_nil)⟩
  | append_singleton calls c ih =>
      obtain ⟨hcalls, -, hlast⟩ := List.pairwise_append.mp h
      have hbefore : Pinned c.now (tofuRun calls) :=
        ih hcalls fun d hd => hlast d hd c (List.mem_singleton_self c)
      rw [tofuRun_concat]
      exact hbefore.run.mono (hnow c (by simp))

/-- Before a call of a sequence. -/
theorem Chronological.pinned {pre : List TofuCall} (post : List TofuCall) {c : TofuCall}
    (h : Chronological (pre ++ c :: post)) : Pinned c.now (tofuRun pre) := by
  obtain ⟨hpre, -, hcross⟩ := List.pairwise_append.mp h
  exact pinned_tofuRun pre hpre fun d hd => hcross d hd c List.mem_cons_self

/-- While it is not evicted, a record keeps its key. -/
theorem key_of_not_evicted {peerIdHex : PeerIdHex} {r : TofuRecord} {pre : List TofuCall}
    (hget : (tofuRun pre).get? peerIdHex = some r) (mid : List TofuCall)
    (h : Chronological (pre ++ mid))
    (hkept : ∀ front d back, mid = front ++ d :: back → ∀ r', ¬ Evicts (pre ++ front) d peerIdHex r') :
    ∃ r', (tofuRun (pre ++ mid)).get? peerIdHex = some r' ∧ r'.pubkeyB64 = r.pubkeyB64 := by
  induction mid using List.reverseRecOn with
  | nil => exact ⟨r, by rw [List.append_nil]; exact hget, rfl⟩
  | append_singleton mid d ih =>
      rw [← List.append_assoc] at h ⊢
      obtain ⟨r₁, hr₁, hkey₁⟩ := ih (List.pairwise_append.mp h).1 fun front e back heq =>
        hkept front e (back ++ [d]) (by rw [heq, List.append_assoc]; rfl)
      have hpinned : Pinned d.now (tofuRun (pre ++ mid)) := Chronological.pinned [] h
      obtain ⟨saved, hsaved⟩ := saved_of_get? d hr₁
      have hstays := hkept mid d [] rfl saved
      rw [Evicts, not_and] at hstays
      obtain ⟨r₂, hr₂⟩ := Option.ne_none_iff_exists'.mp (hstays hsaved)
      refine ⟨r₂, hr₂, ?_⟩
      rw [tofuRun_concat] at hr₂
      exact (hpinned.key hr₁ hr₂).trans hkey₁

/-- What the checks of a sequence do to the pins. -/
structure PinsHold (calls : List TofuCall) : Prop where
  bounded : (tofuRun calls).size ≤ TOFU_MAX_ENTRIES
  /-- Another key than the pinned one is refused, and nothing is stored. -/
  mismatch : ∀ pre c post r, calls = pre ++ c :: post →
    (tofuRun pre).get? c.peerIdHex = some r → r.pubkeyB64 ≠ c.pubkeyB64 →
    c.run (tofuRun pre) = (tofuRun pre, ⟨false, true⟩)
  /-- Two trusted checks of an id with no eviction of it in between. -/
  one_key : ∀ pre c mid c' post, calls = pre ++ c :: (mid ++ c' :: post) →
    c'.peerIdHex = c.peerIdHex → Trusts pre c → Trusts (pre ++ c :: mid) c' →
    (∀ front d back, mid = front ++ d :: back →
      ∀ r, ¬ Evicts (pre ++ c :: front) d c.peerIdHex r) →
    c'.pubkeyB64 = c.pubkeyB64
  oldest : ∀ pre c post peerIdHex r peerIdHex' r', calls = pre ++ c :: post →
    Evicts pre c peerIdHex r → (tofuRun (pre ++ [c])).get? peerIdHex' = some r' →
    r.lastSeen ≤ r'.lastSeen
  stored : ∀ pre c post, calls = pre ++ c :: post → Trusts pre c →
    ∃ r, (tofuRun (pre ++ [c])).get? c.peerIdHex = some r ∧ r.pubkeyB64 = c.pubkeyB64

/-- **The pins hold**, whatever is checked in whatever order. -/
theorem pins_hold (calls : List TofuCall) (h : Chronological calls) : PinsHold calls where
  bounded := by
    cases calls using List.reverseRecOn with
    | nil => exact Nat.zero_le _
    | append_singleton calls c =>
        have hpinned : Pinned c.now (tofuRun calls) := Chronological.pinned [] h
        rw [tofuRun_concat]
        exact hpinned.run.size
  mismatch := by
    rintro pre c post r rfl hget hkey
    rcases run_cases c (tofuRun pre) with ⟨hnone, -⟩ | ⟨r₀, hr₀, hsame, -⟩ | ⟨-, -, -, -, hrun⟩
    · rw [hnone] at hget
      cases hget
    · rw [hr₀] at hget
      cases hget
      exact absurd hsame hkey
    · exact hrun
  one_key := by
    rintro pre c mid c' post rfl hid htrusts htrusts' hkept
    obtain ⟨r, hr, hkey⟩ := h.pinned.stored htrusts
    rw [← tofuRun_concat] at hr
    have hmono : Chronological ((pre ++ c :: mid) ++ c' :: post) := by
      rw [List.append_assoc]
      exact h
    obtain ⟨r', hr', hkey'⟩ := key_of_not_evicted hr mid
      (by rw [List.append_assoc]; exact (List.pairwise_append.mp hmono).1)
      (fun front d back heq r'' => by rw [List.append_assoc]; exact hkept front d back heq r'')
    rw [List.append_assoc, ← hid] at hr'
    exact ((key_of_trusted hr' htrusts').symm.trans hkey').trans hkey
  oldest := by
    rintro pre c post peerIdHex r peerIdHex' r' rfl ⟨hsaved, hgone⟩ hkept
    rw [tofuRun_concat, run_fst h.pinned.size] at hgone hkept
    exact lastSeen_le_of_evicted hsaved hgone hkept
  stored := by
    rintro pre c post rfl htrusts
    rw [tofuRun_concat]
    exact h.pinned.stored htrusts

/-- Two peers are met, then one of them comes back with another key. -/
theorem pins_hold_key_change :
    PinsHold [⟨"a", "key", 1⟩, ⟨"b", "key", 1⟩, ⟨"a", "other", 2⟩] :=
  pins_hold _ (by unfold Chronological; decide)

end Oxpulse.Transport
