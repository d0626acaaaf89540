import Oxpulse.Transport.FrameSizes

/-!
# What a reassembler returns

`pushWithType` with one object over a sequence of chunks, whether it returns or
throws. The chunks of one frame come in any order and any number of times, and
the frame comes out with the last missing one (`reassembles_any_order`). Out of
arbitrary bytes a frame that comes out is complete as long as no slot beyond its
total goes into it (`returns_complete`): the sequence number is not compared
with the total.

A chunk is as long as the MTU, which leaves no room for the three bytes that a
write takes (`chunks_fit_iff`). The length of its data has one byte in the header,
so that from an MTU of 260 on `chunkFrame` returns chunks that the reassembler
refuses (`chunks_reassemble_iff`).
-/

namespace Oxpulse.Transport

open Oxpulse.Crypto FrameReassembler

/-! ## One push -/

namespace FrameReassembler

variable {r r' : FrameReassembler}

/-- A frame that is returned is what the slots hold. -/
theorem storeChunk_returns {total seq : ℕ} {ft : FrameType} {data : Bytes}
    {frame : ReassembledFrame} (h : storeChunk total seq ft data r = (r', .ok (some frame))) :
    r' = new ∧ frame.frameType = r.currentFrameType.getD ft ∧
      joinSlots (setSlot seq data r.slots) = some frame.payload := by
  unfold storeChunk at h
  split at h
  · cases h
  dsimp only at h
  split at h
  · cases h
  split at h
  next => cases h
  next payload hjoin =>
    cases h
    exact ⟨rfl, rfl, hjoin⟩

/-- A push that returns nothing keeps the open frame, with at most one slot more. -/
theorem storeChunk_keeps {total seq : ℕ} {ft : FrameType} {data : Bytes}
    (h : ∀ frame, (storeChunk total seq ft data r).2 ≠ .ok (some frame)) :
    ∃ slots received, (storeChunk total seq ft data r).1 = { r with slots, received } ∧
      (slots = r.slots ∨ slots = setSlot seq data r.slots) := by
  unfold storeChunk at h ⊢
  split
  · exact ⟨r.slots, r.received, rfl, Or.inl rfl⟩
  next hfree =>
    rw [if_neg hfree] at h
    dsimp only at h ⊢
    split
    · exact ⟨_, _, rfl, Or.inr rfl⟩
    next hcount =>
      rw [if_neg hcount] at h
      split
      next => exact ⟨_, _, rfl, Or.inr rfl⟩
      next payload hjoin =>
        rw [hjoin] at h
        exact absurd rfl (h _)

theorem joinSlots_eq_some : ∀ {slots : List (Option Bytes)} {payload : Bytes},
    joinSlots slots = some payload → ∃ data : ℕ → Bytes,
      (∀ seq < slots.length, slots.getD seq none = some (data seq)) ∧
      payload = (List.range slots.length).flatMap data
  | [], payload, h => by
      cases h
      exact ⟨fun _ => [], fun _ hlt => absurd hlt (Nat.not_lt_zero _), rfl⟩
  | none :: _, _, h => by cases h
  | some first :: slots, payload, h => by
      obtain ⟨rest, hrest, rfl⟩ := Option.map_eq_some_iff.mp h
      obtain ⟨data, hdata, rfl⟩ := joinSlots_eq_some hrest
      refine ⟨fun seq => seq.casesOn first data, fun seq hlt => ?_, ?_⟩
      · cases seq with
        | zero => rfl
        | succ seq => exact hdata seq (Nat.lt_of_succ_lt_succ hlt)
      · rw [List.length_cons, List.range_succ_eq_map, List.flatMap_cons, List.flatMap_map]
        rfl

/-- The reassembler after the chunks, whether a push returns or throws. -/
def pushAll (r : FrameReassembler) (chunks : List Bytes) : FrameReassembler :=
  chunks.foldl (fun r chunk => (r.pushWithType chunk).1) r

theorem pushAll_append_singleton (chunks : List Bytes) (chunk : Bytes) :
    pushAll r (chunks ++ [chunk]) = ((pushAll r chunks).pushWithType chunk).1 :=
  List.foldl_append ..

end FrameReassembler

/-! ## The chunks of one frame, in any order -/

namespace CutFrame

variable (f : CutFrame)

/-- The slots when these chunks are there. -/
def slotsOf (F : Finset ℕ) : List (Option Bytes) :=
  (List.range f.total).map fun i => if i ∈ F then some (f.slice i) else none

/-- The reassembler that received these chunks and no others. -/
def holding (F : Finset ℕ) : FrameReassembler :=
  if F = ∅ then new
  else
    { slots := f.slotsOf F
      expectedTotal := f.total
      received := F.card
      currentFrameType := some f.frameType }

theorem length_slotsOf (F : Finset ℕ) : (f.slotsOf F).length = f.total := by
  unfold slotsOf
  rw [List.length_map, List.length_range]

theorem getD_slotsOf (F : Finset ℕ) {i : ℕ} (hi : i < f.total) :
    (f.slotsOf F).getD i none = if i ∈ F then some (f.slice i) else none := by
  unfold slotsOf
  rw [List.getD_eq_getElem?_getD, List.getElem?_map, List.getElem?_range hi]
  rfl

theorem slotsOf_empty : f.slotsOf ∅ = List.replicate f.total none := by
  unfold slotsOf
  simp only [Finset.notMem_empty, if_false]
  rw [List.map_const', List.length_range]

theorem setSlot_slotsOf (F : Finset ℕ) {seq : ℕ} (hseq : seq < f.total) :
    setSlot seq (f.slice seq) (f.slotsOf F) = f.slotsOf (insert seq F) := by
  have hlen : (setSlot seq (f.slice seq) (f.slotsOf F)).length = f.total := by
    rw [length_setSlot, length_slotsOf]
    omega
  apply List.ext_getElem
  · rw [hlen, length_slotsOf]
  intro i hi hi'
  have hlt : i < f.total := hlen ▸ hi
  rw [← List.getD_eq_getElem _ none hi, ← List.getD_eq_getElem _ none hi', getD_setSlot,
    getD_slotsOf f F hlt, getD_slotsOf f _ hlt]
  by_cases heq : i = seq
  · subst heq
    rw [if_pos rfl, if_pos (Finset.mem_insert_self i F)]
  · rw [if_neg heq]
    simp only [Finset.mem_insert, heq, false_or]

theorem joinSlots_slotsOf : joinSlots (f.slotsOf (Finset.range f.total)) = some f.payload := by
  have hslots : f.slotsOf (Finset.range f.total) =
      ((List.range f.total).map f.slice).map some := by
    unfold slotsOf
    rw [List.map_map]
    refine List.map_congr_left fun i hi => ?_
    rw [if_pos (Finset.mem_range.mpr (List.mem_range.mp hi))]
    rfl
  rw [hslots, joinSlots_map_some, ← List.flatMap_def, f.flatMap_slices]

/-- What the next chunk finds. -/
theorem openFrame_holding (F : Finset ℕ) :
    openFrame f.total f.frameType (f.holding F) =
      .ok ⟨f.slotsOf F, f.total, F.card, some f.frameType⟩ := by
  unfold holding
  split
  next h =>
    subst h
    rw [openFrame_new, slotsOf_empty]
    rfl
  next =>
    unfold openFrame
    dsimp only
    rw [if_neg (Nat.ne_of_gt f.total_pos), if_neg (not_not.mpr rfl), if_neg (not_not.mpr rfl)]

/-- **One chunk.** The last missing one returns the frame. -/
theorem push_holding {F : Finset ℕ} (hF : F ⊂ Finset.range f.total) {seq : ℕ}
    (hseq : seq < f.total) :
    (f.holding F).pushWithType (f.chunk seq) =
      if insert seq F = Finset.range f.total then (new, .ok (some f.frame))
      else (f.holding (insert seq F), .ok none) := by
  rw [push_of_ofBytes (f.ofBytes_chunk hseq)]
  dsimp only
  rw [f.openFrame_holding F]
  unfold storeChunk
  dsimp only
  rw [getD_slotsOf f F hseq]
  by_cases hmem : seq ∈ F
  · -- A duplicate.
    have hne : F.Nonempty := ⟨seq, hmem⟩
    rw [Finset.insert_eq_of_mem hmem, if_neg hF.ne, if_pos hmem, Option.isSome_some, if_pos rfl]
    unfold holding
    rw [if_neg hne.ne_empty]
  · have hne : (insert seq F).Nonempty := Finset.insert_nonempty seq F
    have hcard : (insert seq F).card = F.card + 1 := Finset.card_insert_of_notMem hmem
    have hsub : insert seq F ⊆ Finset.range f.total :=
      Finset.insert_subset (Finset.mem_range.mpr hseq) hF.subset
    rw [if_neg hmem, if_neg (by simp), setSlot_slotsOf f F hseq]
    by_cases hfull : insert seq F = Finset.range f.total
    · rw [if_pos hfull, if_neg, hfull, joinSlots_slotsOf]
      · rfl
      · rw [← hcard, hfull, Finset.card_range]
        exact lt_irrefl _
    · have hlt := Finset.card_lt_card (hsub.ssubset_of_ne hfull)
      rw [Finset.card_range, hcard] at hlt
      rw [if_neg hfull, if_pos hlt]
      unfold holding
      rw [if_neg hne.ne_empty, hcard]

theorem chunk_injective {i j : ℕ} (hi : i < f.total) (hj : j < f.total)
    (h : f.chunk i = f.chunk j) : i = j := by
  have hi' := f.ofBytes_chunk hi
  rw [h, f.ofBytes_chunk hj] at hi'
  cases hi'
  rfl

/-- **Many chunks.** As long as one is missing, the reassembler holds those that
came and returns nothing. -/
theorem pushAll_holding {missing : ℕ} (hmissing : missing < f.total) (pre : List Bytes)
    (hpre : ∀ chunk ∈ pre, chunk ∈ f.chunks) (hnot : f.chunk missing ∉ pre) :
    ∃ F ⊂ Finset.range f.total, missing ∉ F ∧
      (∀ seq, seq < f.total → f.chunk seq ∈ pre → seq ∈ F) ∧
      pushAll new pre = f.holding F := by
  induction pre using List.reverseRecOn with
  | nil =>
      refine ⟨∅, ?_, Finset.notMem_empty _, fun seq _ hmem => absurd hmem List.not_mem_nil, ?_⟩
      · rw [Finset.empty_ssubset]
        exact ⟨missing, Finset.mem_range.mpr hmissing⟩
      · unfold holding
        rw [if_pos rfl]
        rfl
  | append_singleton pre chunk ih =>
      obtain ⟨F, hF, hfree, hall, hrun⟩ := ih
        (fun c hc => hpre c (List.mem_append_left _ hc))
        (fun hmem => hnot (List.mem_append_left _ hmem))
      have hchunk := hpre chunk (List.mem_append_right _ (List.mem_singleton_self chunk))
      rw [chunks_eq, List.mem_map] at hchunk
      obtain ⟨seq, hseq, rfl⟩ := hchunk
      rw [List.mem_range] at hseq
      have hne : missing ≠ seq := by
        rintro rfl
        exact hnot (List.mem_append_right _ (List.mem_singleton_self _))
      have hfree' : missing ∉ insert seq F := by
        rw [Finset.mem_insert]
        exact fun h => h.elim hne hfree
      have hpart : insert seq F ≠ Finset.range f.total := by
        intro heq
        rw [heq] at hfree'
        exact hfree' (Finset.mem_range.mpr hmissing)
      have hsub : insert seq F ⊆ Finset.range f.total :=
        Finset.insert_subset (Finset.mem_range.mpr hseq) hF.subset
      refine ⟨insert seq F, hsub.ssubset_of_ne hpart, hfree', fun i hi hmem => ?_, ?_⟩
      · rcases List.mem_append.mp hmem with hmem | hmem
        · exact Finset.mem_insert_of_mem (hall i hi hmem)
        · rw [f.chunk_injective hi hseq (List.mem_singleton.mp hmem)]
          exact Finset.mem_insert_self seq F
      · rw [pushAll_append_singleton, hrun, f.push_holding hF hseq, if_neg hpart]

/-- **The last missing chunk.** -/
theorem push_last {last : ℕ} (hlast : last < f.total) (pre : List Bytes)
    (hpre : ∀ chunk ∈ pre, chunk ∈ f.chunks) (hnot : f.chunk last ∉ pre)
    (hrest : ∀ chunk ∈ f.chunks, chunk ≠ f.chunk last → chunk ∈ pre) :
    (pushAll new pre).pushWithType (f.chunk last) = (new, .ok (some f.frame)) := by
  obtain ⟨F, hF, -, hall, hrun⟩ := f.pushAll_holding hlast pre hpre hnot
  have hfull : insert last F = Finset.range f.total := by
    apply Finset.Subset.antisymm
    · exact Finset.insert_subset (Finset.mem_range.mpr hlast) hF.subset
    intro seq hseq
    rw [Finset.mem_range] at hseq
    rw [Finset.mem_insert]
    by_cases heq : seq = last
    · exact Or.inl heq
    · have hchunk : f.chunk seq ∈ f.chunks := by
        rw [chunks_eq]
        exact List.mem_map_of_mem (List.mem_range.mpr hseq)
      exact Or.inr (hall seq hseq
        (hrest _ hchunk fun h => heq (f.chunk_injective hseq hlast h)))
  rw [hrun, f.push_holding hF hlast, if_pos hfull]

/-- Before the last missing chunk nothing is returned. -/
theorem push_early {last : ℕ} (hlast : last < f.total) {pre chunk post}
    (hpre : ∀ c ∈ pre ++ chunk :: post, c ∈ f.chunks)
    (hnot : f.chunk last ∉ pre ++ chunk :: post) :
    ((pushAll new pre).pushWithType chunk).2 = .ok none := by
  obtain ⟨F, hF, hfree, -, hrun⟩ := f.pushAll_holding hlast pre
    (fun c hc => hpre c (List.mem_append_left _ hc))
    (fun hmem => hnot (List.mem_append_left _ hmem))
  have hchunk := hpre chunk (List.mem_append_right _ List.mem_cons_self)
  rw [chunks_eq, List.mem_map] at hchunk
  obtain ⟨seq, hseq, rfl⟩ := hchunk
  rw [List.mem_range] at hseq
  have hpart : insert seq F ≠ Finset.range f.total := by
    intro heq
    have hmem := Finset.mem_range.mpr hlast
    rw [← heq, Finset.mem_insert] at hmem
    refine hmem.elim (fun h => ?_) hfree
    subst h
    exact hnot (List.mem_append_right _ List.mem_cons_self)
  rw [hrun, f.push_holding hF hseq, if_neg hpart]

end CutFrame

/-- **Reassembly inverts chunking, in any order.** The chunks of a frame are
pushed to a fresh reassembler, any number of times each, until a last one is
missing: until then nothing is returned, and with the last one the frame comes
out and the reassembler is as it was. -/
theorem reassembles_any_order {payload : Bytes} {mtu : ℕ} {frameType : FrameType}
    {chunks : List Bytes} (hmtu : 5 ≤ mtu ∧ mtu ≤ 247)
    (hcut : chunkFrame payload mtu frameType = .ok chunks) {pushed : List Bytes} {last : Bytes}
    (hpushed : ∀ chunk ∈ pushed, chunk ∈ chunks) (hlast : last ∈ chunks)
    (hmissing : last ∉ pushed) (hrest : ∀ chunk ∈ chunks, chunk ≠ last → chunk ∈ pushed) :
    (∀ pre chunk post, pushed = pre ++ chunk :: post →
      ((pushAll new pre).pushWithType chunk).2 = .ok none) ∧
    (pushAll new pushed).pushWithType last = (new, .ok (some ⟨frameType, payload⟩)) := by
  have hclamp : mtu = clampMtu (.ok (mtu : ℤ)) := by
    unfold clampMtu
    dsimp only
    rw [if_pos ⟨by omega, by exact_mod_cast hmtu.2⟩]
    rfl
  let f : CutFrame := ⟨payload, mtu, frameType, chunks, ⟨_, hclamp⟩, hcut⟩
  have hmem : last ∈ f.chunks := hlast
  rw [f.chunks_eq, List.mem_map] at hmem
  obtain ⟨seq, hseq, rfl⟩ := hmem
  rw [List.mem_range] at hseq
  constructor
  · rintro pre chunk post rfl
    exact f.push_early hseq hpushed hmissing
  · exact f.push_last hseq pushed hpushed hmissing hrest

/-- The second chunk comes twice, then the first one. -/
theorem reassembles_any_order_sample :
    let payload : Bytes := List.replicate 20 7
    let chunk := chunkAt payload 19 2 FrameType.SessionData
    (pushAll new [chunk 1, chunk 1]).pushWithType (chunk 0) =
      (new, .ok (some ⟨FrameType.SessionData, payload⟩)) := by
  intro payload chunk
  have hcut : chunkFrame payload 23 FrameType.SessionData = .ok [chunk 0, chunk 1] := by
    decide +kernel
  exact (reassembles_any_order (by decide) hcut (by decide +kernel) (by decide +kernel)
    (by decide +kernel) (by decide +kernel)).2

/-! ## Arbitrary chunks -/

/-- The reassembler after the chunks, with those that were pushed since it last
returned a frame. -/
def pushSince (s : FrameReassembler × List Bytes) (chunk : Bytes) :
    FrameReassembler × List Bytes :=
  match s.1.pushWithType chunk with
  | (r, .ok (some _)) => (r, [])
  | (r, _) => (r, s.2 ++ [chunk])

def pushedSince (chunks : List Bytes) : FrameReassembler × List Bytes :=
  chunks.foldl pushSince (new, [])

theorem pushedSince_append_singleton (chunks : List Bytes) (chunk : Bytes) :
    pushedSince (chunks ++ [chunk]) = pushSince (pushedSince chunks) chunk :=
  List.foldl_append ..

/-- The chunks of the frame are among these: as many as their total says, one
for each sequence number, and their data is the payload. -/
def Complete (chunks : List Bytes) (frame : ReassembledFrame) : Prop :=
  ∃ n, 1 ≤ n ∧ n ≤ 16 ∧ ∃ data : ℕ → Bytes,
    (∀ seq < n, ∃ chunk ∈ chunks,
      Chunk.ofBytes chunk = some ⟨frame.frameType, seq, n, data seq⟩) ∧
    frame.payload = (List.range n).flatMap data

/-- When the chunk leaves no hole in the slots, none of them lies beyond its
total: not that of the chunk, nor one that was filled before. -/
def Within (r : FrameReassembler) (chunk : Bytes) : Prop :=
  ∀ c r', Chunk.ofBytes chunk = some c → openFrame c.total c.frameType r = .ok r' →
    (joinSlots (setSlot c.seq c.data r'.slots)).isSome →
      c.seq < c.total ∧ r'.slots.length ≤ c.total

/-- What is in the slots of an open frame was pushed since. -/
structure Gathered (r : FrameReassembler) (since : List Bytes) : Prop where
  slots : ∀ ft, r.currentFrameType = some ft → ∀ seq data,
    r.slots.getD seq none = some data → ∃ chunk ∈ since,
      Chunk.ofBytes chunk = some ⟨ft, seq, r.expectedTotal, data⟩
  length : r.expectedTotal ≤ r.slots.length
  typed : r.expectedTotal ≠ 0 → r.currentFrameType.isSome

namespace Gathered

variable {r r' : FrameReassembler} {since since' : List Bytes} {c : Chunk} {chunk : Bytes}

theorem new : Gathered FrameReassembler.new since where
  slots _ h := nomatch h
  length := Nat.le_refl 0
  typed h := absurd rfl h

theorem mono (h : Gathered r since) (hsub : ∀ chunk ∈ since, chunk ∈ since') :
    Gathered r since' where
  slots ft hft seq data hdata := by
    obtain ⟨chunk, hmem, hchunk⟩ := h.slots ft hft seq data hdata
    exact ⟨chunk, hsub chunk hmem, hchunk⟩
  length := h.length
  typed := h.typed

/-- A frame is opened with empty slots, whatever the counter says. -/
theorem openFrame (h : Gathered r since) (hopen : openFrame c.total c.frameType r = .ok r') :
    Gathered r' since ∧ r'.expectedTotal = c.total ∧ r'.currentFrameType = some c.frameType := by
  unfold FrameReassembler.openFrame at hopen
  split at hopen
  · cases hopen
    refine ⟨⟨fun ft _ seq data hdata => ?_, ?_, fun _ => rfl⟩, rfl, rfl⟩
    · dsimp only at hdata
      rw [getD_replicate_none] at hdata
      cases hdata
    · rw [List.length_replicate]
  split at hopen
  · cases hopen
  next htotal =>
    split at hopen
    · cases hopen
    next htype =>
      cases hopen
      exact ⟨h, not_not.mp htotal, not_not.mp htype⟩

theorem setSlot (h : Gathered r since) (hchunk : Chunk.ofBytes chunk = some c)
    (htotal : r.expectedTotal = c.total) (htype : r.currentFrameType = some c.frameType)
    (received : ℕ) :
    Gathered { r with slots := setSlot c.seq c.data r.slots, received } (since ++ [chunk]) where
  slots ft hft seq data hdata := by
    have hft' : r.currentFrameType = some ft := hft
    dsimp only at hdata ⊢
    rw [getD_setSlot] at hdata
    by_cases hseq : seq = c.seq
    · rw [if_pos hseq] at hdata
      cases hdata
      rw [htype] at hft'
      cases hft'
      rw [htotal, hseq]
      exact ⟨chunk, List.mem_append_right _ (List.mem_singleton_self _), hchunk⟩
    · rw [if_neg hseq] at hdata
      obtain ⟨chunk', hmem, hchunk'⟩ := h.slots ft hft' seq data hdata
      exact ⟨chunk', List.mem_append_left _ hmem, hchunk'⟩
  length := by
    dsimp only
    rw [length_setSlot]
    exact h.length.trans (le_max_left _ _)
  typed _ := by
    dsimp only
    rw [htype]
    rfl

/-- A push that returns nothing, or throws. -/
theorem push (h : Gathered r since)
    (hnone : ∀ frame, (r.pushWithType chunk).2 ≠ .ok (some frame)) :
    Gathered (r.pushWithType chunk).1 (since ++ [chunk]) := by
  have hold : ∀ chunk' ∈ since, chunk' ∈ since ++ [chunk] :=
    fun chunk' hmem => List.mem_append_left _ hmem
  rcases push_cases chunk r with ⟨e, heq⟩ | ⟨c, r', hchunk, hopen, heq⟩
  · rw [heq]
    exact h.mono hold
  · obtain ⟨hr', htotal, htype⟩ := h.openFrame hopen
    rw [heq] at hnone ⊢
    obtain ⟨slots, received, heq', hslots⟩ := storeChunk_keeps hnone
    rw [heq']
    rcases hslots with rfl | rfl
    · exact ⟨(hr'.mono hold).slots, hr'.length, hr'.typed⟩
    · exact hr'.setSlot hchunk htotal htype received

/-- **One push.** A frame whose slots lie within its total is complete. -/
theorem complete (h : Gathered r since) (hwithin : Within r chunk) {frame : ReassembledFrame}
    (hpush : (r.pushWithType chunk).2 = .ok (some frame)) :
    Complete (since ++ [chunk]) frame := by
  rcases push_cases chunk r with ⟨e, heq⟩ | ⟨c, r', hchunk, hopen, heq⟩
  · rw [heq] at hpush
    cases hpush
  · obtain ⟨hr', htotal, htype⟩ := h.openFrame hopen
    rw [heq] at hpush
    obtain ⟨-, hframe, hjoin⟩ := storeChunk_returns (Prod.ext rfl hpush)
    rw [htype, Option.getD_some] at hframe
    obtain ⟨hseq, hlength⟩ := hwithin c r' hchunk hopen (by rw [hjoin]; rfl)
    have hslots := hr'.setSlot hchunk htotal htype r'.received
    -- The slots are as many as the total says.
    have hcount : (FrameReassembler.setSlot c.seq c.data r'.slots).length = c.total := by
      have hmin := hr'.length
      rw [htotal] at hmin
      rw [length_setSlot]
      omega
    obtain ⟨data, hdata, hpayload⟩ := joinSlots_eq_some hjoin
    rw [hcount] at hdata hpayload
    refine ⟨c.total, by omega, Chunk.ofBytes_total_le hchunk, data, fun seq hlt => ?_, hpayload⟩
    rw [hframe, ← htotal]
    exact hslots.slots c.frameType htype seq (data seq) (hdata seq hlt)

end Gathered

theorem gathered_pushedSince (chunks : List Bytes) :
    Gathered (pushedSince chunks).1 (pushedSince chunks).2 := by
  induction chunks using List.reverseRecOn with
  | nil => exact Gathered.new
  | append_singleton chunks chunk ih =>
      rw [pushedSince_append_singleton]
      unfold pushSince
      split
      next r frame heq =>
        rcases push_cases chunk (pushedSince chunks).1 with ⟨e, heq'⟩ | ⟨c, r', -, -, heq'⟩
        · rw [heq'] at heq
          cases heq
        · rw [heq'] at heq
          rw [(storeChunk_returns heq).1]
          exact Gathered.new
      next r result hnone heq =>
        have hnot : ∀ frame, ((pushedSince chunks).1.pushWithType chunk).2 ≠ .ok (some frame) := by
          intro frame hframe
          rw [heq] at hframe
          exact hnone frame hframe
        have hpush := ih.push hnot
        rw [heq] at hpush
        exact hpush

/-- **Only complete frames are returned**, in every run in which no slot beyond
the total of a frame goes into it. -/
theorem returns_complete {chunks : List Bytes}
    (hwithin : ∀ pre chunk post, chunks = pre ++ chunk :: post →
      Within (pushedSince pre).1 chunk) :
    ∀ pre chunk post, chunks = pre ++ chunk :: post → ∀ frame,
      ((pushedSince pre).1.pushWithType chunk).2 = .ok (some frame) →
      Complete ((pushedSince pre).2 ++ [chunk]) frame := by
  intro pre chunk post heq frame hframe
  exact (gathered_pushedSince pre).complete (hwithin pre chunk post heq) hframe

/-- One chunk after another, each a frame of its own. -/
theorem returns_complete_sample :
    let chunk : UInt8 → Bytes := fun b => [FRAME_MAGIC, 0x30, 1, 1, b]
    Complete ((pushedSince [chunk 7]).2 ++ [chunk 8]) ⟨FrameType.SessionData, [8]⟩ := by
  intro chunk
  have hwithin : ∀ b, Within new (chunk b) := by
    intro b c r' hc hopen _
    cases hc
    cases hopen
    exact ⟨Nat.zero_lt_one, le_refl 1⟩
  have hall : ∀ pre c post, [chunk 7, chunk 8] = pre ++ c :: post →
      Within (pushedSince pre).1 c := by
    intro pre c post h
    rcases pre with _ | ⟨first, _ | ⟨second, pre⟩⟩
    · cases h
      exact hwithin 7
    · cases h
      exact hwithin 8
    · simp at h
  exact returns_complete hall [chunk 7] (chunk 8) [] rfl _ (by decide +kernel)

/-- A chunk that says it belongs to a frame of no chunks is returned as one. -/
theorem returns_frame_of_no_chunks :
    ¬ ∀ pre chunk frame, ((pushedSince pre).1.pushWithType chunk).2 = .ok (some frame) →
      Complete ((pushedSince pre).2 ++ [chunk]) frame := by
  intro h
  obtain ⟨n, hpos, -, data, hdata, -⟩ :=
    h [] [FRAME_MAGIC, 0x30, 0, 1, 7] ⟨FrameType.SessionData, [7]⟩ (by decide +kernel)
  obtain ⟨chunk, hmem, hchunk⟩ := hdata 0 hpos
  rw [List.mem_singleton.mp hmem] at hchunk
  have htotal : Chunk.ofBytes [FRAME_MAGIC, 0x30, 0, 1, 7] =
      some ⟨FrameType.SessionData, 0, 0, [7]⟩ := by rfl
  rw [htotal] at hchunk
  have hn : 0 = n := congrArg Chunk.total (Option.some.inj hchunk)
  rw [← hn] at hpos
  exact absurd hpos (by decide)

/-! ## One write for each chunk -/

namespace CutFrame

variable (f : CutFrame)

theorem length_chunk (seq : ℕ) : (f.chunk seq).length = FRAME_HEADER_LEN + (f.slice seq).length :=
  Nat.add_comm (f.slice seq).length 4

theorem data_chunks : f.chunks.flatMap (List.drop FRAME_HEADER_LEN) = f.payload := by
  rw [chunks_eq, List.flatMap_map, ← f.flatMap_slices]
  rfl

/-- The chunks fit if and only if the payload fits with its header into one. -/
theorem chunks_le_iff :
    (∀ chunk ∈ f.chunks, chunk.length + 3 ≤ f.mtu) ↔ f.payload.length + 7 ≤ f.mtu := by
  have hmtu : FRAME_HEADER_LEN < f.mtu := (chunkFrame_eq_ok.mp f.cut).1.2.1
  have hheader : FRAME_HEADER_LEN = 4 := rfl
  rw [hheader] at hmtu
  constructor
  · intro h
    have hfirst := h (f.chunk 0) (by
      rw [chunks_eq]
      exact List.mem_map_of_mem (List.mem_range.mpr f.total_pos))
    rw [length_chunk, hheader] at hfirst
    unfold slice at hfirst
    rw [Nat.zero_mul, List.drop_zero, List.length_take, hheader] at hfirst
    omega
  · intro h chunk hchunk
    rw [chunks_eq, List.mem_map] at hchunk
    obtain ⟨seq, -, rfl⟩ := hchunk
    have hslice : (f.slice seq).length ≤ f.payload.length := by
      unfold slice
      rw [List.length_take, List.length_drop]
      omega
    rw [length_chunk, hheader]
    omega

end CutFrame

/-- A payload that is cut has so many bytes at most. -/
theorem length_le_of_cut (f : CutFrame) :
    f.payload.length ≤ 16 * (f.mtu - FRAME_HEADER_LEN) :=
  f.length_le_total.trans (Nat.mul_le_mul_right _ f.total_le)

/-- **Every chunk fits one write**, whatever the MTU that was negotiated, if and
only if the payload is refused or is a single chunk with three bytes to spare. No
byte is lost or repeated. -/
theorem chunks_fit_iff (payload : Bytes) (getMtu : Except JsError ℤ) (frameType : FrameType) :
    (∀ chunks, chunkFrame payload (clampMtu getMtu) frameType = .ok chunks →
      (∀ chunk ∈ chunks, chunk.length + 3 ≤ clampMtu getMtu) ∧
        chunks.flatMap (List.drop FRAME_HEADER_LEN) = payload) ↔
      payload = [] ∨ 16 * (clampMtu getMtu - FRAME_HEADER_LEN) < payload.length ∨
        payload.length + 7 ≤ clampMtu getMtu := by
  by_cases hcut : ∃ chunks, chunkFrame payload (clampMtu getMtu) frameType = .ok chunks
  · obtain ⟨chunks, hchunks⟩ := hcut
    let f : CutFrame := ⟨payload, clampMtu getMtu, frameType, chunks, ⟨getMtu, rfl⟩, hchunks⟩
    constructor
    · intro h
      exact Or.inr (Or.inr (f.chunks_le_iff.mp (h chunks hchunks).1))
    · intro h chunks' hchunks'
      rw [hchunks] at hchunks'
      cases hchunks'
      refine ⟨f.chunks_le_iff.mpr ?_, f.data_chunks⟩
      rcases h with rfl | hlong | hle
      · exact absurd f.payload_pos (lt_irrefl 0)
      · exact absurd (length_le_of_cut f) (Nat.not_le.mpr hlong)
      · exact hle
  · refine ⟨fun _ => ?_, fun _ chunks hchunks => absurd ⟨chunks, hchunks⟩ hcut⟩
    rcases Nat.eq_zero_or_pos payload.length with hzero | hpos
    · exact Or.inl (List.eq_nil_of_length_eq_zero hzero)
    refine Or.inr (Or.inl ?_)
    have hmtu := clampMtu_le getMtu
    have htarget : GATT_MTU_TARGET = 247 := rfl
    have hheader : FRAME_HEADER_LEN = 4 := rfl
    rcases Nat.lt_or_ge MAX_FRAME_SIZE payload.length with hlong | hle
    · have hmax : MAX_FRAME_SIZE = 65536 := rfl
      omega
    · rw [chunkFrame_fits_iff hpos hle] at hcut
      unfold leastMtu at hcut
      omega

/-- The first chunk of two takes the whole MTU. -/
theorem full_chunk_exceeds_write :
    ¬ ∀ chunks, chunkFrame (List.replicate 20 7) (clampMtu (.ok 23)) FrameType.SessionData =
        .ok chunks →
      (∀ chunk ∈ chunks, chunk.length + 3 ≤ clampMtu (.ok 23)) ∧
        chunks.flatMap (List.drop FRAME_HEADER_LEN) = List.replicate 20 7 := by
  intro h
  have hcut : chunkFrame (List.replicate 20 7) (clampMtu (.ok 23)) FrameType.SessionData =
      .ok ((List.range 2).map (chunkAt (List.replicate 20 7) 19 2 FrameType.SessionData)) := by
    decide +kernel
  exact absurd ((h _ hcut).1 _ List.mem_cons_self) (by decide +kernel)

/-! ## What `chunkFrame` returns, pushed in order -/

namespace FrameReassembler

/-- Push chunks one after the other, up to the first exception. -/
def pushInOrder (r : FrameReassembler) :
    List Bytes → Except JsError (FrameReassembler × List ReassembledFrame)
  | [] => .ok (r, [])
  | chunk :: chunks =>
      match r.pushWithType chunk with
      | (_, .error e) => .error e
      | (r, .ok frame) =>
          (r.pushInOrder chunks).map fun (r, frames) => (r, frame.toList ++ frames)

end FrameReassembler

section InOrder

variable {payload : Bytes} {dataPerChunk total : ℕ} {ft : FrameType}

/-- The next chunk in order, where every slice is shorter than 256 bytes. -/
theorem push_chunkAt (htotal : total ≤ 16) {k : ℕ} (hk : k < total)
    (hslice : (sliceAt payload dataPerChunk k).length < 256) {r : FrameReassembler}
    (hopen : openFrame total ft r =
      .ok (gathered ft total ((List.range k).map (sliceAt payload dataPerChunk)))) :
    r.pushWithType (chunkAt payload dataPerChunk total ft k) =
      if k + 1 < total then
        (gathered ft total ((List.range (k + 1)).map (sliceAt payload dataPerChunk)), .ok none)
      else (new, .ok (some
        ⟨ft, (List.range (k + 1)).flatMap (sliceAt payload dataPerChunk)⟩)) := by
  have hlen : ((List.range k).map (sliceAt payload dataPerChunk)).length = k := by
    rw [List.length_map, List.length_range]
  have hstore := @store_gathered ft total ((List.range k).map (sliceAt payload dataPerChunk))
    (sliceAt payload dataPerChunk k) (by rw [hlen]; exact hk)
  rw [push_of_ofBytes (ofBytes_chunkAt htotal hk hslice)]
  dsimp only
  rw [hopen]
  dsimp only
  rw [hlen] at hstore
  rw [hstore, List.range_succ, List.map_append, List.flatMap_append, List.flatMap_def]
  simp

/-- From some chunk on; the induction is on how many are left. -/
theorem pushInOrder_from (htotal : total ≤ 16)
    (hslice : ∀ k < total, (sliceAt payload dataPerChunk k).length < 256) (m : ℕ) :
    ∀ (k : ℕ) (r : FrameReassembler), k + (m + 1) = total →
      openFrame total ft r =
        .ok (gathered ft total ((List.range k).map (sliceAt payload dataPerChunk))) →
      r.pushInOrder ((List.range' k (m + 1)).map (chunkAt payload dataPerChunk total ft)) =
        .ok (new, [⟨ft, (List.range total).flatMap (sliceAt payload dataPerChunk)⟩]) := by
  induction m with
  | zero =>
      intro k r hk hopen
      have hlast : k + 1 = total := hk
      have hpush := push_chunkAt htotal (by omega) (hslice k (by omega)) hopen
      rw [if_neg (by omega), hlast] at hpush
      show pushInOrder r [chunkAt payload dataPerChunk total ft k] = _
      unfold pushInOrder
      rw [hpush]
      rfl
  | succ m ih =>
      intro k r hk hopen
      have hpush := push_chunkAt htotal (by omega) (hslice k (by omega)) hopen
      rw [if_pos (by omega)] at hpush
      rw [List.range'_succ, List.map_cons]
      unfold pushInOrder
      rw [hpush]
      dsimp only
      rw [ih (k + 1) _ (by omega) (openFrame_gathered (by omega) _)]
      rfl

end InOrder

/-- **What `chunkFrame` returns is put together again**, with every header field
saying what it stands for, if and only if the payload or the room for data in a
chunk is at most 255 bytes. -/
theorem chunks_reassemble_iff {payload : Bytes} {mtu : ℤ} {ft : FrameType} {chunks : List Bytes}
    (hcut : chunkFrame payload mtu.toNat ft = .ok chunks) :
    ((∀ seq chunk, chunks[seq]? = some chunk → Chunk.ofBytes chunk =
        some ⟨ft, seq, chunks.length, sliceAt payload (mtu.toNat - FRAME_HEADER_LEN) seq⟩) ∧
      new.pushInOrder chunks = .ok (new, [⟨ft, payload⟩])) ↔
      payload.length ≤ 255 ∨ mtu ≤ 259 := by
  obtain ⟨⟨-, hmtu, hpos, hmax⟩, rfl⟩ := chunkFrame_eq_ok.mp hcut
  have hheader : FRAME_HEADER_LEN = 4 := rfl
  have hfirst : (sliceAt payload (mtu.toNat - FRAME_HEADER_LEN) 0).length =
      min (mtu.toNat - FRAME_HEADER_LEN) payload.length := by
    unfold sliceAt
    rw [Nat.zero_mul, List.drop_zero, List.length_take]
  constructor
  · rintro ⟨hchunks, -⟩
    by_contra hlong
    rw [not_or, not_le, not_le] at hlong
    -- the first chunk is full, and its length is beyond a byte
    have hchunk := hchunks 0 _ (by
      rw [List.getElem?_map, List.getElem?_range hpos]
      rfl)
    rw [ofBytes_chunkAt_none (by rw [hfirst]; omega)] at hchunk
    cases hchunk
  · intro hshort
    have hslice : ∀ seq, (sliceAt payload (mtu.toNat - FRAME_HEADER_LEN) seq).length < 256 := by
      intro seq
      unfold sliceAt
      rw [List.length_take, List.length_drop]
      omega
    constructor
    · intro seq chunk hchunk
      rw [List.length_map, List.length_range]
      rw [List.getElem?_map, Option.map_eq_some_iff] at hchunk
      obtain ⟨seq', hseq', rfl⟩ := hchunk
      obtain ⟨hlt, rfl⟩ := List.getElem?_eq_some_iff.mp hseq'
      rw [List.length_range] at hlt
      rw [List.getElem_range]
      exact ofBytes_chunkAt hmax hlt (hslice seq)
    · obtain ⟨m, hm⟩ := Nat.exists_eq_succ_of_ne_zero (Nat.ne_of_gt hpos)
      have hrun := @pushInOrder_from _ _ _ ft hmax (fun k _ => hslice k) m 0 new
        (by rw [hm, Nat.zero_add]) rfl
      rw [flatMap_slices_of_count payload hmtu] at hrun
      rw [hm] at hrun
      rw [List.range_eq_range', hm]
      exact hrun

/-- A payload of 300 bytes in two chunks, and in one. -/
theorem chunks_reassemble_sample :
    new.pushInOrder ((List.range 2).map
        (chunkAt (List.replicate 300 7) 255 2 FrameType.SessionData)) =
      .ok (new, [⟨FrameType.SessionData, List.replicate 300 7⟩]) :=
  ((@chunks_reassemble_iff (List.replicate 300 7) 259 _ _ (by decide +kernel)).mpr
    (Or.inr (by decide))).2

theorem length_byte_overflows :
    chunkFrame (List.replicate 300 7) 304 FrameType.SessionData =
        .ok [chunkAt (List.replicate 300 7) 300 1 FrameType.SessionData 0] ∧
      (new.pushInOrder [chunkAt (List.replicate 300 7) 300 1 FrameType.SessionData 0] =
        .error (.error "len-field mismatch with chunk size")) :=
  ⟨by decide +kernel, by decide +kernel⟩

end Oxpulse.Transport
