import Mathlib.Algebra.BigOperators.Group.Finset.Piecewise
import Mathlib.Algebra.Order.BigOperators.Group.Finset
import Oxpulse.Transport.Framing

/-!
# Frames that are written at the same time

Several calls write their chunks to one link, each its own in order. Each byte
that is written ends in a frame that is emitted, stays in a slot or is lost; so
if every frame comes out, no chunk was a duplicate or belonged to another frame.
That is the case only if each call wrote its chunks without another one's in
between.
-/

namespace Oxpulse.Transport

open Oxpulse.Crypto FrameReassembler

/-! ## Bytes -/

def dataBytes (chunk : Bytes) : ℕ := chunk.length - FRAME_HEADER_LEN

/-- The bytes of the frames. -/
def frameBytes (frames : List ReassembledFrame) : ℕ :=
  (frames.map fun frame => frame.payload.length).sum

/-- A chunk of some frame. -/
def IsCutChunk (chunk : Bytes) : Prop :=
  ∃ (f : CutFrame) (seq : ℕ), seq < f.total ∧ chunk = f.chunk seq

namespace CutFrame

variable (f : CutFrame)

theorem dataBytes_chunk (seq : ℕ) : dataBytes (f.chunk seq) = (f.slice seq).length :=
  Nat.add_sub_cancel (f.slice seq).length 4

theorem length_slice_zero : 0 < (f.slice 0).length := by
  have hmtu : 0 < f.mtu - FRAME_HEADER_LEN :=
    Nat.sub_pos_of_lt (chunkFrame_eq_ok.mp f.cut).1.2.1
  unfold slice
  rw [Nat.zero_mul, List.drop_zero, List.length_take]
  exact lt_min hmtu f.payload_pos

theorem sum_dataBytes : (f.chunks.map dataBytes).sum = f.payload.length := by
  have hlength := congrArg List.length f.flatMap_slices
  rw [List.length_flatMap] at hlength
  rw [← hlength, chunks_eq, List.map_map]
  exact congrArg List.sum (List.map_congr_left fun seq _ => f.dataBytes_chunk seq)

theorem isCutChunk_of_mem {chunk : Bytes} (h : chunk ∈ f.chunks) : IsCutChunk chunk := by
  rw [chunks_eq, List.mem_map] at h
  obtain ⟨seq, hseq, rfl⟩ := h
  exact ⟨f, seq, List.mem_range.mp hseq, rfl⟩

end CutFrame

section Bytes

variable {r : FrameReassembler} {chunk : Bytes} {chunks : List Bytes}

/-- No byte comes out that did not come in. -/
theorem receive_bytes_le (hr : Steady r) (hchunk : IsCutChunk chunk) :
    slotBytes (r.receive chunk).1.slots + frameBytes (r.receive chunk).2.toList ≤
      slotBytes r.slots + dataBytes chunk := by
  obtain ⟨f, seq, hseq, rfl⟩ := hchunk
  rw [receive_chunk f hseq, f.dataBytes_chunk]
  have hnew : slotBytes new.slots = 0 := rfl
  have hemit : ∀ (frame : Option ReassembledFrame) (b : ℕ),
      (∀ g, frame = some g → g.payload.length = b) → frameBytes frame.toList ≤ b := by
    intro frame b h
    cases frame with
    | none => exact Nat.zero_le b
    | some g =>
        have hg := h g rfl
        simp [frameBytes, hg]
  rcases hr with rfl | ⟨n, ft, F, h⟩
  · rcases Nat.lt_or_ge 1 f.total with hn | hn
    · obtain ⟨r', heq, -, hbytes⟩ :=
        accept_opens (c := ⟨f.frameType, seq, f.total, f.slice seq⟩) hn
      rw [heq, hnew, hbytes, Nat.zero_add]
      exact le_refl _
    · obtain ⟨heq, hframe⟩ := accept_single (c := ⟨f.frameType, seq, f.total, f.slice seq⟩) hn
      rw [heq, hnew, Nat.zero_add, Nat.zero_add]
      exact hemit _ _ hframe
  · by_cases hother : f.total ≠ n ∨ f.frameType ≠ ft
    · rw [h.accept_other (c := ⟨f.frameType, seq, f.total, f.slice seq⟩) hother]
      exact Nat.zero_le _
    · rw [not_or, not_not, not_not] at hother
      obtain ⟨rfl, rfl⟩ := hother
      by_cases hmem : seq ∈ F
      · rw [h.accept_duplicate rfl rfl hmem]
        exact Nat.le_add_right _ _
      · rcases Nat.lt_or_ge (F.card + 1) f.total with hlt | hge
        · obtain ⟨r', heq, -, hbytes⟩ := h.accept_fills
            (c := ⟨f.frameType, seq, f.total, f.slice seq⟩) rfl rfl hmem hlt
          rw [heq, hbytes]
          exact le_refl _
        · obtain ⟨heq, hframe⟩ := h.accept_closes
            (c := ⟨f.frameType, seq, f.total, f.slice seq⟩) rfl rfl hmem hge
          rw [heq, hnew, Nat.zero_add]
          exact hemit _ _ hframe

theorem frameBytes_append (frames frames' : List ReassembledFrame) :
    frameBytes (frames ++ frames') = frameBytes frames + frameBytes frames' := by
  unfold frameBytes
  rw [List.map_append, List.sum_append]

theorem receiveAll_bytes_le (hr : Steady r) (hchunks : ∀ chunk ∈ chunks, IsCutChunk chunk) :
    slotBytes (receiveAll r chunks).1.slots + frameBytes (receiveAll r chunks).2 ≤
      slotBytes r.slots + (chunks.map dataBytes).sum := by
  induction chunks generalizing r with
  | nil => exact le_refl _
  | cons chunk chunks ih =>
      have hhead := receive_bytes_le hr (hchunks chunk List.mem_cons_self)
      have htail := ih (hr.receive chunk) fun c hc => hchunks c (List.mem_cons_of_mem chunk hc)
      rw [receiveAll, frameBytes_append, List.map_cons, List.sum_cons]
      dsimp only
      omega

/-- Every byte comes out or stays in a slot. -/
def Lossless (r : FrameReassembler) (chunks : List Bytes) : Prop :=
  slotBytes (receiveAll r chunks).1.slots + frameBytes (receiveAll r chunks).2 =
    slotBytes r.slots + (chunks.map dataBytes).sum

/-- Then no single chunk is lost. -/
theorem Lossless.cons (h : Lossless r (chunk :: chunks)) (hr : Steady r)
    (hchunks : ∀ c ∈ chunk :: chunks, IsCutChunk c) :
    slotBytes (r.receive chunk).1.slots + frameBytes (r.receive chunk).2.toList =
        slotBytes r.slots + dataBytes chunk ∧
      Lossless (r.receive chunk).1 chunks := by
  have hhead := receive_bytes_le hr (hchunks chunk List.mem_cons_self)
  have htail := receiveAll_bytes_le (hr.receive chunk)
    fun c hc => hchunks c (List.mem_cons_of_mem chunk hc)
  unfold Lossless at h ⊢
  rw [receiveAll, frameBytes_append, List.map_cons, List.sum_cons] at h
  dsimp only at h
  constructor
  · omega
  · omega

/-- The first chunk of another frame is lost on a frame whose first chunk was
received. -/
theorem first_is_lost {n : ℕ} {ft : FrameType} {F : Finset ℕ} (h : Holds n ft F r)
    (hzero : 0 ∈ F) (f : CutFrame) :
    slotBytes (r.receive (f.chunk 0)).1.slots + frameBytes (r.receive (f.chunk 0)).2.toList ≠
      slotBytes r.slots + dataBytes (f.chunk 0) := by
  have hpos := f.length_slice_zero
  rw [receive_chunk f f.total_pos, f.dataBytes_chunk]
  by_cases hother : f.total ≠ n ∨ f.frameType ≠ ft
  · rw [h.accept_other (c := ⟨f.frameType, 0, f.total, f.slice 0⟩) hother]
    show (0 : ℕ) ≠ _
    omega
  · rw [not_or, not_not, not_not] at hother
    rw [h.accept_duplicate (c := ⟨f.frameType, 0, f.total, f.slice 0⟩) hother.1 hother.2 hzero]
    show slotBytes r.slots ≠ _
    omega

end Bytes

/-! ## Calls that write to one link -/

section Mix

variable {ι : Type} [DecidableEq ι]

/-- What one of the calls wrote. -/
def writtenBy (i : ι) (log : List (ι × Bytes)) : List Bytes :=
  (log.filter fun entry => entry.1 = i).map Prod.snd

/-- Each call wrote its chunks without another one's in between. -/
def OneAfterAnother (calls : List ι) (log : List (ι × Bytes)) : Prop :=
  ∃ order : List ι, order.Perm calls ∧
    log = order.flatMap fun i => (writtenBy i log).map (Prod.mk i)

section Written

variable {i j : ι} {chunk : Bytes} {log log' : List (ι × Bytes)}

theorem writtenBy_append (i : ι) (log log' : List (ι × Bytes)) :
    writtenBy i (log ++ log') = writtenBy i log ++ writtenBy i log' := by
  unfold writtenBy
  rw [List.filter_append, List.map_append]

theorem writtenBy_cons_self : writtenBy i ((i, chunk) :: log) = chunk :: writtenBy i log := by
  unfold writtenBy
  rw [List.filter_cons_of_pos (by simp)]
  rfl

theorem writtenBy_cons_ne (h : j ≠ i) : writtenBy i ((j, chunk) :: log) = writtenBy i log := by
  unfold writtenBy
  rw [List.filter_cons_of_neg (by simpa using h)]

theorem writtenBy_block_self (chunks : List Bytes) :
    writtenBy i (chunks.map (Prod.mk i)) = chunks := by
  induction chunks with
  | nil => rfl
  | cons chunk chunks ih => rw [List.map_cons, writtenBy_cons_self, ih]

theorem writtenBy_block_ne (h : j ≠ i) (chunks : List Bytes) :
    writtenBy i (chunks.map (Prod.mk j)) = [] := by
  induction chunks with
  | nil => rfl
  | cons chunk chunks ih => rw [List.map_cons, writtenBy_cons_ne h, ih]

theorem writtenBy_ne_nil {entry : ι × Bytes} (h : entry ∈ log) : writtenBy entry.1 log ≠ [] := by
  unfold writtenBy
  intro hnil
  rw [List.map_eq_nil_iff] at hnil
  have hmem : entry ∈ log.filter fun e => e.1 = entry.1 := by
    rw [List.mem_filter]
    exact ⟨h, decide_eq_true rfl⟩
  rw [hnil] at hmem
  exact absurd hmem List.not_mem_nil

/-- What was written was written by the calls. -/
theorem sum_writtenBy {calls : List ι} (hnodup : calls.Nodup) (weight : Bytes → ℕ) :
    ∀ (log : List (ι × Bytes)), (∀ entry ∈ log, entry.1 ∈ calls) →
      (calls.map fun i => ((writtenBy i log).map weight).sum).sum =
        ((log.map Prod.snd).map weight).sum
  | [], _ => by simp [writtenBy]
  | (j, chunk) :: log, h => by
      have ih := sum_writtenBy hnodup weight log fun entry hentry =>
        h entry (List.mem_cons_of_mem _ hentry)
      have hj : j ∈ calls := h (j, chunk) List.mem_cons_self
      have hsplit : ∀ i, ((writtenBy i ((j, chunk) :: log)).map weight).sum =
          (if i = j then weight chunk else 0) + ((writtenBy i log).map weight).sum := by
        intro i
        by_cases hi : i = j
        · subst hi
          rw [writtenBy_cons_self, if_pos rfl, List.map_cons, List.sum_cons]
        · rw [writtenBy_cons_ne (Ne.symm hi), if_neg hi, Nat.zero_add]
      have hone : (calls.map fun i => if i = j then weight chunk else 0).sum = weight chunk := by
        rw [List.sum_map_eq_nsmul_single j, List.count_eq_one_of_mem hnodup hj, one_nsmul,
          if_pos rfl]
        exact fun i hi _ => if_neg hi
      simp only [hsplit, List.map_cons, List.sum_cons]
      rw [List.sum_map_add, hone, ih]

end Written

variable {calls : List ι} {frame : ι → CutFrame}

/-- The next chunk on an open frame is its own. -/
theorem next_is_own {i : ι} {k m : ℕ} {r : FrameReassembler} {log : List (ι × Bytes)}
    {n : ℕ} {ft : FrameType} (hpos : 0 < k) (h : Holds n ft (Finset.range k) r)
    (hlossless : Lossless r (log.map Prod.snd))
    (hchunks : ∀ chunk ∈ log.map Prod.snd, IsCutChunk chunk)
    (hown : writtenBy i log = (frame i).chunksFrom k (m + 1))
    (hother : ∀ entry ∈ log, entry.1 ≠ i → ∃ f : CutFrame, writtenBy entry.1 log = f.chunks) :
    ∃ log', log = (i, (frame i).chunk k) :: log' ∧
      writtenBy i log' = (frame i).chunksFrom (k + 1) m := by
  cases log with
  | nil => cases hown
  | cons entry log =>
      obtain ⟨j, chunk⟩ := entry
      by_cases hj : j = i
      · subst hj
        rw [writtenBy_cons_self, CutFrame.chunksFrom_succ, List.cons.injEq] at hown
        exact ⟨log, by rw [hown.1], hown.2⟩
      · obtain ⟨f, hf⟩ := hother (j, chunk) List.mem_cons_self hj
        obtain ⟨t, ht⟩ := Nat.exists_eq_succ_of_ne_zero (Nat.ne_of_gt f.total_pos)
        rw [writtenBy_cons_self, f.chunks_eq_from, ht, CutFrame.chunksFrom_succ,
          List.cons.injEq] at hf
        have hstep := (Lossless.cons hlossless (Or.inr ⟨_, _, _, h⟩) hchunks).1
        dsimp only at hstep
        rw [hf.1] at hstep
        exact absurd hstep (first_is_lost h (Finset.mem_range.mpr hpos) f)

/-- While the frame of a call is open, nobody else's chunk goes through. -/
theorem block_of_lossless (i : ι) (m : ℕ) : ∀ (k : ℕ) (r : FrameReassembler)
    (log : List (ι × Bytes)), k + (m + 1) = (frame i).total → 0 < k →
    Holds (frame i).total (frame i).frameType (Finset.range k) r →
    Lossless r (log.map Prod.snd) → (∀ chunk ∈ log.map Prod.snd, IsCutChunk chunk) →
    writtenBy i log = (frame i).chunksFrom k (m + 1) →
    (∀ entry ∈ log, entry.1 ≠ i → ∃ f : CutFrame, writtenBy entry.1 log = f.chunks) →
    ∃ log', log = ((frame i).chunksFrom k (m + 1)).map (Prod.mk i) ++ log' ∧
      Lossless new (log'.map Prod.snd) := by
  induction m with
  | zero =>
      intro k r log hk hpos h hlossless hchunks hown hother
      obtain ⟨log', rfl, -⟩ := next_is_own hpos h hlossless hchunks hown hother
      have hrest := (Lossless.cons hlossless (Or.inr ⟨_, _, _, h⟩) hchunks).2
      dsimp only at hrest
      rw [receive_chunk _ (by omega), (h.accept_closes
        (c := ⟨(frame i).frameType, k, (frame i).total, (frame i).slice k⟩) rfl rfl
        Finset.notMem_range_self (by rw [Finset.card_range]; omega)).1] at hrest
      exact ⟨log', rfl, hrest⟩
  | succ m ih =>
      intro k r log hk hpos h hlossless hchunks hown hother
      obtain ⟨log', rfl, hown'⟩ := next_is_own hpos h hlossless hchunks hown hother
      have hrest := (Lossless.cons hlossless (Or.inr ⟨_, _, _, h⟩) hchunks).2
      obtain ⟨r', heq, hholds, -⟩ := h.accept_fills
        (c := ⟨(frame i).frameType, k, (frame i).total, (frame i).slice k⟩) rfl rfl
        Finset.notMem_range_self (by rw [Finset.card_range]; omega)
      dsimp only at hrest hholds
      rw [receive_chunk _ (by omega), heq] at hrest
      rw [← Finset.range_add_one] at hholds
      have hother' : ∀ entry ∈ log', entry.1 ≠ i →
          ∃ f : CutFrame, writtenBy entry.1 log' = f.chunks := by
        intro entry hentry hne
        obtain ⟨f, hf⟩ := hother entry (List.mem_cons_of_mem _ hentry) hne
        rw [writtenBy_cons_ne (Ne.symm hne)] at hf
        exact ⟨f, hf⟩
      obtain ⟨log'', rfl, hlossless'⟩ := ih (k + 1) r' log' (by omega) (Nat.succ_pos k) hholds hrest
        (fun chunk hmem => hchunks chunk (List.mem_cons_of_mem _ hmem)) hown' hother'
      exact ⟨log'', rfl, hlossless'⟩

theorem isCutChunk_of_written {log : List (ι × Bytes)}
    (h : ∀ entry ∈ log, writtenBy entry.1 log = (frame entry.1).chunks) :
    ∀ chunk ∈ log.map Prod.snd, IsCutChunk chunk := by
  intro chunk hmem
  obtain ⟨entry, hentry, rfl⟩ := List.mem_map.mp hmem
  apply (frame entry.1).isCutChunk_of_mem
  rw [← h entry hentry]
  unfold writtenBy
  rw [List.mem_map]
  exact ⟨entry, List.mem_filter.mpr ⟨hentry, decide_eq_true rfl⟩, rfl⟩

/-- From an empty reassembler, the call that writes first writes all its chunks. -/
theorem first_block {i : ι} {chunk : Bytes} {log : List (ι × Bytes)}
    (hlossless : Lossless new (((i, chunk) :: log).map Prod.snd))
    (hwritten : ∀ entry ∈ (i, chunk) :: log,
      writtenBy entry.1 ((i, chunk) :: log) = (frame entry.1).chunks) :
    ∃ log', (i, chunk) :: log = (frame i).chunks.map (Prod.mk i) ++ log' ∧
      Lossless new (log'.map Prod.snd) := by
  have hchunks := isCutChunk_of_written hwritten
  have hown := hwritten (i, chunk) List.mem_cons_self
  obtain ⟨m, hm⟩ := Nat.exists_eq_succ_of_ne_zero (Nat.ne_of_gt (frame i).total_pos)
  dsimp only at hown
  rw [writtenBy_cons_self, CutFrame.chunks_eq_from, hm, CutFrame.chunksFrom_succ,
    List.cons.injEq] at hown
  obtain ⟨rfl, hown⟩ := hown
  have hrest := (Lossless.cons hlossless (Or.inl rfl) hchunks).2
  dsimp only at hrest
  rw [receive_chunk _ (frame i).total_pos] at hrest
  cases m with
  | zero =>
      rw [(accept_single (c := ⟨(frame i).frameType, 0, (frame i).total, (frame i).slice 0⟩)
        (le_of_eq hm)).1] at hrest
      refine ⟨log, ?_, hrest⟩
      rw [CutFrame.chunks_eq_from, hm]
      rfl
  | succ m =>
      obtain ⟨r', heq, hholds, -⟩ := accept_opens
        (c := ⟨(frame i).frameType, 0, (frame i).total, (frame i).slice 0⟩)
        (by show 1 < (frame i).total; omega)
      rw [heq] at hrest
      have hother : ∀ entry ∈ log, entry.1 ≠ i →
          ∃ f : CutFrame, writtenBy entry.1 log = f.chunks := by
        intro entry hentry hne
        have hentry' := hwritten entry (List.mem_cons_of_mem _ hentry)
        rw [writtenBy_cons_ne (Ne.symm hne)] at hentry'
        exact ⟨_, hentry'⟩
      obtain ⟨log', rfl, hlossless'⟩ := block_of_lossless i m 1 r' log (by omega) Nat.one_pos hholds
        hrest (fun c hc => hchunks c (List.mem_cons_of_mem _ hc)) hown hother
      refine ⟨log', ?_, hlossless'⟩
      rw [CutFrame.chunks_eq_from, hm]
      rfl

theorem blocks_of_lossless (n : ℕ) : ∀ (calls : List ι) (log : List (ι × Bytes)),
    calls.length = n → calls.Nodup → (∀ entry ∈ log, entry.1 ∈ calls) →
    (∀ i ∈ calls, writtenBy i log = (frame i).chunks) →
    Lossless new (log.map Prod.snd) → ∃ order : List ι, order.Perm calls ∧
      log = order.flatMap fun i => (frame i).chunks.map (Prod.mk i) := by
  induction n with
  | zero =>
      intro calls log hlen _ hlog _ _
      have hnil := List.length_eq_zero_iff.mp hlen
      subst hnil
      cases log with
      | nil => exact ⟨[], .refl _, rfl⟩
      | cons entry log => exact absurd (hlog entry List.mem_cons_self) List.not_mem_nil
  | succ n ih =>
      intro calls log hlen hnodup hlog hwritten hlossless
      cases log with
      | nil =>
          obtain ⟨i, calls, rfl⟩ := List.exists_cons_of_length_eq_add_one hlen
          have hpos := (frame i).total_pos
          rw [← (frame i).length_chunks, ← hwritten i List.mem_cons_self] at hpos
          exact absurd hpos (lt_irrefl 0)
      | cons entry log =>
          obtain ⟨i, chunk⟩ := entry
          have hi := hlog (i, chunk) List.mem_cons_self
          dsimp only at hi
          obtain ⟨log', heq, hlossless'⟩ := first_block hlossless
            fun entry hentry => hwritten entry.1 (hlog entry hentry)
          have hgone : writtenBy i log' = [] := by
            have hall := hwritten i hi
            rw [heq, writtenBy_append, writtenBy_block_self] at hall
            exact List.append_right_eq_self.mp hall
          have hlog' : ∀ entry ∈ log', entry.1 ∈ calls.erase i := by
            intro entry hentry
            have hne : entry.1 ≠ i := by
              rintro rfl
              exact writtenBy_ne_nil hentry hgone
            have hmem : entry ∈ (i, chunk) :: log := by
              rw [heq]
              exact List.mem_append_right _ hentry
            exact (List.mem_erase_of_ne hne).mpr (hlog entry hmem)
          have hwritten' : ∀ j ∈ calls.erase i, writtenBy j log' = (frame j).chunks := by
            intro j hj
            have hne : i ≠ j := by
              rintro rfl
              exact hnodup.not_mem_erase hj
            have hall := hwritten j (List.mem_of_mem_erase hj)
            rw [heq, writtenBy_append, writtenBy_block_ne hne, List.nil_append] at hall
            exact hall
          obtain ⟨order, hperm, rfl⟩ := ih (calls.erase i) log'
            (by rw [List.length_erase_of_mem hi, hlen]; rfl) (hnodup.erase i) hlog' hwritten'
            hlossless'
          refine ⟨i :: order, ?_, heq⟩
          exact (hperm.cons i).trans (List.perm_cons_erase hi).symm

/-- **Each frame comes out once, and nothing else, if and only if the calls wrote
one after another.** -/
theorem frames_come_out_iff (hnodup : calls.Nodup) {log : List (ι × Bytes)}
    (hlog : ∀ entry ∈ log, entry.1 ∈ calls)
    (hwritten : ∀ i ∈ calls, writtenBy i log = (frame i).chunks) :
    (receiveAll new (log.map Prod.snd)).2.Perm (calls.map fun i => (frame i).frame) ↔
      OneAfterAnother calls log := by
  have hblocks : ∀ order : List ι, order.Perm calls →
      (order.flatMap fun i => (writtenBy i log).map (Prod.mk i)) =
        order.flatMap fun i => (frame i).chunks.map (Prod.mk i) := by
    intro order hperm
    refine List.flatMap_congr fun i hi => ?_
    rw [hwritten i (hperm.mem_iff.mp hi)]
  constructor
  · intro hperm
    suffices hlossless : Lossless new (log.map Prod.snd) by
      obtain ⟨order, horder, heq⟩ := blocks_of_lossless calls.length calls log rfl hnodup hlog
        hwritten hlossless
      exact ⟨order, horder, heq.trans (hblocks order horder).symm⟩
    have hout : frameBytes (receiveAll new (log.map Prod.snd)).2 =
        (calls.map fun i => (frame i).payload.length).sum := by
      unfold frameBytes
      rw [(hperm.map fun frame => frame.payload.length).sum_eq, List.map_map]
      rfl
    have hin : ((log.map Prod.snd).map dataBytes).sum =
        (calls.map fun i => (frame i).payload.length).sum := by
      rw [← sum_writtenBy hnodup dataBytes log hlog]
      refine congrArg List.sum (List.map_congr_left fun i hi => ?_)
      rw [hwritten i hi, (frame i).sum_dataBytes]
    have hchunks := isCutChunk_of_written fun entry hentry => hwritten entry.1 (hlog entry hentry)
    have hle := receiveAll_bytes_le (r := new) (Or.inl rfl) hchunks
    have hempty : slotBytes new.slots = 0 := rfl
    unfold Lossless
    omega
  · rintro ⟨order, hperm, heq⟩
    have hchunks : (order.flatMap fun i => (frame i).chunks.map (Prod.mk i)).map Prod.snd =
        (order.map frame).flatMap CutFrame.chunks := by
      rw [List.map_flatMap, List.flatMap_map]
      refine List.flatMap_congr fun i _ => ?_
      rw [List.map_map]
      exact List.map_id _
    rw [heq, hblocks order hperm, hchunks, CutFrame.receiveAll_flatMap, List.map_map]
    exact hperm.map _

end Mix

end Oxpulse.Transport
