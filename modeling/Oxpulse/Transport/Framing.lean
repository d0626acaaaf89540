import Mathlib.Order.Interval.Finset.Nat
import Oxpulse.Transport.MeshEvents

/-!
# The framing layer resynchronises

`FrameReassembler` keeps the slots of one frame. A chunk opens a frame, fills a
slot, is a duplicate, closes the frame or belongs to another frame and empties
the reassembler (`accept`); between two chunks the reassembler is empty or holds
some slots of a frame of at least two chunks (`Steady`).

Whatever was received before, a complete frame leaves an empty reassembler if
and only if the slots it finds do not get in its way (`Ready`). From then on each
frame is emitted as it was cut; otherwise the next frame may be lost as well.
-/

namespace Oxpulse.Transport

open Oxpulse.Crypto

/-! ## Frames as they are cut -/

theorem clampMtu_le (getMtu : Except JsError ℤ) : clampMtu getMtu ≤ GATT_MTU_TARGET := by
  have hdefault : GATT_MTU_DEFAULT ≤ GATT_MTU_TARGET := by decide
  cases getMtu with
  | error e => exact hdefault
  | ok mtu =>
      unfold clampMtu
      dsimp only
      split_ifs with h
      · exact Int.toNat_le.mpr h.2
      · exact le_refl _
      · exact hdefault

/-- The data of the chunk with this sequence number. -/
def sliceAt (payload : Bytes) (dataPerChunk seq : ℕ) : Bytes :=
  (payload.drop (seq * dataPerChunk)).take dataPerChunk

theorem flatMap_sliceAt (payload : Bytes) (dataPerChunk k : ℕ) :
    (List.range k).flatMap (sliceAt payload dataPerChunk) = payload.take (k * dataPerChunk) := by
  induction k with
  | zero => simp
  | succ k ih =>
      rw [List.range_succ, List.flatMap_append, ih, Nat.succ_mul, List.take_add]
      simp [sliceAt]

theorem length_le_chunkCount (payload : Bytes) {mtu : ℕ} (hmtu : FRAME_HEADER_LEN < mtu) :
    payload.length ≤ chunkCount payload mtu * (mtu - FRAME_HEADER_LEN) := by
  have hsize : 0 < mtu - FRAME_HEADER_LEN := Nat.sub_pos_of_lt hmtu
  have hlt := Nat.lt_div_mul_add hsize (a := payload.length + (mtu - FRAME_HEADER_LEN) - 1)
  unfold chunkCount
  omega

/-- The slices are the payload. -/
theorem flatMap_slices_of_count (payload : Bytes) {mtu : ℕ} (hmtu : FRAME_HEADER_LEN < mtu) :
    (List.range (chunkCount payload mtu)).flatMap (sliceAt payload (mtu - FRAME_HEADER_LEN)) =
      payload := by
  rw [flatMap_sliceAt, List.take_of_length_le (length_le_chunkCount payload hmtu)]

/-- A payload that `chunkFrame` cuts, for an MTU that was negotiated. -/
structure CutFrame : Type where
  payload : Bytes
  mtu : ℕ
  frameType : FrameType
  chunks : List Bytes
  negotiated : ∃ getMtu, mtu = clampMtu getMtu
  cut : chunkFrame payload mtu frameType = .ok chunks

namespace CutFrame

variable (f : CutFrame)

def frame : ReassembledFrame := ⟨f.frameType, f.payload⟩

/-- The number of chunks. -/
def total : ℕ := chunkCount f.payload f.mtu

def slice (seq : ℕ) : Bytes :=
  (f.payload.drop (seq * (f.mtu - FRAME_HEADER_LEN))).take (f.mtu - FRAME_HEADER_LEN)

def chunk (seq : ℕ) : Bytes :=
  chunkAt f.payload (f.mtu - FRAME_HEADER_LEN) f.total f.frameType seq

theorem total_pos : 0 < f.total := (chunkFrame_eq_ok.mp f.cut).1.2.2.1

theorem total_le : f.total ≤ 16 := (chunkFrame_eq_ok.mp f.cut).1.2.2.2

theorem chunks_eq : f.chunks = (List.range f.total).map f.chunk := (chunkFrame_eq_ok.mp f.cut).2

theorem payload_pos : 0 < f.payload.length := by
  have hmtu : 0 < f.mtu - FRAME_HEADER_LEN :=
    Nat.sub_pos_of_lt (chunkFrame_eq_ok.mp f.cut).1.2.1
  by_contra hzero
  have htotal := f.total_pos
  unfold total chunkCount at htotal
  rw [Nat.eq_zero_of_not_pos hzero, Nat.zero_add,
    Nat.div_eq_of_lt (Nat.sub_lt hmtu Nat.one_pos)] at htotal
  exact absurd htotal (lt_irrefl 0)

theorem length_chunks : f.chunks.length = f.total := by
  rw [chunks_eq, List.length_map, List.length_range]

theorem length_slice_lt (seq : ℕ) : (f.slice seq).length < 256 := by
  obtain ⟨getMtu, hmtu⟩ := f.negotiated
  have hle : f.mtu ≤ 247 := hmtu ▸ clampMtu_le getMtu
  calc (f.slice seq).length ≤ f.mtu - FRAME_HEADER_LEN := List.length_take_le _ _
    _ ≤ f.mtu := Nat.sub_le _ _
    _ < 256 := Nat.lt_of_le_of_lt hle (by decide)

theorem length_le_total : f.payload.length ≤ f.total * (f.mtu - FRAME_HEADER_LEN) :=
  length_le_chunkCount f.payload (chunkFrame_eq_ok.mp f.cut).1.2.1

/-- The slices are the payload. -/
theorem flatMap_slices : (List.range f.total).flatMap f.slice = f.payload :=
  flatMap_slices_of_count f.payload (chunkFrame_eq_ok.mp f.cut).1.2.1

end CutFrame

/-! ## What a chunk does -/

/-- A chunk whose header passes the checks. -/
structure Chunk : Type where
  frameType : FrameType
  seq : ℕ
  total : ℕ
  data : Bytes

/-- The chunk with these bytes, if its header passes the checks. -/
def Chunk.ofBytes : Bytes → Option Chunk
  | magic :: seqByte :: total :: len :: data =>
      if magic ≠ FRAME_MAGIC ∨ len.toNat ≠ data.length ∨ total.toNat > 16 then none
      else some ⟨⟨seqByte.toNat / 16, nibble_lt seqByte⟩, seqByte.toNat % 16,
        total.toNat, data⟩
  | _ => none

theorem Chunk.ofBytes_total_le {bytes : Bytes} {c : Chunk} (h : ofBytes bytes = some c) :
    c.total ≤ 16 := by
  unfold ofBytes at h
  split at h
  next magic seqByte total len data =>
    split at h
    · cases h
    · next hchecks =>
      cases h
      exact Nat.not_lt.mp fun hlt => hchecks (Or.inr (Or.inr hlt))
  next => cases h

/-- The header of a chunk says what was cut, if the length of its data fits a byte. -/
theorem ofBytes_chunkAt {payload : Bytes} {dataPerChunk total : ℕ} {ft : FrameType} {seq : ℕ}
    (htotal : total ≤ 16) (hseq : seq < total)
    (hslice : (sliceAt payload dataPerChunk seq).length < 256) :
    Chunk.ofBytes (chunkAt payload dataPerChunk total ft seq) =
      some ⟨ft, seq, total, sliceAt payload dataPerChunk seq⟩ := by
  have htype := ft.isLt
  have hmod : seq % 16 = seq := Nat.mod_eq_of_lt (hseq.trans_le htotal)
  have hbyte : (UInt8.ofNat (ft.val * 16 + seq % 16)).toNat = ft.val * 16 + seq := by
    rw [hmod, UInt8.toNat_ofNat']
    omega
  have hcount : (UInt8.ofNat total).toNat = total := by
    rw [UInt8.toNat_ofNat']
    omega
  have hlen : (UInt8.ofNat (sliceAt payload dataPerChunk seq).length).toNat =
      (sliceAt payload dataPerChunk seq).length := by
    rw [UInt8.toNat_ofNat']
    omega
  have hft : (⟨(ft.val * 16 + seq) / 16, by omega⟩ : FrameType) = ft := by
    ext
    show (ft.val * 16 + seq) / 16 = ft.val
    omega
  have hlow : (ft.val * 16 + seq) % 16 = seq := by omega
  show Chunk.ofBytes (FRAME_MAGIC :: UInt8.ofNat (ft.val * 16 + seq % 16) ::
    UInt8.ofNat total :: UInt8.ofNat (sliceAt payload dataPerChunk seq).length ::
      sliceAt payload dataPerChunk seq) = _
  unfold Chunk.ofBytes
  simp only [hbyte, hcount, hlen, hlow, hft]
  rw [if_neg]
  rintro (h | h | h)
  · exact h rfl
  · exact h rfl
  · omega

/-- Otherwise the length byte is wrong. -/
theorem ofBytes_chunkAt_none {payload : Bytes} {dataPerChunk total : ℕ} {ft : FrameType} {seq : ℕ}
    (hslice : 256 ≤ (sliceAt payload dataPerChunk seq).length) :
    Chunk.ofBytes (chunkAt payload dataPerChunk total ft seq) = none := by
  have hlen : (UInt8.ofNat (sliceAt payload dataPerChunk seq).length).toNat ≠
      (sliceAt payload dataPerChunk seq).length := by
    have hlt := (UInt8.ofNat (sliceAt payload dataPerChunk seq).length).toNat_lt
    omega
  exact if_pos (Or.inr (Or.inl hlen))

theorem CutFrame.ofBytes_chunk (f : CutFrame) {seq : ℕ} (hseq : seq < f.total) :
    Chunk.ofBytes (f.chunk seq) = some ⟨f.frameType, seq, f.total, f.slice seq⟩ :=
  ofBytes_chunkAt f.total_le hseq (f.length_slice_lt seq)

namespace FrameReassembler

section Push

variable {r : FrameReassembler} {bytes : Bytes} {c : Chunk}

theorem push_of_ofBytes (h : Chunk.ofBytes bytes = some c) :
    r.pushWithType bytes =
      match openFrame c.total c.frameType r with
      | .error e => (r, .error e)
      | .ok r => storeChunk c.total c.seq c.frameType c.data r := by
  unfold Chunk.ofBytes at h
  split at h
  next magic seqByte total len data =>
    split at h
    · cases h
    · next hchecks =>
      cases h
      rw [not_or, not_or, not_not, not_not] at hchecks
      obtain ⟨hmagic, hlen, htotal⟩ := hchecks
      unfold pushWithType
      dsimp only
      exact (if_neg (not_not.mpr hmagic)).trans
        ((if_neg (not_not.mpr hlen)).trans (if_neg htotal))
  next => cases h

theorem push_of_refused (h : Chunk.ofBytes bytes = none) :
    ∃ e, r.pushWithType bytes = (r, .error e) := by
  unfold Chunk.ofBytes at h
  split at h
  next magic seqByte total len data =>
    split at h
    · next hchecks =>
      unfold pushWithType
      dsimp only
      by_cases hmagic : magic ≠ FRAME_MAGIC
      · rw [if_pos hmagic]
        exact ⟨_, rfl⟩
      by_cases hlen : len.toNat ≠ data.length
      · rw [if_neg hmagic, if_pos hlen]
        exact ⟨_, rfl⟩
      · have htotal := (hchecks.resolve_left hmagic).resolve_left hlen
        rw [if_neg hmagic, if_neg hlen, if_pos htotal]
        exact ⟨_, rfl⟩
    · cases h
  next hshort =>
    unfold pushWithType
    split
    next => exact absurd rfl (hshort _ _ _ _ _)
    next => exact ⟨_, rfl⟩

/-- A push throws and changes nothing, or stores a chunk. -/
theorem push_cases (bytes : Bytes) (r : FrameReassembler) :
    (∃ e, r.pushWithType bytes = (r, .error e)) ∨
      ∃ c r', Chunk.ofBytes bytes = some c ∧ openFrame c.total c.frameType r = .ok r' ∧
        r.pushWithType bytes = storeChunk c.total c.seq c.frameType c.data r' := by
  cases hc : Chunk.ofBytes bytes with
  | none => exact Or.inl (push_of_refused hc)
  | some c =>
      have hpush := push_of_ofBytes (r := r) hc
      cases hopen : openFrame c.total c.frameType r with
      | error e =>
          rw [hopen] at hpush
          exact Or.inl ⟨e, hpush⟩
      | ok r' =>
          rw [hopen] at hpush
          exact Or.inr ⟨c, r', rfl, hopen, hpush⟩

end Push

/-- A chunk that passes the checks of its header, as `receive` treats it. -/
def accept (c : Chunk) (r : FrameReassembler) : FrameReassembler × Option ReassembledFrame :=
  match openFrame c.total c.frameType r with
  | .error _ => (new, none)
  | .ok r =>
      match storeChunk c.total c.seq c.frameType c.data r with
      | (_, .error _) => (new, none)
      | (r, .ok frame) => (r, frame)

/-- A chunk is accepted, or refused with a fresh reassembler. -/
theorem receive_cases (chunk : Bytes) (r : FrameReassembler) :
    r.receive chunk = (new, none) ∨ ∃ c, r.receive chunk = r.accept c := by
  unfold receive
  cases hc : Chunk.ofBytes chunk with
  | none =>
      obtain ⟨e, heq⟩ := push_of_refused (r := r) hc
      rw [heq]
      exact Or.inl rfl
  | some c =>
      refine Or.inr ⟨c, ?_⟩
      rw [push_of_ofBytes hc]
      unfold accept
      cases openFrame c.total c.frameType r with
      | error e => rfl
      | ok r => rfl

/-- A chunk of a frame that was cut is accepted. -/
theorem receive_chunk (f : CutFrame) {seq : ℕ} (hseq : seq < f.total) (r : FrameReassembler) :
    r.receive (f.chunk seq) = r.accept ⟨f.frameType, seq, f.total, f.slice seq⟩ := by
  unfold receive accept
  rw [push_of_ofBytes (f.ofBytes_chunk hseq)]
  dsimp only
  cases openFrame f.total f.frameType r with
  | error e => rfl
  | ok r => rfl

/-! ### Slots -/

/-- The bytes that the slots hold. -/
def slotBytes (slots : List (Option Bytes)) : ℕ :=
  (slots.map fun slot => (slot.map List.length).getD 0).sum

@[simp] theorem slotBytes_cons (slot : Option Bytes) (slots : List (Option Bytes)) :
    slotBytes (slot :: slots) = (slot.map List.length).getD 0 + slotBytes slots :=
  List.sum_cons

theorem slotBytes_append (slots slots' : List (Option Bytes)) :
    slotBytes (slots ++ slots') = slotBytes slots + slotBytes slots' := by
  unfold slotBytes
  rw [List.map_append, List.sum_append]

theorem slotBytes_replicate (k : ℕ) : slotBytes (List.replicate k none) = 0 := by
  simp [slotBytes]

theorem slotBytes_set {data : Bytes} : ∀ {slots : List (Option Bytes)} {seq : ℕ},
    slots[seq]? = some none →
      slotBytes (slots.set seq (some data)) = slotBytes slots + data.length
  | [], _, h => by cases h
  | slot :: slots, 0, h => by
      cases h
      simp [Nat.add_comm]
  | slot :: slots, seq + 1, h => by
      have hset : slotBytes (slots.set seq (some data)) = slotBytes slots + data.length :=
        slotBytes_set h
      rw [List.set_cons_succ, slotBytes_cons, slotBytes_cons, hset, Nat.add_assoc]

theorem length_setSlot (seq : ℕ) (data : Bytes) (slots : List (Option Bytes)) :
    (setSlot seq data slots).length = max slots.length (seq + 1) := by
  unfold setSlot
  rw [List.length_set, List.length_append, List.length_replicate]
  omega

/-- Before a slot is set, it exists. -/
theorem getElem?_grown (seq : ℕ) (slots : List (Option Bytes)) :
    (slots ++ List.replicate (seq + 1 - slots.length) none)[seq]? =
      some (slots.getD seq none) := by
  rw [List.getElem?_append, List.getD_eq_getElem?_getD]
  split
  next h => rw [List.getElem?_eq_getElem h, Option.getD_some]
  next h =>
    have hlt : seq - slots.length < seq + 1 - slots.length := by omega
    rw [List.getElem?_replicate_of_lt hlt, List.getElem?_eq_none (Nat.not_lt.mp h)]
    rfl

theorem getD_setSlot (seq i : ℕ) (data : Bytes) (slots : List (Option Bytes)) :
    (setSlot seq data slots).getD i none = if i = seq then some data else slots.getD i none := by
  have hseq := (List.getElem?_eq_some_iff.mp (getElem?_grown seq slots)).1
  unfold setSlot
  rw [List.getD_eq_getElem?_getD]
  by_cases h : i = seq
  · subst h
    rw [if_pos rfl, List.getElem?_set_self hseq]
    rfl
  · rw [if_neg h, List.getElem?_set_ne (Ne.symm h), List.getElem?_append,
      List.getD_eq_getElem?_getD]
    split
    next => rfl
    next hi =>
      rw [List.getElem?_eq_none (Nat.not_lt.mp hi), List.getElem?_replicate]
      split
      next => rfl
      next => rfl

theorem slotBytes_setSlot {seq : ℕ} {data : Bytes} {slots : List (Option Bytes)}
    (h : slots.getD seq none = none) :
    slotBytes (setSlot seq data slots) = slotBytes slots + data.length := by
  have hget := getElem?_grown seq slots
  rw [h] at hget
  unfold setSlot
  rw [slotBytes_set hget, slotBytes_append, slotBytes_replicate, Nat.add_zero]

theorem joinSlots_length : ∀ {slots : List (Option Bytes)} {payload : Bytes},
    joinSlots slots = some payload → payload.length = slotBytes slots
  | [], _, h => by
      cases h
      rfl
  | none :: _, _, h => by cases h
  | some data :: slots, _, h => by
      obtain ⟨rest, hrest, rfl⟩ := Option.map_eq_some_iff.mp h
      have ih := joinSlots_length hrest
      rw [List.length_append, slotBytes_cons, ih]
      rfl

theorem joinSlots_map_some : ∀ slices : List Bytes,
    joinSlots (slices.map some) = some slices.flatten
  | [] => rfl
  | slice :: slices => by simp [joinSlots, joinSlots_map_some slices]

/-! ### The open frame -/

/-- The reassembler holds these slots of a frame with so many chunks. -/
structure Holds (n : ℕ) (ft : FrameType) (F : Finset ℕ) (r : FrameReassembler) : Prop where
  expectedTotal : r.expectedTotal = n
  frameType : r.currentFrameType = some ft
  filled : ∀ i, (r.slots.getD i none).isSome ↔ i ∈ F
  received : r.received = F.card
  opened : 0 < F.card
  unfinished : F.card < n
  length : n ≤ r.slots.length

section Accept

variable {n : ℕ} {ft : FrameType} {F : Finset ℕ} {r : FrameReassembler} {c : Chunk}

theorem Holds.one_lt (h : Holds n ft F r) : 1 < n :=
  Nat.lt_of_le_of_lt h.opened h.unfinished

theorem Holds.ne_new (h : Holds n ft F r) : r ≠ new := by
  rintro rfl
  have htotal := h.expectedTotal
  have hlt := h.one_lt
  rw [← htotal] at hlt
  exact absurd hlt (by decide)

theorem Holds.openFrame (h : Holds n ft F r) (htotal : c.total = n) (htype : c.frameType = ft) :
    FrameReassembler.openFrame c.total c.frameType r = .ok r := by
  have hn : r.expectedTotal ≠ 0 := by
    rw [h.expectedTotal]
    exact Nat.ne_of_gt (Nat.lt_trans Nat.zero_lt_one h.one_lt)
  unfold FrameReassembler.openFrame
  rw [if_neg hn, htotal, h.expectedTotal, htype, h.frameType]
  simp

/-- A chunk of another frame empties the reassembler. -/
theorem Holds.accept_other (h : Holds n ft F r) (hother : c.total ≠ n ∨ c.frameType ≠ ft) :
    r.accept c = (new, none) := by
  have hn : r.expectedTotal ≠ 0 := by
    rw [h.expectedTotal]
    exact Nat.ne_of_gt (Nat.lt_trans Nat.zero_lt_one h.one_lt)
  unfold accept FrameReassembler.openFrame
  rw [if_neg hn, h.expectedTotal, h.frameType]
  by_cases htotal : n = c.total
  · have htype : some ft ≠ some c.frameType := by
      intro heq
      exact hother.elim (fun hne => hne htotal.symm) fun hne => hne (Option.some.inj heq).symm
    rw [if_neg (not_not.mpr htotal), if_pos htype]
  · rw [if_pos htotal]

/-- A chunk whose slot is filled is ignored. -/
theorem Holds.accept_duplicate (h : Holds n ft F r) (htotal : c.total = n)
    (htype : c.frameType = ft) (hseq : c.seq ∈ F) : r.accept c = (r, none) := by
  unfold accept
  rw [h.openFrame htotal htype]
  unfold storeChunk
  dsimp only
  rw [if_pos ((h.filled c.seq).mpr hseq)]

theorem Holds.free (h : Holds n ft F r) {seq : ℕ} (hseq : seq ∉ F) :
    r.slots.getD seq none = none := by
  rw [← Option.not_isSome_iff_eq_none, h.filled]
  exact hseq

/-- A chunk fills its slot. -/
theorem Holds.accept_fills (h : Holds n ft F r) (htotal : c.total = n) (htype : c.frameType = ft)
    (hseq : c.seq ∉ F) (hlt : F.card + 1 < n) :
    ∃ r', r.accept c = (r', none) ∧ Holds n ft (insert c.seq F) r' ∧
      slotBytes r'.slots = slotBytes r.slots + c.data.length := by
  have hfree := h.free hseq
  have hcard : (insert c.seq F).card = F.card + 1 := Finset.card_insert_of_notMem hseq
  refine ⟨{ r with slots := setSlot c.seq c.data r.slots, received := r.received + 1 }, ?_, ?_,
    slotBytes_setSlot hfree⟩
  · unfold accept
    rw [h.openFrame htotal htype]
    unfold storeChunk
    dsimp only
    rw [hfree, if_neg (by simp), if_pos (by rw [h.received, htotal]; exact hlt)]
  · constructor
    · exact h.expectedTotal
    · exact h.frameType
    · intro i
      rw [getD_setSlot, Finset.mem_insert]
      by_cases hi : i = c.seq
      · rw [if_pos hi]
        exact ⟨fun _ => Or.inl hi, fun _ => rfl⟩
      · rw [if_neg hi, h.filled]
        exact ⟨Or.inr, fun hmem => hmem.resolve_left hi⟩
    · rw [hcard, h.received]
    · rw [hcard]
      exact Nat.succ_pos _
    · rw [hcard]
      exact hlt
    · rw [length_setSlot]
      exact le_max_of_le_left h.length

/-- The chunk that makes the count full closes the frame. -/
theorem Holds.accept_closes (h : Holds n ft F r) (htotal : c.total = n) (htype : c.frameType = ft)
    (hseq : c.seq ∉ F) (hle : n ≤ F.card + 1) :
    (r.accept c).1 = new ∧ ∀ frame, (r.accept c).2 = some frame →
      frame.payload.length = slotBytes r.slots + c.data.length := by
  have hfree := h.free hseq
  unfold accept
  rw [h.openFrame htotal htype]
  unfold storeChunk
  dsimp only
  rw [hfree, if_neg (by simp), if_neg (by rw [h.received, htotal]; exact Nat.not_lt.mpr hle)]
  cases hjoin : joinSlots (setSlot c.seq c.data r.slots) with
  | none => exact ⟨rfl, nofun⟩
  | some payload =>
      refine ⟨rfl, fun frame hframe => ?_⟩
      cases hframe
      rw [joinSlots_length hjoin, slotBytes_setSlot hfree]

theorem openFrame_new (total : ℕ) (ft : FrameType) :
    openFrame total ft new = .ok ⟨List.replicate total none, total, 0, some ft⟩ := rfl

theorem getD_replicate_none (n i : ℕ) :
    (List.replicate n (none : Option Bytes)).getD i none = none := by
  rw [List.getD_eq_getElem?_getD, List.getElem?_replicate]
  split
  next => rfl
  next => rfl

/-- A frame of so many chunks is open and its first slices were received. -/
def gathered (ft : FrameType) (total : ℕ) (slices : List Bytes) : FrameReassembler where
  slots := slices.map some ++ List.replicate (total - slices.length) none
  expectedTotal := total
  received := slices.length
  currentFrameType := some ft

theorem openFrame_gathered {ft : FrameType} {total : ℕ} (htotal : 0 < total)
    (slices : List Bytes) :
    openFrame total ft (gathered ft total slices) = .ok (gathered ft total slices) := by
  unfold openFrame
  rw [if_neg (show (gathered ft total slices).expectedTotal ≠ 0 from Nat.ne_of_gt htotal)]
  simp [gathered]

theorem setSlot_gathered {ft : FrameType} {total : ℕ} {slices : List Bytes} {data : Bytes}
    (hlt : slices.length < total) :
    setSlot slices.length data (gathered ft total slices).slots =
      (gathered ft total (slices ++ [data])).slots := by
  have hlen : (slices.map some).length = slices.length := List.length_map _
  have htail : total - slices.length = (total - (slices.length + 1)) + 1 := by omega
  unfold setSlot gathered
  dsimp only
  rw [List.length_append, hlen, List.length_replicate,
    show slices.length + 1 - (slices.length + (total - slices.length)) = 0 by omega,
    List.replicate_zero, List.append_nil, List.set_append_right _ _ (le_of_eq hlen), hlen,
    Nat.sub_self, htail, List.replicate_succ, List.set_cons_zero, List.map_append,
    List.append_assoc, List.length_append]
  rfl

/-- The next slice in order; the last one closes the frame. -/
theorem store_gathered {ft : FrameType} {total : ℕ} {slices : List Bytes} {data : Bytes}
    (hlt : slices.length < total) :
    storeChunk total slices.length ft data (gathered ft total slices) =
      if slices.length + 1 < total then (gathered ft total (slices ++ [data]), .ok none)
      else (new, .ok (some ⟨ft, (slices ++ [data]).flatten⟩)) := by
  have hlen : (slices.map some).length = slices.length := List.length_map _
  have hfree : (gathered ft total slices).slots.getD slices.length none = none := by
    unfold gathered
    dsimp only
    rw [List.getD_append_right _ _ _ _ (le_of_eq hlen), hlen, getD_replicate_none]
  unfold storeChunk
  rw [hfree, if_neg (by simp)]
  dsimp only
  rw [setSlot_gathered hlt]
  by_cases hmore : slices.length + 1 < total
  · rw [if_pos hmore, if_pos (show (gathered ft total slices).received + 1 < total from hmore)]
    simp [gathered]
  · have htotal : (slices ++ [data]).length = total := by
      rw [List.length_append, List.length_singleton]
      omega
    have hjoin : joinSlots (gathered ft total (slices ++ [data])).slots =
        some (slices ++ [data]).flatten := by
      unfold gathered
      dsimp only
      rw [htotal, Nat.sub_self, List.replicate_zero, List.append_nil, joinSlots_map_some]
    rw [if_neg hmore, if_neg (show ¬ (gathered ft total slices).received + 1 < total from hmore),
      hjoin]
    rfl

/-- The first chunk of a frame of several opens it. -/
theorem accept_opens (hn : 1 < c.total) :
    ∃ r', new.accept c = (r', none) ∧ Holds c.total c.frameType {c.seq} r' ∧
      slotBytes r'.slots = c.data.length := by
  have hfree := getD_replicate_none c.total c.seq
  refine ⟨⟨setSlot c.seq c.data (List.replicate c.total none), c.total, 1, some c.frameType⟩, ?_,
    ?_, ?_⟩
  · unfold accept
    rw [openFrame_new]
    unfold storeChunk
    dsimp only
    rw [hfree, if_neg (by simp), if_pos hn]
  · constructor
    · rfl
    · rfl
    · intro i
      rw [getD_setSlot, Finset.mem_singleton]
      by_cases hi : i = c.seq
      · rw [if_pos hi]
        exact ⟨fun _ => hi, fun _ => rfl⟩
      · rw [if_neg hi, getD_replicate_none]
        exact ⟨fun hsome => (nomatch hsome), fun heq => absurd heq hi⟩
    · rw [Finset.card_singleton]
    · rw [Finset.card_singleton]
      exact Nat.zero_lt_one
    · rw [Finset.card_singleton]
      exact hn
    · rw [length_setSlot, List.length_replicate]
      exact le_max_left _ _
  · rw [slotBytes_setSlot hfree, slotBytes_replicate, Nat.zero_add]

/-- A chunk that says it is alone leaves nothing behind. -/
theorem accept_single (hn : c.total ≤ 1) :
    (new.accept c).1 = new ∧ ∀ frame, (new.accept c).2 = some frame →
      frame.payload.length = c.data.length := by
  have hfree := getD_replicate_none c.total c.seq
  unfold accept
  rw [openFrame_new]
  unfold storeChunk
  dsimp only
  rw [hfree, if_neg (by simp), if_neg (Nat.not_lt.mpr hn)]
  cases hjoin : joinSlots (setSlot c.seq c.data (List.replicate c.total none)) with
  | none => exact ⟨rfl, nofun⟩
  | some payload =>
      refine ⟨rfl, fun frame hframe => ?_⟩
      cases hframe
      rw [joinSlots_length hjoin, slotBytes_setSlot hfree, slotBytes_replicate, Nat.zero_add]

/-- Between two chunks the reassembler is empty or holds some slots of a frame. -/
def Steady (r : FrameReassembler) : Prop := r = new ∨ ∃ n ft F, Holds n ft F r

theorem Steady.accept (h : Steady r) (c : Chunk) : Steady (r.accept c).1 := by
  rcases h with rfl | ⟨n, ft, F, h⟩
  · rcases Nat.lt_or_ge 1 c.total with hn | hn
    · obtain ⟨r', heq, hholds, -⟩ := accept_opens hn
      rw [heq]
      exact Or.inr ⟨_, _, _, hholds⟩
    · exact Or.inl (accept_single hn).1
  · by_cases hother : c.total ≠ n ∨ c.frameType ≠ ft
    · rw [h.accept_other hother]
      exact Or.inl rfl
    · rw [not_or, not_not, not_not] at hother
      by_cases hseq : c.seq ∈ F
      · rw [h.accept_duplicate hother.1 hother.2 hseq]
        exact Or.inr ⟨n, ft, F, h⟩
      · rcases Nat.lt_or_ge (F.card + 1) n with hlt | hge
        · obtain ⟨r', heq, hholds, -⟩ := h.accept_fills hother.1 hother.2 hseq hlt
          rw [heq]
          exact Or.inr ⟨_, _, _, hholds⟩
        · exact Or.inl (h.accept_closes hother.1 hother.2 hseq hge).1

theorem Steady.receive (h : Steady r) (chunk : Bytes) : Steady (r.receive chunk).1 := by
  rcases receive_cases chunk r with heq | ⟨c, heq⟩
  · rw [heq]
    exact Or.inl rfl
  · rw [heq]
    exact h.accept c

end Accept

/-! ## What a sequence of chunks does -/

/-- The reassembler after the chunks, with the frames they completed. -/
def receiveAll : FrameReassembler → List Bytes → FrameReassembler × List ReassembledFrame
  | r, [] => (r, [])
  | r, chunk :: chunks =>
      ((receiveAll (r.receive chunk).1 chunks).1,
        (r.receive chunk).2.toList ++ (receiveAll (r.receive chunk).1 chunks).2)

theorem receiveAll_append (r : FrameReassembler) (chunks chunks' : List Bytes) :
    receiveAll r (chunks ++ chunks') =
      ((receiveAll (receiveAll r chunks).1 chunks').1,
        (receiveAll r chunks).2 ++ (receiveAll (receiveAll r chunks).1 chunks').2) := by
  induction chunks generalizing r with
  | nil => rfl
  | cons chunk chunks ih =>
      rw [List.cons_append]
      simp only [receiveAll, ih, List.append_assoc]

theorem Steady.receiveAll {r : FrameReassembler} (h : Steady r) (chunks : List Bytes) :
    Steady (receiveAll r chunks).1 := by
  induction chunks generalizing r with
  | nil => exact h
  | cons chunk chunks ih => exact ih (h.receive chunk)

end FrameReassembler

open FrameReassembler

/-! ### A frame from an empty reassembler -/

namespace CutFrame

variable (f : CutFrame)

/-- The chunks from one on. -/
def chunksFrom (k m : ℕ) : List Bytes := (List.range' k m).map f.chunk

theorem chunksFrom_succ (k m : ℕ) : f.chunksFrom k (m + 1) = f.chunk k :: f.chunksFrom (k + 1) m :=
  rfl

theorem chunks_eq_from : f.chunks = f.chunksFrom 0 f.total := by
  rw [chunks_eq, List.range_eq_range']
  rfl

/-- The frame is open and so many of its chunks were received. -/
def progress (k : ℕ) : FrameReassembler where
  slots := ((List.range k).map f.slice).map some ++ List.replicate (f.total - k) none
  expectedTotal := f.total
  received := k
  currentFrameType := some f.frameType

theorem progress_eq (k : ℕ) :
    f.progress k = gathered f.frameType f.total ((List.range k).map f.slice) := by
  unfold progress gathered
  rw [List.length_map, List.length_range]

theorem store_progress {k : ℕ} (hk : k < f.total) :
    storeChunk f.total k f.frameType (f.slice k) (f.progress k) =
      if k + 1 < f.total then (f.progress (k + 1), .ok none) else (new, .ok (some f.frame)) := by
  have hlen : ((List.range k).map f.slice).length = k := by rw [List.length_map, List.length_range]
  have hstep : (List.range k).map f.slice ++ [f.slice k] = (List.range (k + 1)).map f.slice := by
    rw [List.range_succ, List.map_append]
    rfl
  have hstore := @store_gathered f.frameType f.total ((List.range k).map f.slice) (f.slice k)
    (by rw [hlen]; exact hk)
  rw [hlen, hstep, ← f.progress_eq, ← f.progress_eq] at hstore
  rw [hstore]
  by_cases hlt : k + 1 < f.total
  · rw [if_pos hlt, if_pos hlt]
  · have htotal : k + 1 = f.total := Nat.le_antisymm hk (Nat.not_lt.mp hlt)
    rw [if_neg hlt, if_neg hlt, htotal, ← List.flatMap_def, f.flatMap_slices]
    rfl

/-- The next chunk in order. -/
theorem receive_progress {k : ℕ} (hk : k < f.total) {r : FrameReassembler}
    (hopen : openFrame f.total f.frameType r = .ok (f.progress k)) :
    r.receive (f.chunk k) =
      if k + 1 < f.total then (f.progress (k + 1), none) else (new, some f.frame) := by
  rw [receive_chunk f hk]
  unfold accept
  rw [hopen]
  dsimp only
  rw [f.store_progress hk]
  by_cases hlt : k + 1 < f.total
  · rw [if_pos hlt, if_pos hlt]
  · rw [if_neg hlt, if_neg hlt]

theorem openFrame_progress (k : ℕ) :
    openFrame f.total f.frameType (f.progress k) = .ok (f.progress k) := by
  rw [progress_eq]
  exact openFrame_gathered f.total_pos _

theorem receiveAll_progress (m : ℕ) : ∀ (k : ℕ) (r : FrameReassembler), k + (m + 1) = f.total →
    openFrame f.total f.frameType r = .ok (f.progress k) →
    receiveAll r (f.chunksFrom k (m + 1)) = (new, [f.frame]) := by
  induction m with
  | zero =>
      intro k r hk hopen
      rw [chunksFrom_succ, receiveAll, f.receive_progress (by omega) hopen,
        if_neg (Nat.not_lt.mpr (le_of_eq hk.symm))]
      rfl
  | succ m ih =>
      intro k r hk hopen
      rw [chunksFrom_succ, receiveAll, f.receive_progress (by omega) hopen, if_pos (by omega)]
      rw [ih (k + 1) (f.progress (k + 1)) (by omega) (f.openFrame_progress (k + 1))]
      rfl

/-- **From an empty reassembler a frame comes out as it was cut.** -/
theorem receiveAll_chunks : receiveAll new f.chunks = (new, [f.frame]) := by
  obtain ⟨m, hm⟩ := Nat.exists_eq_succ_of_ne_zero (Nat.ne_of_gt f.total_pos)
  rw [chunks_eq_from, hm]
  exact f.receiveAll_progress m 0 new (by rw [hm, Nat.zero_add]) rfl

theorem receiveAll_flatMap (frames : List CutFrame) :
    receiveAll new (frames.flatMap CutFrame.chunks) = (new, frames.map CutFrame.frame) := by
  induction frames with
  | nil => rfl
  | cons f frames ih =>
      rw [List.flatMap_cons, receiveAll_append, f.receiveAll_chunks, ih]
      rfl

end CutFrame

/-! ### A frame from what earlier chunks left -/

/-- Nothing of an earlier frame gets in the way of the frame: the reassembler is
empty, or the frame is a single chunk, or the earlier frame looks the same and
the slot of its last chunk is still free, as are those beyond. -/
def Ready (f : CutFrame) (r : FrameReassembler) : Prop :=
  r.expectedTotal = 0 ∨ f.chunks.length = 1 ∨
    (r.expectedTotal = f.chunks.length ∧ r.currentFrameType = some f.frameType ∧
      ∀ i, (r.slots.getD i none).isSome → i + 1 < f.chunks.length)

section Rest

variable (f : CutFrame) {F : Finset ℕ} {r : FrameReassembler}

/-- In the frame that is open, the first chunks are there and the last one is
not: the rest completes it. -/
theorem receiveAll_completes (m : ℕ) : ∀ (k : ℕ) (F : Finset ℕ) (r : FrameReassembler),
    k + (m + 1) = f.total → Holds f.total f.frameType F r → Finset.range k ⊆ F →
    F ⊆ Finset.range (f.total - 1) → (receiveAll r (f.chunksFrom k (m + 1))).1 = new := by
  induction m with
  | zero =>
      intro k F r hk h hrange hlast
      have hF : F = Finset.range k := by
        apply Finset.Subset.antisymm ?_ hrange
        rwa [show k = f.total - 1 by omega]
      rw [CutFrame.chunksFrom_succ, receiveAll, receive_chunk f (by omega)]
      refine (h.accept_closes rfl rfl ?_ ?_).1
      · rw [hF]
        exact Finset.notMem_range_self
      · rw [hF, Finset.card_range]
        omega
  | succ m ih =>
      intro k F r hk h hrange hlast
      have hrange' : Finset.range (k + 1) ⊆ insert k F := by
        rw [Finset.range_add_one]
        exact Finset.insert_subset_insert k hrange
      rw [CutFrame.chunksFrom_succ, receiveAll, receive_chunk f (by omega)]
      dsimp only
      by_cases hseq : k ∈ F
      · rw [h.accept_duplicate rfl rfl hseq]
        rw [Finset.insert_eq_of_mem hseq] at hrange'
        exact ih (k + 1) F r (by omega) h hrange' hlast
      · have hlast' : insert k F ⊆ Finset.range (f.total - 1) := by
          apply Finset.insert_subset ?_ hlast
          rw [Finset.mem_range]
          omega
        have hcard := Finset.card_le_card hlast'
        rw [Finset.card_insert_of_notMem hseq, Finset.card_range] at hcard
        obtain ⟨r', heq, hholds, -⟩ := h.accept_fills (c := ⟨f.frameType, k, f.total, f.slice k⟩)
          rfl rfl hseq (by have := f.total_pos; omega)
        rw [heq]
        exact ih (k + 1) (insert k F) r' (by omega) hholds hrange' hlast'

/-- The tail of a frame stays behind. -/
theorem receiveAll_tail (m : ℕ) : ∀ (a k : ℕ) (r : FrameReassembler), k + m = f.total → 0 < a →
    a < k → Holds f.total f.frameType (Finset.Ico a k) r →
    Holds f.total f.frameType (Finset.Ico a f.total) (receiveAll r (f.chunksFrom k m)).1 := by
  induction m with
  | zero =>
      intro a k r hk _ _ h
      have hk' : k = f.total := by omega
      subst hk'
      exact h
  | succ m ih =>
      intro a k r hk ha hak h
      rw [CutFrame.chunksFrom_succ, receiveAll, receive_chunk f (by omega)]
      obtain ⟨r', heq, hholds, -⟩ := h.accept_fills (c := ⟨f.frameType, k, f.total, f.slice k⟩)
        rfl rfl (by simp) (by rw [Nat.card_Ico]; omega)
      rw [heq]
      dsimp only at hholds ⊢
      rw [← Nat.Ico_succ_right_eq_insert_Ico (le_of_lt hak)] at hholds
      exact ih a (k + 1) r' (by omega) ha (by omega) hholds

theorem receiveAll_tail_new {a m : ℕ} (ha : 0 < a) (hm : a + (m + 1) = f.total) :
    (receiveAll new (f.chunksFrom a (m + 1))).1 ≠ new := by
  rw [CutFrame.chunksFrom_succ, receiveAll, receive_chunk f (by omega)]
  obtain ⟨r', heq, hholds, -⟩ := accept_opens (c := ⟨f.frameType, a, f.total, f.slice a⟩)
    (by show 1 < f.total; omega)
  rw [heq]
  have hico : ({a} : Finset ℕ) = Finset.Ico a (a + 1) := by simp
  dsimp only at hholds
  rw [hico] at hholds
  exact (receiveAll_tail f m a (a + 1) r' (by omega) ha (Nat.lt_succ_self a) hholds).ne_new

/-- In the frame that is open the last chunk is there already, or one beyond it:
the frame closes too early and its rest stays behind. -/
theorem receiveAll_closes_early (m : ℕ) : ∀ (k i : ℕ) (F : Finset ℕ) (r : FrameReassembler),
    k + (m + 1) = f.total → Holds f.total f.frameType F r → Finset.range k ⊆ F →
    i ∈ F → f.total ≤ i + 1 → (receiveAll r (f.chunksFrom k (m + 1))).1 ≠ new := by
  induction m with
  | zero =>
      intro k i F r hk h hrange hi htotal
      -- With all chunks but the last one it would be closed.
      have hsub : insert i (Finset.range k) ⊆ F := Finset.insert_subset hi hrange
      have hcard := Finset.card_le_card hsub
      have hnot : i ∉ Finset.range k := by
        rw [Finset.mem_range]
        omega
      rw [Finset.card_insert_of_notMem hnot, Finset.card_range] at hcard
      have hlt := h.unfinished
      omega
  | succ m ih =>
      intro k i F r hk h hrange hi htotal
      have hrange' : Finset.range (k + 1) ⊆ insert k F := by
        rw [Finset.range_add_one]
        exact Finset.insert_subset_insert k hrange
      rw [CutFrame.chunksFrom_succ, receiveAll, receive_chunk f (by omega)]
      dsimp only
      by_cases hseq : k ∈ F
      · rw [h.accept_duplicate rfl rfl hseq]
        rw [Finset.insert_eq_of_mem hseq] at hrange'
        exact ih (k + 1) i F r (by omega) h hrange' hi htotal
      · rcases Nat.lt_or_ge (F.card + 1) f.total with hlt | hge
        · obtain ⟨r', heq, hholds, -⟩ := h.accept_fills
            (c := ⟨f.frameType, k, f.total, f.slice k⟩) rfl rfl hseq hlt
          rw [heq]
          exact ih (k + 1) i (insert k F) r' (by omega) hholds hrange'
            (Finset.mem_insert_of_mem hi) htotal
        · rw [(h.accept_closes (c := ⟨f.frameType, k, f.total, f.slice k⟩) rfl rfl hseq hge).1]
          exact receiveAll_tail_new f (Nat.succ_pos k) (by omega)

/-- **A complete frame leaves an empty reassembler if and only if nothing gets in
its way.** -/
theorem receiveAll_eq_new_iff (hr : Steady r) :
    (receiveAll r f.chunks).1 = new ↔ Ready f r := by
  unfold Ready
  rw [f.length_chunks]
  obtain ⟨m, hm⟩ := Nat.exists_eq_succ_of_ne_zero (Nat.ne_of_gt f.total_pos)
  rcases hr with rfl | ⟨n, ft, F, h⟩
  · rw [f.receiveAll_chunks]
    exact ⟨fun _ => Or.inl rfl, fun _ => rfl⟩
  · have hn : r.expectedTotal ≠ 0 := by
      rw [h.expectedTotal]
      exact Nat.ne_of_gt (Nat.lt_trans Nat.zero_lt_one h.one_lt)
    rw [f.chunks_eq_from, hm]
    by_cases hother : f.total ≠ n ∨ f.frameType ≠ ft
    · -- Its first chunk empties the reassembler.
      rw [CutFrame.chunksFrom_succ, receiveAll, receive_chunk f f.total_pos,
        h.accept_other hother]
      dsimp only
      constructor
      · intro hnew
        cases m with
        | zero => exact Or.inr (Or.inl rfl)
        | succ m =>
            exact absurd hnew (receiveAll_tail_new f Nat.zero_lt_one (by omega))
      · rintro (hempty | hsingle | ⟨htotal, htype, -⟩)
        · exact absurd hempty hn
        · have hm' : m = 0 := Nat.succ_injective hsingle
          subst hm'
          rfl
        · rw [h.expectedTotal] at htotal
          rw [h.frameType] at htype
          rcases hother with hne | hne
          · exact absurd (hm.trans htotal.symm) hne
          · exact absurd (Option.some.inj htype).symm hne
    · rw [not_or, not_not, not_not] at hother
      obtain ⟨rfl, rfl⟩ := hother
      have hlt := h.one_lt
      constructor
      · intro hnew
        refine Or.inr (Or.inr ⟨h.expectedTotal.trans hm, h.frameType, fun i hi => ?_⟩)
        by_contra hge
        exact receiveAll_closes_early f m 0 i F r (by omega) h (Finset.empty_subset _)
          ((h.filled i).mp hi) (by omega) hnew
      · rintro (hempty | hsingle | ⟨-, -, hfree⟩)
        · exact absurd hempty hn
        · omega
        · refine receiveAll_completes f m 0 F r (by omega) h (Finset.empty_subset _) fun i hi => ?_
          have hlast := hfree i ((h.filled i).mpr hi)
          rw [Finset.mem_range]
          omega

end Rest

/-- The byte so many times, cut for the default MTU. -/
def sampleFrame (n : ℕ) (b : UInt8) (hpos : 0 < n) (hle : n ≤ 304) : CutFrame where
  payload := List.replicate n b
  mtu := GATT_MTU_DEFAULT
  frameType := FrameType.SessionData
  chunks := (List.range ((n + 18) / 19)).map
    (chunkAt (List.replicate n b) 19 ((n + 18) / 19) FrameType.SessionData)
  negotiated := ⟨.error .library, rfl⟩
  cut := by
    have hcount : chunkCount (List.replicate n b) GATT_MTU_DEFAULT = (n + 18) / 19 := by
      unfold chunkCount
      rw [List.length_replicate]
      rfl
    rw [chunkFrame_eq_ok, hcount, List.length_replicate]
    refine ⟨⟨hle.trans (by decide), by decide, ?_, ?_⟩, rfl⟩
    · omega
    · omega

/-- **The framing layer resynchronises** where the first frame finds a slot of
its own for each of its chunks: whatever frames follow, each is emitted once, as
it was cut. Where an earlier frame gets in its way, the frame after the first one
may be lost too. -/
theorem framing_resynchronises_iff (history : List Bytes) (first : CutFrame) :
    (∀ frames : List CutFrame,
      (receiveAll (receiveAll new (history ++ first.chunks)).1
        (frames.flatMap CutFrame.chunks)).2 = frames.map CutFrame.frame) ↔
      Ready first (receiveAll new history).1 := by
  have hsteady : Steady (receiveAll new history).1 := Steady.receiveAll (Or.inl rfl) history
  rw [receiveAll_append, ← receiveAll_eq_new_iff first hsteady]
  dsimp only
  constructor
  · intro h
    rcases hsteady.receiveAll first.chunks with hnew | ⟨n, ft, F, hholds⟩
    · exact hnew
    · -- A frame of one chunk is lost.
      have hsingle := h [sampleFrame 1 0 Nat.one_pos (by decide)]
      generalize hf : sampleFrame 1 0 Nat.one_pos (by decide) = f at hsingle
      have htotal : f.total = 1 := by
        rw [← hf]
        rfl
      have hother := hholds.accept_other (c := ⟨f.frameType, 0, f.total, f.slice 0⟩)
        (Or.inl (by rw [htotal]; exact Nat.ne_of_lt hholds.one_lt))
      rw [List.flatMap_singleton, f.chunks_eq_from, htotal, CutFrame.chunksFrom_succ, receiveAll,
        receive_chunk f f.total_pos, hother] at hsingle
      cases hsingle
  · intro hnew frames
    rw [hnew, CutFrame.receiveAll_flatMap]

/-- The first chunk of a frame is lost, and the other one arrives late: each of
the following frames comes out with the end of the frame before. -/
theorem late_chunk_shifts_all_frames :
    let frame : UInt8 → CutFrame := fun b => sampleFrame 20 b (by decide) (by decide)
    let late := (frame 9).chunks.drop 1
    (receiveAll new (late ++ [frame 1, frame 2, frame 3].flatMap CutFrame.chunks)).2.map
        ReassembledFrame.payload =
      [List.replicate 19 1 ++ [9], List.replicate 19 2 ++ [1], List.replicate 19 3 ++ [2]] := by
  decide +kernel

end Oxpulse.Transport
