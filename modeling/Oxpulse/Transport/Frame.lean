import Oxpulse.Crypto.Primitives

/-!
# Frames and chunks

`frame.ts`: a payload is cut into at most sixteen chunks with a header of four
bytes — magic, type and sequence nibbles, chunk count, data length — and
`FrameReassembler` puts them together again, one frame at a time.
-/

namespace Oxpulse.Transport

open Oxpulse.Crypto

def FRAME_MAGIC : UInt8 := 0xc8
def MAX_FRAME_SIZE : ℕ := 65536
def FRAME_HEADER_LEN : ℕ := 4

/-- A received type is whatever the upper nibble of a chunk says. -/
abbrev FrameType : Type := Fin 16

namespace FrameType

def HandshakeMsg1 : FrameType := 0
def HandshakeMsg2 : FrameType := 1
def HandshakeMsg3 : FrameType := 2
def SessionData : FrameType := 3

end FrameType

structure ReassembledFrame : Type where
  frameType : FrameType
  payload : Bytes
deriving DecidableEq

/-- The chunk with sequence number `seq` of `total`. -/
def chunkAt (payload : Bytes) (dataPerChunk total : ℕ) (frameType : FrameType) (seq : ℕ) : Bytes :=
  let slice := (payload.drop (seq * dataPerChunk)).take dataPerChunk
  [FRAME_MAGIC, UInt8.ofNat (frameType.val * 16 + seq % 16), UInt8.ofNat total,
    UInt8.ofNat slice.length] ++ slice

def chunkFrame (payload : Bytes) (mtu : ℕ) (frameType : FrameType) : Except JsError (List Bytes) :=
  if payload.length > MAX_FRAME_SIZE then .error (.error "payload exceeds MAX_FRAME_SIZE")
  else if mtu ≤ FRAME_HEADER_LEN then .error (.error "mtu too small")
  else
    let dataPerChunk := mtu - FRAME_HEADER_LEN
    let total := (payload.length + dataPerChunk - 1) / dataPerChunk
    if total > 16 then .error (.error "frame requires >16 chunks; use B.3 mesh-bundle layer")
    else if total = 0 then .error (.error "empty payload")
    else .ok ((List.range total).map (chunkAt payload dataPerChunk total frameType))

/-- How many chunks a payload takes. -/
def chunkCount (payload : Bytes) (mtu : ℕ) : ℕ :=
  (payload.length + (mtu - FRAME_HEADER_LEN) - 1) / (mtu - FRAME_HEADER_LEN)

theorem chunkFrame_eq_ok {payload : Bytes} {mtu : ℕ} {frameType : FrameType}
    {chunks : List Bytes} :
    chunkFrame payload mtu frameType = .ok chunks ↔
      (payload.length ≤ MAX_FRAME_SIZE ∧ FRAME_HEADER_LEN < mtu ∧
        0 < chunkCount payload mtu ∧ chunkCount payload mtu ≤ 16) ∧
      chunks = (List.range (chunkCount payload mtu)).map
        (chunkAt payload (mtu - FRAME_HEADER_LEN) (chunkCount payload mtu) frameType) := by
  unfold chunkFrame
  dsimp only
  rw [show (payload.length + (mtu - FRAME_HEADER_LEN) - 1) / (mtu - FRAME_HEADER_LEN) =
    chunkCount payload mtu from rfl]
  split
  next h => simp [Nat.not_le.mpr h]
  split
  next h => simp [Nat.not_lt.mpr h]
  split
  next h => simp [Nat.not_le.mpr h]
  split
  next h => simp [h]
  next h1 h2 h3 h4 =>
    rw [Except.ok.injEq]
    constructor
    · rintro rfl
      exact ⟨⟨Nat.not_lt.mp h1, Nat.not_le.mp h2, Nat.pos_of_ne_zero h4, Nat.not_lt.mp h3⟩, rfl⟩
    · rintro ⟨-, rfl⟩
      rfl

/-! ## Reassembly -/

theorem nibble_lt (b : UInt8) : b.toNat / 16 < 16 := by
  have := b.toNat_lt
  omega

structure FrameReassembler : Type where
  /-- A hole is `none`; the array grows when a chunk lies beyond it. -/
  slots : List (Option Bytes)
  expectedTotal : ℕ
  received : ℕ
  currentFrameType : Option FrameType
deriving DecidableEq

namespace FrameReassembler

def new : FrameReassembler where
  slots := []
  expectedTotal := 0
  received := 0
  currentFrameType := none

/-- `slots[seq] = data`, growing the array with holes. -/
def setSlot (seq : ℕ) (data : Bytes) (slots : List (Option Bytes)) : List (Option Bytes) :=
  (slots ++ List.replicate (seq + 1 - slots.length) none).set seq (some data)

/-- The payload, unless a slot is a hole. -/
def joinSlots : List (Option Bytes) → Option Bytes
  | [] => some []
  | none :: _ => none
  | some data :: slots => (joinSlots slots).map (data ++ ·)

/-- Open a frame with the first chunk, or check that the chunk belongs to the
frame that is open. -/
def openFrame (total : ℕ) (ft : FrameType) (r : FrameReassembler) :
    Except JsError FrameReassembler :=
  if r.expectedTotal = 0 then
    .ok { r with
      expectedTotal := total
      slots := List.replicate total none
      currentFrameType := some ft }
  else if r.expectedTotal ≠ total then .error (.error "total mismatch")
  else if r.currentFrameType ≠ some ft then .error (.error "frame_type mismatch within frame")
  else .ok r

/-- Store the data of a chunk of the open frame; the last one closes it. -/
def storeChunk (total seq : ℕ) (ft : FrameType) (data : Bytes) (r : FrameReassembler) :
    FrameReassembler × Except JsError (Option ReassembledFrame) :=
  if (r.slots.getD seq none).isSome then (r, .ok none) -- duplicate
  else
    let r := { r with slots := setSlot seq data r.slots, received := r.received + 1 }
    if r.received < total then (r, .ok none)
    else
      match joinSlots r.slots with
      | none => (r, .error (.error "hole in slots"))
      | some payload => (new, .ok (some ⟨r.currentFrameType.getD ft, payload⟩))

/-- The reassembler after the chunk, with the frame it completed. -/
def pushWithType (chunk : Bytes) (r : FrameReassembler) :
    FrameReassembler × Except JsError (Option ReassembledFrame) :=
  match chunk with
  | magic :: seqByte :: total :: len :: data =>
      if magic ≠ FRAME_MAGIC then (r, .error (.error "bad magic byte"))
      else
        let ft : FrameType := ⟨seqByte.toNat / 16, nibble_lt seqByte⟩
        let seq := seqByte.toNat % 16
        if len.toNat ≠ data.length then
          (r, .error (.error "len-field mismatch with chunk size"))
        else if total.toNat > 16 then
          (r, .error (.error "total exceeds 16 — wire incompatible with B.2"))
        else
          match openFrame total.toNat ft r with
          | .error e => (r, .error e)
          | .ok r => storeChunk total.toNat seq ft data r
  | _ => (r, .error (.error "chunk too short"))

/-- A chunk as `handleIncomingChunk` treats it: an exception is answered with a
fresh reassembler. -/
def receive (chunk : Bytes) (r : FrameReassembler) : FrameReassembler × Option ReassembledFrame :=
  match r.pushWithType chunk with
  | (_, .error _) => (new, none)
  | (r, .ok frame) => (r, frame)

end FrameReassembler

/-- A frame of two chunks, put together again. -/
example : (match chunkFrame (List.replicate 20 7) 23 FrameType.SessionData with
    | .ok [c₁, c₂] => ((FrameReassembler.new.pushWithType c₁).1.pushWithType c₂).2
    | _ => .ok none) = .ok (some ⟨FrameType.SessionData, List.replicate 20 7⟩) := by
  decide +kernel

end Oxpulse.Transport
