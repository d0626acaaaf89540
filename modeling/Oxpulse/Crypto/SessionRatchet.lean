import Mathlib.Logic.Function.Iterate
import Oxpulse.Foundation.Coroutine
import Oxpulse.Foundation.InsMap
import Oxpulse.Crypto.ReplayWindow

/-!
# The per-frame key ratchet

`session-ratchet.ts`: every frame is sealed under its own key, derived from a
chain that advances once per frame. The receiver keeps the keys of a trailing
window and of a short lookahead in `RecvKeyCache`, and the replay bitmap
decides which counters it still accepts.

`encrypt` and `decrypt` are coroutines: they suspend at `importKey` and at the
AEAD operation. Wiping a superseded buffer writes to storage nothing else
refers to, so a wiped chain is simply replaced here.
-/

namespace Oxpulse.Crypto

open Oxpulse.Coroutine

def AEAD_KEY_BYTES : ℕ := 16
def TAG_LEN : ℕ := 16
def CHAIN_KEY_BYTES : ℕ := 32

def INFO_FRAME_KEY : Bytes := textEncode "mesh/frame-ratchet/v1/key"
def INFO_FRAME_RATCHET : Bytes := textEncode "mesh/frame-ratchet/v1/ratchet"

def RECV_WINDOW_SIZE : ℕ := REPLAY_WINDOW_SIZE
def RECV_LOOKAHEAD : ℕ := 8

inductive Direction : Type where
  | initiator
  | responder
deriving DecidableEq, Repr

def Direction.opposite : Direction → Direction
  | .initiator => .responder
  | .responder => .initiator

/-! ## Key derivation -/

def deriveFrameKey (P : Primitives) (chainKey : Bytes) : Bytes :=
  P.hkdf chainKey none INFO_FRAME_KEY AEAD_KEY_BYTES

def ratchetChain (P : Primitives) (chainKey : Bytes) : Bytes :=
  P.hkdf chainKey none INFO_FRAME_RATCHET CHAIN_KEY_BYTES

/-- Direction byte, three zero bytes, big-endian counter: twelve bytes. -/
def makeNonce (direction : Direction) (counter : ℕ) : Bytes :=
  (match direction with | .initiator => 0x00 | .responder => 0x01) ::
    ([0, 0, 0] ++ setBigUint64 counter)

/-! ## The receive key cache -/

structure RecvKeyCache : Type where
  keys : InsMap ℤ Bytes
  lowestCounter : ℤ
  chainAtLowest : Bytes
  chain : Bytes
  highestDerived : ℤ

namespace RecvKeyCache

/-- One round of the loop of `fill`. -/
def deriveNext (P : Primitives) (c : RecvKeyCache) : RecvKeyCache :=
  let ctr := c.highestDerived + 1
  { c with
    keys := c.keys.set ctr (deriveFrameKey P c.chain)
    chain := ratchetChain P c.chain
    highestDerived := ctr }

/-- `while (highestDerived < upTo)`: a round raises `highestDerived` by one. -/
def fill (P : Primitives) (c : RecvKeyCache) (upTo : ℤ) : RecvKeyCache :=
  (deriveNext P)^[(upTo - c.highestDerived).toNat] c

def new (P : Primitives) (initialChain : Bytes) (startCounter : ℤ) : RecvKeyCache :=
  fill P
    { keys := .empty
      lowestCounter := startCounter
      chainAtLowest := initialChain
      chain := initialChain
      highestDerived := startCounter - 1 }
    (startCounter + RECV_LOOKAHEAD - 1)

/-- The key for `counter`, and the cache after the lookup. -/
def get (P : Primitives) (c : RecvKeyCache) (counter : ℤ) : Option Bytes × RecvKeyCache :=
  if counter < c.lowestCounter then (none, c)
  else
    let maxExtend := c.highestDerived + RECV_LOOKAHEAD * 2
    let c' :=
      if counter > c.highestDerived ∧ counter ≤ maxExtend then
        c.fill P (counter + RECV_LOOKAHEAD)
      else c
    (c'.keys.get? counter, c')

/-- One round of the pruning loop, at its loop counter. -/
def dropKey (P : Primitives) (c : RecvKeyCache) (ctr : ℤ) : RecvKeyCache :=
  { c with
    keys := c.keys.delete ctr
    chainAtLowest := ratchetChain P c.chainAtLowest }

/-- `n` rounds of `for (c = lowestCounter; ...; c += 1)`. -/
def dropKeys (P : Primitives) (c : RecvKeyCache) (n : ℕ) : RecvKeyCache :=
  (List.range n).foldl (fun c' (i : ℕ) => dropKey P c' (c.lowestCounter + (i : ℤ))) c

def pruneOlderThan (P : Primitives) (c : RecvKeyCache) (counter : ℤ) : RecvKeyCache :=
  let windowFloor := counter - RECV_WINDOW_SIZE + 1
  let pruneBelow := if windowFloor > c.lowestCounter then windowFloor else c.lowestCounter
  let pruned := c.dropKeys P (pruneBelow - c.lowestCounter).toNat
  let pruned :=
    if pruneBelow > c.lowestCounter then { pruned with lowestCounter := pruneBelow } else pruned
  pruned.fill P (counter + RECV_LOOKAHEAD)

end RecvKeyCache

/-! ## The session -/

structure RatchetSession : Type where
  sendChain : Bytes
  sendCounter : ℕ
  localDir : Direction
  remoteDir : Direction
  recvCache : RecvKeyCache
  replay : ReplayWindow

structure RatchetSessionOptions : Type where
  sendChainKey : Bytes
  recvChainKey : Bytes
  direction : Direction

namespace RatchetSession

/-- The constructor. -/
def new (P : Primitives) (opts : RatchetSessionOptions) : Except JsError RatchetSession :=
  if opts.sendChainKey.length ≠ CHAIN_KEY_BYTES then
    .error (.error "sendChainKey must be 32 bytes")
  else if opts.recvChainKey.length ≠ CHAIN_KEY_BYTES then
    .error (.error "recvChainKey must be 32 bytes")
  else
    .ok
      { sendChain := opts.sendChainKey
        sendCounter := 0
        localDir := opts.direction
        remoteDir := opts.direction.opposite
        recvCache := .new P opts.recvChainKey 0
        replay := .new }

variable {ρ : Type}

def encrypt (P : Primitives) (plaintext ad : Bytes) : Co ρ RatchetSession JsError Bytes := do
  let s ← get
  let counter := s.sendCounter
  let rawKey := deriveFrameKey P s.sendChain
  set { s with sendCounter := s.sendCounter + 1, sendChain := ratchetChain P s.sendChain }
  let nonce := makeNonce s.localDir counter
  let _ ← Co.suspend -- importKey
  let _ ← Co.suspend -- subtle.encrypt
  return setBigUint64 counter ++ P.aesGcmSeal rawKey nonce ad plaintext

/-- What `encrypt` makes of the plaintext, in some state of a session. -/
def IsCiphertext (P : Primitives) (plaintext ciphertext : Bytes) : Prop :=
  ∃ (chain : Bytes) (direction : Direction) (counter : ℕ), ciphertext = setBigUint64 counter ++
    P.aesGcmSeal (deriveFrameKey P chain) (makeNonce direction counter) [] plaintext

def tooShort : JsError := .error "ratchet: wire frame too short"

def replayRejected (counter : ℕ) : JsError :=
  .error ("ratchet: replay rejected (counter=" ++ toString counter ++ ")")

def keyNotAvailable (counter : ℕ) (lowestCounter : ℤ) : JsError :=
  .error ("ratchet: key for counter=" ++ toString counter ++ " is no longer available " ++
    "(forward-secrecy boundary=" ++ toString lowestCounter ++ ")")

/-- After the AEAD accepted the frame: commit the counter, prune the cache. -/
def accept (P : Primitives) (counter : ℕ) (s : RatchetSession) : RatchetSession :=
  { s with
    replay := s.replay.commit counter
    recvCache := s.recvCache.pruneOlderThan P counter }

/-- The last segment of `decrypt`. -/
def finishDecrypt (P : Primitives) (wire ad rawKey nonce : Bytes) :
    Co ρ RatchetSession JsError Bytes :=
  match P.aesGcmOpen rawKey nonce ad (wire.drop 8) with
  | none => throw .library
  | some pt => do
      modify (accept P (getBigUint64 wire))
      return pt

/-- The segment of `decrypt` between `importKey` and `subtle.decrypt`. -/
def openFrame (P : Primitives) (wire ad rawKey nonce : Bytes) :
    Co ρ RatchetSession JsError Bytes := do
  let _ ← Co.suspend -- subtle.decrypt
  finishDecrypt P wire ad rawKey nonce

def decrypt (P : Primitives) (wire ad : Bytes) : Co ρ RatchetSession JsError Bytes := do
  if wire.length < 8 + TAG_LEN then
    throw tooShort
  else
    let counter := getBigUint64 wire
    let s ← get
    if s.replay.canAccept counter = false then
      throw (replayRejected counter)
    else
      let (rawKey, recvCache) := s.recvCache.get P counter
      set { s with recvCache := recvCache }
      match rawKey with
      | none => throw (keyNotAvailable counter recvCache.lowestCounter)
      | some rawKey =>
          let nonce := makeNonce s.remoteDir counter
          let _ ← Co.suspend -- importKey
          openFrame P wire ad rawKey nonce

/-! ## What the segments of `decrypt` do -/

/-- The state a lookup leaves. -/
def afterLookup (P : Primitives) (s : RatchetSession) (counter : ℕ) : RatchetSession :=
  { s with recvCache := (s.recvCache.get P counter).2 }

theorem finishDecrypt_none {P : Primitives} {wire ad key nonce : Bytes} {s : RatchetSession}
    (h : P.aesGcmOpen key nonce ad (wire.drop 8) = none) :
    (finishDecrypt P wire ad key nonce : Co ρ _ _ _) s = .throw s .library := by
  simp [finishDecrypt, h]

theorem finishDecrypt_some {P : Primitives} {wire ad key nonce pt : Bytes}
    {s : RatchetSession} (h : P.aesGcmOpen key nonce ad (wire.drop 8) = some pt) :
    (finishDecrypt P wire ad key nonce : Co ρ _ _ _) s =
      .ret (accept P (getBigUint64 wire) s) pt := by
  simp [finishDecrypt, h, Outcome.bind]

/-- **The first segment of `decrypt`**: three ways to refuse the frame, or a
suspension with the key in hand. -/
theorem decrypt_cases (P : Primitives) (wire ad : Bytes) (s : RatchetSession) :
    (wire.length < 24 ∧ (decrypt P wire ad : Co ρ _ _ _) s = .throw s tooShort) ∨
    (24 ≤ wire.length ∧ s.replay.canAccept (getBigUint64 wire) = false ∧
      (decrypt P wire ad : Co ρ _ _ _) s =
        .throw s (replayRejected (getBigUint64 wire))) ∨
    (24 ≤ wire.length ∧ s.replay.canAccept (getBigUint64 wire) = true ∧
      (s.recvCache.get P (getBigUint64 wire)).1 = none ∧
      (decrypt P wire ad : Co ρ _ _ _) s =
        .throw (afterLookup P s (getBigUint64 wire))
          (keyNotAvailable (getBigUint64 wire)
            (afterLookup P s (getBigUint64 wire)).recvCache.lowestCounter)) ∨
    (∃ key, 24 ≤ wire.length ∧ s.replay.canAccept (getBigUint64 wire) = true ∧
      (s.recvCache.get P (getBigUint64 wire)).1 = some key ∧
      (decrypt P wire ad : Co ρ _ _ _) s =
        .await (afterLookup P s (getBigUint64 wire)) fun _ =>
          openFrame P wire ad key (makeNonce s.remoteDir (getBigUint64 wire))) := by
  by_cases hlen : wire.length < 24
  · exact Or.inl ⟨hlen, by simp [decrypt, TAG_LEN, hlen]⟩
  have hlen' : 24 ≤ wire.length := by omega
  cases hacc : s.replay.canAccept (getBigUint64 wire) with
  | false =>
      exact Or.inr (Or.inl ⟨hlen', rfl, by
        simp [decrypt, TAG_LEN, hlen, Outcome.bind, hacc]⟩)
  | true =>
      cases hkey : (s.recvCache.get P (getBigUint64 wire)).1 with
      | none =>
          exact Or.inr (Or.inr (Or.inl ⟨hlen', rfl, rfl, by
            simp [decrypt, TAG_LEN, hlen, Outcome.bind, hacc, hkey, afterLookup]⟩))
      | some key =>
          exact Or.inr (Or.inr (Or.inr ⟨key, hlen', rfl, rfl, by
            simp [decrypt, TAG_LEN, hlen, Outcome.bind, hacc, hkey, afterLookup]⟩))

end RatchetSession

end Oxpulse.Crypto
