import Oxpulse.Crypto.NoiseSizes
import Oxpulse.Transport.Framing

/-!
# Which frames fit an MTU

A frame takes at most sixteen chunks, so a payload needs an MTU of four bytes
and a sixteenth of its length. The messages of the handshake have fixed lengths,
and a mesh bundle (`bundle-composer.ts`) adds its header, its signature and the
ratchet's overhead to the body: below an MTU of 80 no handshake begins, and below
108 a full bundle is refused.

The wire codec and the signature are libraries.
-/

namespace Oxpulse.Transport

open Oxpulse.Coroutine Oxpulse.Crypto RatchetSession

/-! ## `bundle-composer.ts` -/

structure MeshBundle : Type where
  senderPubkey : Bytes
  msgId : Bytes
  tsSecOffset : ℕ
  ttlHops : ℕ
  channelIdHash : Bytes
  body : Bytes
  signature : Bytes

/-- What `composeBundle` takes from `@oxpulse/wire-codec` and `@noble/curves`. -/
structure BundleLibraries : Type where
  ROOM_EPOCH : ℤ
  encodeMeshBundle : MeshBundle → Except JsError Bytes
  meshBundleSignedRange : Bytes → Except JsError Bytes
  /-- `ed25519.sign(message, privateKey)` -/
  sign : Bytes → Bytes → Except JsError Bytes

/-- The layout of a bundle: a header of 61 bytes, the body, a signature of 64. -/
structure BundleLibraries.Laws (L : BundleLibraries) : Prop where
  encode_length : ∀ b bundle, L.encodeMeshBundle b = .ok bundle →
    bundle.length = 61 + b.body.length + 64

structure ComposeBundleArgs : Type where
  channelId : Bytes
  body : Bytes
  senderKey : Bytes
  senderPubkey : Bytes
  msgId : Option Bytes

structure ComposeBundleResult : Type where
  bundle : Bytes
  msgId : Bytes
  channelId : Bytes

/-- The random bytes with the version and the variant of a UUIDv4. -/
def randomUuid16 (bytes : Bytes) : Bytes :=
  (bytes.set 6 ((bytes.getD 6 0 &&& 0x0f) ||| 0x40)).set 8 ((bytes.getD 8 0 &&& 0x3f) ||| 0x80)

section Compose

variable (L : BundleLibraries)

/-- `Math.floor((now - epoch) / 1000) >>> 0`. -/
def tsSecOffset (now : ℤ) : ℕ := ((now - L.ROOM_EPOCH) / 1000 % 2 ^ 32).toNat

/-- The bundle that is signed, or that carries the signature. -/
def bundleOf (args : ComposeBundleArgs) (msgId : Bytes) (ts : ℕ) (signature : Bytes) :
    MeshBundle where
  senderPubkey := args.senderPubkey
  msgId := msgId
  tsSecOffset := ts
  ttlHops := 3
  channelIdHash := args.channelId
  body := args.body
  signature := signature

/-- At the time `now`, with the random bytes `draw`. -/
def composeBundle (args : ComposeBundleArgs) (now : ℤ) (draw : Bytes) :
    Except JsError ComposeBundleResult :=
  if args.senderKey.length ≠ 32 then
    .error (.error ("composeBundle: senderKey must be 32 bytes (Ed25519 private key), got " ++
      toString args.senderKey.length))
  else if args.senderPubkey.length ≠ 32 then
    .error (.error ("composeBundle: senderPubkey must be 32 bytes (Ed25519 public key), got " ++
      toString args.senderPubkey.length))
  else do
    let msgId := args.msgId.getD (randomUuid16 draw)
    let ts := tsSecOffset L now
    let unsigned ← L.encodeMeshBundle (bundleOf args msgId ts (List.replicate 64 0))
    let signedBytes ← L.meshBundleSignedRange unsigned
    let signature ← L.sign signedBytes args.senderKey
    let bundle ← L.encodeMeshBundle (bundleOf args msgId ts signature)
    .ok ⟨bundle, msgId, args.channelId⟩

variable {L}

/-- A bundle takes 125 bytes more than its body. -/
theorem composeBundle_length (hL : L.Laws) {args : ComposeBundleArgs} {now : ℤ} {draw : Bytes}
    {result : ComposeBundleResult} (h : composeBundle L args now draw = .ok result) :
    result.bundle.length = args.body.length + 125 := by
  unfold composeBundle at h
  split at h
  · cases h
  split at h
  · cases h
  -- Each step of the `do` block returned.
  have hbind : ∀ {α β : Type} {x : Except JsError α} {f : α → Except JsError β} {b : β},
      (x >>= f) = .ok b → ∃ a, x = .ok a ∧ f a = .ok b := by
    intro α β x f b hx
    cases x with
    | error e => cases hx
    | ok a => exact ⟨a, rfl, hx⟩
  obtain ⟨unsigned, -, h⟩ := hbind h
  obtain ⟨signedBytes, -, h⟩ := hbind h
  obtain ⟨signature, -, h⟩ := hbind h
  obtain ⟨bundle, hbundle, h⟩ := hbind h
  cases h
  rw [hL.encode_length _ _ hbundle]
  show 61 + args.body.length + 64 = _
  omega

end Compose

/-- The ratchet adds its counter and the tag. -/
theorem isCiphertext_length {P : Primitives} (hgcm : AesGcmLaws P) {plaintext ciphertext : Bytes}
    (h : IsCiphertext P plaintext ciphertext) : ciphertext.length = plaintext.length + 24 := by
  obtain ⟨chain, direction, counter, rfl⟩ := h
  rw [List.length_append, setBigUint64_length, hgcm.seal_length]
  omega

/-! ## Sixteen chunks -/

/-- The least MTU for a payload of this length. -/
def leastMtu (size : ℕ) : ℕ := FRAME_HEADER_LEN + (size + 15) / 16

/-- **A payload fits from its least MTU on.** -/
theorem chunkFrame_fits_iff {payload : Bytes} {mtu : ℕ} {frameType : FrameType}
    (hpos : 0 < payload.length) (hle : payload.length ≤ MAX_FRAME_SIZE) :
    (∃ chunks, chunkFrame payload mtu frameType = .ok chunks) ↔ leastMtu payload.length ≤ mtu := by
  have hheader : FRAME_HEADER_LEN = 4 := rfl
  unfold leastMtu
  rw [hheader]
  constructor
  · rintro ⟨chunks, hchunks⟩
    obtain ⟨⟨-, hmtu, -, hcount⟩, -⟩ := chunkFrame_eq_ok.mp hchunks
    have hdata : 0 < mtu - FRAME_HEADER_LEN := Nat.sub_pos_of_lt hmtu
    have hlt := (Nat.div_lt_iff_lt_mul hdata).mp (Nat.lt_succ_of_le hcount)
    omega
  · intro hmtu
    have hdata : 0 < mtu - FRAME_HEADER_LEN := by omega
    refine ⟨_, chunkFrame_eq_ok.mpr ⟨⟨hle, by omega, ?_, ?_⟩, rfl⟩⟩
    · exact Nat.div_pos (by omega) hdata
    · exact Nat.le_of_lt_succ ((Nat.div_lt_iff_lt_mul hdata).mpr (by omega))

/-! ## The frames of the protocol -/

/-- **Which frames fit.** For every MTU that `negotiateMtu` returns: a message
that a handshake object writes, whatever calls overlap with its own, can be cut
if and only if the MTU is at least 80, and 10 for msg-3. The ciphertext of a
bundle with a body of up to 1500 bytes can be cut if and only if the MTU is at
least the one for its 149 bytes more, up to 108. -/
theorem frames_fit_iff {P : Primitives} (hgcm : AesGcmLaws P) (hx : X25519Laws P)
    {L : BundleLibraries} (hL : L.Laws) (getMtu : Except JsError ℤ) :
    (∀ role identity, KeyLengths identity → ∀ pre post draws msg frameType,
      (overlapRun P (.new P role identity)
        (pre ++ .start (.write draws []) :: post)).calls[(starts pre).length]? =
          some ⟨.write draws [], .settled (.ok msg)⟩ →
      ((∃ chunks, chunkFrame msg (clampMtu getMtu) frameType = .ok chunks) ↔
        leastMtu (overlapRun P (.new P role identity) pre).shared.messageSize ≤
          clampMtu getMtu)) ∧
    ∀ args now draw result, composeBundle L args now draw = .ok result →
      args.body.length ≤ 1500 → ∀ ciphertext, IsCiphertext P result.bundle ciphertext →
      ∀ frameType, (∃ chunks, chunkFrame ciphertext (clampMtu getMtu) frameType = .ok chunks) ↔
        leastMtu (args.body.length + 149) ≤ clampMtu getMtu := by
  constructor
  · intro role identity hkeys pre post draws msg frameType hcall
    have hlength := message_length hgcm hx hkeys hcall
    rw [List.length_nil, Nat.add_zero] at hlength
    have hsize : 0 < msg.length ∧ msg.length ≤ MAX_FRAME_SIZE := by
      rw [hlength]
      unfold NoiseXxHandshake.messageSize
      split
      · decide
      · decide
    rw [chunkFrame_fits_iff hsize.1 hsize.2, hlength]
  · intro args now draw result hresult hbody ciphertext hciphertext frameType
    have hlength : ciphertext.length = args.body.length + 149 := by
      rw [isCiphertext_length hgcm hciphertext, composeBundle_length hL hresult]
    have hle : ciphertext.length ≤ MAX_FRAME_SIZE := by
      rw [hlength]
      exact (Nat.add_le_add_right hbody 149).trans (by decide)
    rw [chunkFrame_fits_iff (by omega) hle, hlength]

/-! ### A large MTU, and the default one -/

/-- The documented layout, without a signature scheme. -/
def BundleLibraries.sample : BundleLibraries where
  ROOM_EPOCH := 1767225600000
  encodeMeshBundle b :=
    .ok ([0xc9, 0x01] ++ padTo 32 b.senderPubkey ++ padTo 16 b.msgId ++
      toBigEndian 4 b.tsSecOffset ++ [UInt8.ofNat b.ttlHops] ++ padTo 4 b.channelIdHash ++
      toBigEndian 2 b.body.length ++ b.body ++ padTo 64 b.signature)
  meshBundleSignedRange bundle := .ok (bundle.take (bundle.length - 64))
  sign message key := .ok (addTo 64 message key)

theorem sample_bundleLaws : BundleLibraries.sample.Laws where
  encode_length := by
    intro b bundle h
    cases h
    simp
    omega

/-- The messages of the sample identity. -/
def sampleProvider : DeviceIdentityProvider :=
  .ofKeys .sample (List.replicate 32 1) (List.replicate 32 3)

theorem sampleProvider_keys : KeyLengths sampleProvider where
  publicKey := fun k hk => by
    cases hk
    rfl
  x25519PublicKey := fun k hk => by
    cases hk
    exact padTo_length 32 _

def sampleBundleArgs : ComposeBundleArgs where
  channelId := List.replicate 4 7
  body := List.replicate 1500 9
  senderKey := List.replicate 32 2
  senderPubkey := List.replicate 32 1
  msgId := none

/-- A full MTU takes msg-1 and a full bundle. -/
theorem large_mtu_fits :
    (∃ msg chunks, (overlapRun .sample (.new .sample .initiator sampleProvider)
        (.start (.write (.sample 5) []) :: List.replicate 4 (.resume 0 ()))).calls[0]? =
          some ⟨.write (.sample 5) [], .settled (.ok msg)⟩ ∧
        chunkFrame msg (clampMtu (.ok 247)) FrameType.HandshakeMsg1 = .ok chunks) ∧
      ∃ result, composeBundle .sample sampleBundleArgs 1767225600000 (List.replicate 16 0) =
          .ok result ∧
        ∀ ciphertext, IsCiphertext .sample result.bundle ciphertext →
          ∃ chunks, chunkFrame ciphertext (clampMtu (.ok 247)) FrameType.SessionData =
            .ok chunks := by
  have hfit := frames_fit_iff sample_aesGcmLaws sample_x25519Laws sample_bundleLaws (.ok 247)
  constructor
  · have hwrites : ((overlapRun .sample (.new .sample .initiator sampleProvider)
        (.start (.write (.sample 5) []) :: List.replicate 4 (.resume 0 ()))).calls[0]?.bind
          fun c => c.status.value?).isSome = true := by decide +kernel
    obtain ⟨msg, hmsg⟩ := Option.isSome_iff_exists.mp hwrites
    have hcall := Pool.exec_resolved rfl hmsg
    obtain ⟨chunks, hchunks⟩ := (hfit.1 .initiator sampleProvider sampleProvider_keys [] _
      (.sample 5) msg FrameType.HandshakeMsg1 hcall).mpr (by decide +kernel)
    exact ⟨msg, chunks, hcall, hchunks⟩
  · have hcomposes : (composeBundle .sample sampleBundleArgs 1767225600000
        (List.replicate 16 0)).isOk = true := by decide +kernel
    cases hresult : composeBundle .sample sampleBundleArgs 1767225600000 (List.replicate 16 0) with
    | error e =>
        rw [hresult] at hcomposes
        cases hcomposes
    | ok result =>
        refine ⟨result, rfl, fun ciphertext hciphertext => ?_⟩
        exact (hfit.2 sampleBundleArgs _ _ result hresult (by decide +kernel) ciphertext hciphertext
          _).mpr (by decide +kernel)

/-- Where the MTU is not known, msg-1 is refused. -/
theorem default_mtu_refuses_msg1 :
    ((overlapRun .sample (.new .sample .initiator sampleProvider)
        (.start (.write (.sample 5) []) :: List.replicate 4 (.resume 0 ()))).calls[0]?.bind
          fun c => c.status.value?).map
        (fun msg => chunkFrame msg (clampMtu (.error .library)) FrameType.HandshakeMsg1) =
      some (.error (.error "frame requires >16 chunks; use B.3 mesh-bundle layer")) := by
  decide +kernel

end Oxpulse.Transport
