import Oxpulse.Foundation.Coroutine
import Oxpulse.Crypto.Laws
import Oxpulse.MeshCore.OnIncoming
import Oxpulse.Transport.FrameSizes

/-!
# The mesh wrap

`composeMeshWrap` (`wrap.ts`) puts an envelope behind two bytes of its own into the body
of a mesh bundle, has the bundle signed and encodes it again with the signature;
`peelMeshWrap` takes it out. The two fit (`composeMeshWrap_peels`), and since the router
finds the message id and the channel where the bundle has them, a receiver hands each
message to its handler once, however often its bundle comes in (`wraps_delivered_once`).

The wire codec is a library, with the layout that `wrap.ts` and `router.ts` document.
-/

namespace Oxpulse.MeshCore

open Oxpulse.Coroutine Oxpulse.Crypto Oxpulse.Transport

/-! ## `@oxpulse/wire-codec` -/

structure WireCodec : Type where
  encodeMeshBundle : MeshBundle → Except JsError Bytes
  decodeMeshBundle : Bytes → Except JsError MeshBundle
  meshBundleSignedRange : Bytes → Except JsError Bytes

def MESH_BUNDLE_MAX_BODY : ℕ := 1500

/-- The first 61 bytes of a bundle. -/
def bundleHeader (b : MeshBundle) : Bytes :=
  [0xc9, 0x01] ++ b.senderPubkey ++ b.msgId ++ toBigEndian 4 b.tsSecOffset ++
    [UInt8.ofNat b.ttlHops] ++ b.channelIdHash ++ toBigEndian 2 b.body.length

/-- Its fields have the widths of the layout. -/
structure FitsLayout (b : MeshBundle) : Prop where
  senderPubkey : b.senderPubkey.length = 32
  msgId : b.msgId.length = 16
  tsSecOffset : b.tsSecOffset < 2 ^ 32
  ttlHops : b.ttlHops < 256
  channelIdHash : b.channelIdHash.length = 4
  body : b.body.length ≤ MESH_BUNDLE_MAX_BODY
  signature : b.signature.length = 64

structure WireCodec.Laws (C : WireCodec) : Prop where
  encode : ∀ b, FitsLayout b →
    C.encodeMeshBundle b = .ok (bundleHeader b ++ b.body ++ b.signature)
  refuses : ∀ b, MESH_BUNDLE_MAX_BODY < b.body.length → ∃ e, C.encodeMeshBundle b = .error e
  decode : ∀ b, FitsLayout b →
    C.decodeMeshBundle (bundleHeader b ++ b.body ++ b.signature) = .ok b
  signedRange : ∀ b, FitsLayout b →
    C.meshBundleSignedRange (bundleHeader b ++ b.body ++ b.signature) = .ok (bundleHeader b ++ b.body)

/-- The documented layout. -/
def WireCodec.sample : WireCodec where
  encodeMeshBundle b :=
    if MESH_BUNDLE_MAX_BODY < b.body.length then .error .library
    else .ok (bundleHeader b ++ b.body ++ b.signature)
  decodeMeshBundle bytes :=
    let bodyLen := ofBigEndian ((bytes.drop 59).take 2)
    if bytes.take 2 ≠ [0xc9, 0x01] ∨ bytes.length ≠ 61 + bodyLen + 64 then .error .library
    else
      .ok
        { senderPubkey := (bytes.drop 2).take 32
          msgId := (bytes.drop 34).take 16
          tsSecOffset := ofBigEndian ((bytes.drop 50).take 4)
          ttlHops := ofBigEndian ((bytes.drop 54).take 1)
          channelIdHash := (bytes.drop 55).take 4
          body := (bytes.drop 61).take bodyLen
          signature := bytes.drop (61 + bodyLen) }
  meshBundleSignedRange bytes := .ok (bytes.take (bytes.length - 64))

/-- One field is read, the next begins. -/
theorem read_field {bytes field rest : Bytes} {i n : ℕ} (h : bytes.drop i = field ++ rest)
    (hfield : field.length = n) :
    (bytes.drop i).take n = field ∧ bytes.drop (i + n) = rest := by
  rw [← List.drop_drop, h]
  exact ⟨List.take_left' hfield, List.drop_left' hfield⟩

theorem sample_wireCodecLaws : WireCodec.sample.Laws where
  encode := fun b hb => if_neg (Nat.not_lt.mpr hb.body)
  refuses := fun b hb => ⟨_, if_pos hb⟩
  decode := by
    intro b hb
    have hstart : (bundleHeader b ++ b.body ++ b.signature).drop 0 =
        [0xc9, 0x01] ++ (b.senderPubkey ++ (b.msgId ++ (toBigEndian 4 b.tsSecOffset ++
          ([UInt8.ofNat b.ttlHops] ++ (b.channelIdHash ++ (toBigEndian 2 b.body.length ++
            (b.body ++ b.signature))))))) := by
      simp only [bundleHeader, List.append_assoc, List.drop_zero]
    have hlength : (bundleHeader b ++ b.body ++ b.signature).length = 61 + b.body.length + 64 := by
      simp only [bundleHeader, List.length_append, hb.senderPubkey, hb.msgId, hb.channelIdHash,
        hb.signature, toBigEndian_length, List.length_cons, List.length_nil]
    generalize bundleHeader b ++ b.body ++ b.signature = bytes at hstart hlength
    obtain ⟨hmagic, h2⟩ := read_field (n := 2) hstart rfl
    obtain ⟨hsender, h34⟩ := read_field (i := 2) h2 hb.senderPubkey
    obtain ⟨hmsgId, h50⟩ := read_field (i := 34) h34 hb.msgId
    obtain ⟨hts, h54⟩ := read_field (i := 50) h50 (toBigEndian_length 4 _)
    obtain ⟨hhops, h55⟩ := read_field (i := 54) (n := 1) h54 rfl
    obtain ⟨hchannel, h59⟩ := read_field (i := 55) h55 hb.channelIdHash
    obtain ⟨hlen, h61⟩ := read_field (i := 59) h59 (toBigEndian_length 2 _)
    obtain ⟨hbody, hsignature⟩ := read_field (i := 61) h61 rfl
    have hbodyLen : ofBigEndian ((bytes.drop 59).take 2) = b.body.length := by
      rw [hlen, ofBigEndian_toBigEndian]
      exact Nat.mod_eq_of_lt (lt_of_le_of_lt hb.body (by decide))
    have htsSec : ofBigEndian ((bytes.drop 50).take 4) = b.tsSecOffset := by
      rw [hts, ofBigEndian_toBigEndian]
      exact Nat.mod_eq_of_lt hb.tsSecOffset
    have httl : ofBigEndian ((bytes.drop 54).take 1) = b.ttlHops := by
      rw [hhops]
      exact (ofBigEndian_toBigEndian 1 b.ttlHops).trans (Nat.mod_eq_of_lt hb.ttlHops)
    have hvalid : ¬ (bytes.take 2 ≠ [0xc9, 0x01] ∨ bytes.length ≠ 61 + b.body.length + 64) := by
      rw [hlength]
      exact fun h => h.elim (fun h => h hmagic) fun h => h rfl
    show (if _ then _ else _) = _
    rw [hbodyLen, if_neg hvalid, hsender, hmsgId, htsSec, httl, hchannel, hbody, hsignature]
  signedRange := by
    intro b hb
    show Except.ok (List.take _ _) = _
    rw [List.length_append, hb.signature, Nat.add_sub_cancel, List.take_left]

/-! ## `wrap.ts` -/

def SIG_LEN : ℕ := 64
def MESH_WRAP_MAGIC : UInt8 := 0xae
def MESH_WRAP_FLAG_SEALED_1TO1 : UInt8 := 0x01
def MESH_WRAP_BODY_HEADER_LEN : ℕ := 2

structure ComposeMeshWrapArgs : Type where
  envelopeBytes : Bytes
  recipientX25519Pub : Bytes
  senderEd25519Pub : Bytes
  msgId : Bytes
  tsMsOffset : ℕ
  isSealed1to1 : Bool

structure PeeledMeshWrap : Type where
  envelopeBytes : Bytes
  senderEd25519Pub : Bytes
  msgId : Bytes
  channelIdHash : Bytes
  isSealed1to1 : Bool
deriving DecidableEq

def wrongLength (what : String) (must : ℕ) (got : Bytes) : JsError :=
  .error ("composeMeshWrap: " ++ what ++ " " ++ toString must ++ " bytes, got " ++
    toString got.length)

/-- `magic.toString(16).padStart(2, '0')` -/
def hexByte (b : UInt8) : String :=
  String.ofList [Nat.digitChar (b.toNat / 16), Nat.digitChar (b.toNat % 16)]

section

variable (P : Primitives) (C : WireCodec)

def recipientHash (args : ComposeMeshWrapArgs) : Bytes :=
  (P.sha256 args.recipientX25519Pub).take 4

/-- The magic byte, the flags, the envelope. -/
def wrapBody (args : ComposeMeshWrapArgs) : Bytes :=
  MESH_WRAP_MAGIC :: (if args.isSealed1to1 then MESH_WRAP_FLAG_SEALED_1TO1 else 0x00) ::
    args.envelopeBytes

/-- The bundle that is signed, or that carries the signature. -/
def wrapBundle (args : ComposeMeshWrapArgs) (signature : Bytes) : MeshBundle where
  senderPubkey := args.senderEd25519Pub
  msgId := args.msgId
  tsSecOffset := args.tsMsOffset
  ttlHops := 3
  channelIdHash := recipientHash P args
  body := wrapBody args
  signature := signature

/-- How `signEd25519` settles. -/
abbrev SignReply : Type := Except JsError Bytes

/-- The state holds what `signEd25519` was called with. -/
def composeMeshWrap (args : ComposeMeshWrapArgs) : Co SignReply (List Bytes) JsError Bytes := do
  if args.recipientX25519Pub.length ≠ 32 then
    throw (wrongLength "recipientX25519Pub must be" 32 args.recipientX25519Pub)
  else if args.senderEd25519Pub.length ≠ 32 then
    throw (wrongLength "senderEd25519Pub must be" 32 args.senderEd25519Pub)
  else if args.msgId.length ≠ 16 then
    throw (wrongLength "msgId must be" 16 args.msgId)
  else
    let unsigned ← Co.ofExcept
      (C.encodeMeshBundle (wrapBundle P args (List.replicate SIG_LEN 0)))
    let signedRange ← Co.ofExcept (C.meshBundleSignedRange unsigned)
    modify fun asked => asked ++ [signedRange]
    let signature ← Co.ofExcept (← Co.suspend)
    if signature.length ≠ SIG_LEN then
      throw (wrongLength "signEd25519 must return" 64 signature)
    else Co.ofExcept (C.encodeMeshBundle (wrapBundle P args signature))

def peelMeshWrap (bundleBytes : Bytes) : Except JsError PeeledMeshWrap := do
  let decoded ← C.decodeMeshBundle bundleBytes
  match decoded.body with
  | magic :: flags :: envelopeBytes =>
      if magic ≠ MESH_WRAP_MAGIC then
        .error (.error ("peelMeshWrap: body[0] is not MESH_WRAP_MAGIC (got 0x" ++ hexByte magic ++
          ", expected 0x" ++ hexByte MESH_WRAP_MAGIC ++ ")"))
      else
        .ok
          { envelopeBytes := envelopeBytes
            senderEd25519Pub := decoded.senderPubkey
            msgId := decoded.msgId
            channelIdHash := decoded.channelIdHash
            isSealed1to1 := flags &&& MESH_WRAP_FLAG_SEALED_1TO1 ≠ 0 }
  | short =>
      .error (.error ("peelMeshWrap: body too short to contain mesh-wrap header (" ++
        toString short.length ++ " < " ++ toString MESH_WRAP_BODY_HEADER_LEN ++ ")"))

end

/-! ## What is wrapped can be peeled -/

/-- What `composeMeshWrap` admits: keys and an id of the right lengths, and an envelope
that leaves room for the two bytes. -/
structure Wrappable (args : ComposeMeshWrapArgs) : Prop where
  recipient : args.recipientX25519Pub.length = 32
  sender : args.senderEd25519Pub.length = 32
  msgId : args.msgId.length = 16
  envelope : args.envelopeBytes.length + MESH_WRAP_BODY_HEADER_LEN ≤ MESH_BUNDLE_MAX_BODY

/-- What the peer finds in it. -/
def peeled (P : Primitives) (args : ComposeMeshWrapArgs) : PeeledMeshWrap where
  envelopeBytes := args.envelopeBytes
  senderEd25519Pub := args.senderEd25519Pub
  msgId := args.msgId
  channelIdHash := recipientHash P args
  isSealed1to1 := args.isSealed1to1

/-- The part of the bundle that is signed. -/
def signedPart (P : Primitives) (args : ComposeMeshWrapArgs) : Bytes :=
  bundleHeader (wrapBundle P args []) ++ wrapBody args

section Wrap

variable {P : Primitives} {C : WireCodec} {args : ComposeMeshWrapArgs} {signature : Bytes}

theorem length_recipientHash (hsha : ∀ x, (P.sha256 x).length = 32) (args : ComposeMeshWrapArgs) :
    (recipientHash P args).length = 4 := by
  unfold recipientHash
  rw [List.length_take, hsha]
  rfl

theorem fitsLayout_wrapBundle (hsha : ∀ x, (P.sha256 x).length = 32) (h : Wrappable args)
    (hts : args.tsMsOffset < 2 ^ 32) (hsignature : signature.length = SIG_LEN) :
    FitsLayout (wrapBundle P args signature) where
  senderPubkey := h.sender
  msgId := h.msgId
  tsSecOffset := hts
  ttlHops := (by decide : 3 < 256)
  channelIdHash := length_recipientHash hsha args
  body := h.envelope
  signature := hsignature

/-- The signature is the end of the bundle. -/
theorem encode_wrapBundle (hC : C.Laws) (hsha : ∀ x, (P.sha256 x).length = 32) (h : Wrappable args)
    (hts : args.tsMsOffset < 2 ^ 32) (hsignature : signature.length = SIG_LEN) :
    C.encodeMeshBundle (wrapBundle P args signature) = .ok (signedPart P args ++ signature) :=
  hC.encode _ (fitsLayout_wrapBundle hsha h hts hsignature)

theorem signedRange_wrapBundle (hC : C.Laws) (hsha : ∀ x, (P.sha256 x).length = 32)
    (h : Wrappable args) (hts : args.tsMsOffset < 2 ^ 32) (hsignature : signature.length = SIG_LEN) :
    C.meshBundleSignedRange (signedPart P args ++ signature) = .ok (signedPart P args) :=
  hC.signedRange _ (fitsLayout_wrapBundle hsha h hts hsignature)

/-- The peer finds what was put in. -/
theorem peelMeshWrap_wrapBundle (hC : C.Laws) (hsha : ∀ x, (P.sha256 x).length = 32)
    (h : Wrappable args) (hts : args.tsMsOffset < 2 ^ 32) (hsignature : signature.length = SIG_LEN) :
    peelMeshWrap C (signedPart P args ++ signature) = .ok (peeled P args) := by
  have hdecode : C.decodeMeshBundle (signedPart P args ++ signature) =
      .ok (wrapBundle P args signature) :=
    hC.decode _ (fitsLayout_wrapBundle hsha h hts hsignature)
  have hflag : decide ((if args.isSealed1to1 then MESH_WRAP_FLAG_SEALED_1TO1 else 0x00) &&&
      MESH_WRAP_FLAG_SEALED_1TO1 ≠ 0) = args.isSealed1to1 := by
    cases args.isSealed1to1 <;> rfl
  have hmagic : ¬ MESH_WRAP_MAGIC ≠ MESH_WRAP_MAGIC := not_not.mpr rfl
  unfold peelMeshWrap
  rw [hdecode]
  simp only [bind, Except.bind, wrapBundle, wrapBody, if_neg hmagic, hflag]
  rfl

/-- The router finds the id and the channel. -/
theorem frameKey_wrapBundle (hsha : ∀ x, (P.sha256 x).length = 32) (h : Wrappable args)
    (signature : Bytes) :
    frameKey (signedPart P args ++ signature) = (recipientHash P args, args.msgId) := by
  have hhash := length_recipientHash hsha args
  have hbundle : signedPart P args ++ signature = ([0xc9, 0x01] ++ args.senderEd25519Pub) ++
      (args.msgId ++ ((toBigEndian 4 args.tsMsOffset ++ [3]) ++ (recipientHash P args ++
        (toBigEndian 2 (wrapBody args).length ++ wrapBody args ++ signature)))) := by
    simp only [signedPart, bundleHeader, wrapBundle, List.append_assoc]
    rfl
  have hfront : ([0xc9, 0x01] ++ args.senderEd25519Pub : Bytes).length = 34 := by
    rw [List.length_append, h.sender]
    rfl
  have hmid : (args.msgId ++ (toBigEndian 4 args.tsMsOffset ++ [3])).length = 21 := by
    rw [List.length_append, List.length_append, h.msgId, toBigEndian_length]
    rfl
  unfold frameKey channelId msgId
  rw [hbundle]
  refine Prod.ext ?_ ?_
  · show (List.drop (34 + 21) _).take 4 = _
    rw [← List.drop_drop, List.drop_left' hfront, ← List.append_assoc, List.drop_left' hmid,
      List.take_left' hhash]
  · show (List.drop 34 _).take 16 = _
    rw [List.drop_left' hfront, List.take_left' h.msgId]

/-- **What a call does.** -/
theorem composeMeshWrap_run (hC : C.Laws) (hsha : ∀ x, (P.sha256 x).length = 32)
    (h : Wrappable args) (hts : args.tsMsOffset < 2 ^ 32) (reply : SignReply) (asked : List Bytes) :
    (composeMeshWrap P C args).run reply asked = (asked ++ [signedPart P args],
      match reply with
      | .error e => .error e
      | .ok signature =>
          if signature.length ≠ SIG_LEN then
            .error (wrongLength "signEd25519 must return" 64 signature)
          else .ok (signedPart P args ++ signature)) := by
  have hzero : (List.replicate SIG_LEN (0 : UInt8)).length = SIG_LEN := List.length_replicate
  have hencode := encode_wrapBundle hC hsha h hts hzero
  have hrange := signedRange_wrapBundle hC hsha h hts hzero
  unfold composeMeshWrap
  rw [if_neg (not_not.mpr h.recipient), if_neg (not_not.mpr h.sender), if_neg (not_not.mpr h.msgId),
    hencode]
  simp only [Co.run_bind, Co.run_ofExcept, hrange, Co.run_modify, Co.run_suspend]
  cases reply with
  | error e => rfl
  | ok signature =>
      simp only [Co.run_ite, Co.run_throw, Co.run_ofExcept]
      by_cases hsignature : signature.length = SIG_LEN
      · rw [if_neg (not_not.mpr hsignature), if_neg (not_not.mpr hsignature),
          encode_wrapBundle hC hsha h hts hsignature]
      · rw [if_pos hsignature, if_pos hsignature]

/-- Otherwise nothing is signed. -/
theorem composeMeshWrap_refuses (hC : C.Laws) (h : ¬ Wrappable args) (reply : SignReply)
    (asked : List Bytes) :
    ∃ e, (composeMeshWrap P C args).run reply asked = (asked, .error e) := by
  unfold composeMeshWrap
  simp only [Co.run_ite, Co.run_throw]
  by_cases hrecipient : args.recipientX25519Pub.length = 32
  swap
  · exact ⟨_, if_pos hrecipient⟩
  rw [if_neg (not_not.mpr hrecipient)]
  by_cases hsender : args.senderEd25519Pub.length = 32
  swap
  · exact ⟨_, if_pos hsender⟩
  rw [if_neg (not_not.mpr hsender)]
  by_cases hmsgId : args.msgId.length = 16
  swap
  · exact ⟨_, if_pos hmsgId⟩
  rw [if_neg (not_not.mpr hmsgId)]
  -- The codec refuses the body.
  have hlong : MESH_BUNDLE_MAX_BODY < (wrapBody args).length := by
    by_contra hfits
    exact h ⟨hrecipient, hsender, hmsgId, Nat.not_lt.mp hfits⟩
  obtain ⟨e, he⟩ := hC.refuses (wrapBundle P args (List.replicate SIG_LEN 0)) hlong
  refine ⟨e, ?_⟩
  rw [he, Co.run_bind, Co.run_ofExcept]

/-- A bundle was made of these. -/
theorem composeMeshWrap_eq_ok (hC : C.Laws) (hsha : ∀ x, (P.sha256 x).length = 32)
    (hts : args.tsMsOffset < 2 ^ 32) {reply : SignReply} {asked : List Bytes} {bundle : Bytes}
    (hbundle : ((composeMeshWrap P C args).run reply asked).2 = .ok bundle) :
    Wrappable args ∧ ∃ signature, reply = .ok signature ∧ signature.length = SIG_LEN ∧
      bundle = signedPart P args ++ signature := by
  by_cases h : Wrappable args
  swap
  · obtain ⟨e, he⟩ := composeMeshWrap_refuses hC h reply asked
    rw [he] at hbundle
    cases hbundle
  rw [composeMeshWrap_run hC hsha h hts] at hbundle
  refine ⟨h, ?_⟩
  cases reply with
  | error e => cases hbundle
  | ok signature =>
      by_cases hsignature : signature.length = SIG_LEN
      · simp only [if_neg (not_not.mpr hsignature)] at hbundle
        cases hbundle
        exact ⟨signature, rfl, hsignature, rfl⟩
      · simp only [if_pos hsignature] at hbundle
        cases hbundle

/-- **What is wrapped can be peeled.** A call resolves if and only if the keys and the id
have their lengths, the envelope leaves room for two bytes, and the signer returns 64
bytes; a call that is refused before that has nothing signed. The bundle is what was
signed with the signature behind it, the codec finds the signed part again, the router
finds the message id and the channel, and the peer finds all that was put in. -/
theorem composeMeshWrap_peels (hC : C.Laws) (hsha : ∀ x, (P.sha256 x).length = 32)
    (hts : args.tsMsOffset < 2 ^ 32) (reply : SignReply) (asked : List Bytes) :
    ((∃ bundle, ((composeMeshWrap P C args).run reply asked).2 = .ok bundle) ↔
      Wrappable args ∧ ∃ signature, reply = .ok signature ∧ signature.length = SIG_LEN) ∧
    (¬ Wrappable args → ((composeMeshWrap P C args).run reply asked).1 = asked) ∧
    ∀ bundle, ((composeMeshWrap P C args).run reply asked).2 = .ok bundle →
      (∃ signedRange signature, reply = .ok signature ∧ bundle = signedRange ++ signature ∧
        ((composeMeshWrap P C args).run reply asked).1 = asked ++ [signedRange] ∧
        C.meshBundleSignedRange bundle = .ok signedRange) ∧
      frameKey bundle = (recipientHash P args, args.msgId) ∧
      peelMeshWrap C bundle = .ok (peeled P args) := by
  refine ⟨⟨?_, ?_⟩, ?_, ?_⟩
  · rintro ⟨bundle, hbundle⟩
    obtain ⟨h, signature, hreply, hsignature, -⟩ := composeMeshWrap_eq_ok hC hsha hts hbundle
    exact ⟨h, signature, hreply, hsignature⟩
  · rintro ⟨h, signature, rfl, hsignature⟩
    refine ⟨signedPart P args ++ signature, ?_⟩
    rw [composeMeshWrap_run hC hsha h hts]
    exact if_neg (not_not.mpr hsignature)
  · intro h
    obtain ⟨e, he⟩ := composeMeshWrap_refuses (P := P) hC h reply asked
    rw [he]
  · intro bundle hbundle
    obtain ⟨h, signature, hreply, hsignature, rfl⟩ := composeMeshWrap_eq_ok hC hsha hts hbundle
    refine ⟨⟨signedPart P args, signature, hreply, rfl, ?_, ?_⟩, ?_, ?_⟩
    · rw [composeMeshWrap_run hC hsha h hts]
    · exact signedRange_wrapBundle hC hsha h hts hsignature
    · exact frameKey_wrapBundle hsha h signature
    · exact peelMeshWrap_wrapBundle hC hsha h hts hsignature

end Wrap

/-- Two messages for one channel. -/
def sampleWrapArgs (urgent : Bool) : ComposeMeshWrapArgs where
  envelopeBytes := List.replicate 98 0x4f
  recipientX25519Pub := List.replicate 32 5
  senderEd25519Pub := List.replicate 32 1
  msgId := List.replicate 16 (if urgent then 1 else 2)
  tsMsOffset := 600
  isSealed1to1 := urgent

theorem sampleWrapArgs_wrappable (urgent : Bool) : Wrappable (sampleWrapArgs urgent) := by
  cases urgent <;> exact ⟨rfl, rfl, rfl, by decide⟩

theorem composeMeshWrap_peels_sealed :
    ∃ bundle, ((composeMeshWrap .sample .sample (sampleWrapArgs true)).run
        (.ok (List.replicate 64 9)) []).2 = .ok bundle ∧
      peelMeshWrap .sample bundle = .ok (peeled .sample (sampleWrapArgs true)) := by
  have hts : (sampleWrapArgs true).tsMsOffset < 2 ^ 32 := by decide
  have h := composeMeshWrap_peels sample_wireCodecLaws sample_sha256_length hts
    (.ok (List.replicate 64 9)) []
  obtain ⟨bundle, hbundle⟩ := h.1.mpr
    ⟨sampleWrapArgs_wrappable true, List.replicate 64 9, rfl, List.length_replicate⟩
  exact ⟨bundle, hbundle, (h.2.2 bundle hbundle).2.2⟩

/-! ## Each message once -/

section Stream

variable {P : Primitives} {C : WireCodec} {ι : Type}

theorem length_signedPart (hsha : ∀ x, (P.sha256 x).length = 32) {args : ComposeMeshWrapArgs}
    (h : Wrappable args) : 61 ≤ (signedPart P args).length := by
  have hhash := length_recipientHash hsha args
  simp only [signedPart, bundleHeader, wrapBundle, List.length_append, h.sender, h.msgId, hhash,
    toBigEndian_length, List.length_cons, List.length_nil]
  omega

theorem firstsFrom_map {α κ : Type} [DecidableEq κ] (key : α → κ) (f : ι → α) (past l : List ι) :
    firstsFrom key (past.map f) (l.map f) = (firstsFrom (fun i => key (f i)) past l).map f := by
  induction l generalizing past with
  | nil => rfl
  | cons i l ih =>
      have hseen : (past.map f).map key = past.map fun i => key (f i) := List.map_map
      rw [List.map_cons, firstsFrom_cons, firstsFrom_cons, hseen]
      split
      · exact ih past
      · rw [List.map_cons, ← ih (past ++ [i]), List.map_append]
        rfl

variable [DecidableEq ι]

/-- **Each message comes in once.** Messages are wrapped, each for a channel and under an
id of its own, and their bundles come in over any number of links, in any order and any
number of times: a subscription without a Bloom filter hands over each of them once, in
the order of their first arrival, and what is peeled from the bundles is what was
wrapped. -/
theorem wraps_delivered_once (hC : C.Laws) (hsha : ∀ x, (P.sha256 x).length = 32)
    (args : ι → ComposeMeshWrapArgs) (bundle : ι → Bytes)
    (hts : ∀ i, (args i).tsMsOffset < 2 ^ 32)
    (hbundle : ∀ i, ∃ reply asked,
      ((composeMeshWrap P C (args i)).run reply asked).2 = .ok (bundle i))
    (arrivals : List ι)
    (hkeys : ∀ i ∈ arrivals, ∀ j ∈ arrivals, (args i).msgId = (args j).msgId →
      recipientHash P (args i) = recipientHash P (args j) → i = j)
    {capacity : ℕ} (hroom : arrivals.toFinset.card ≤ capacity) :
    ((Incoming.new capacity none).receiveAll (arrivals.map bundle)).delivered.map
        (peelMeshWrap C) =
      (firsts id arrivals).map fun i => .ok (peeled P (args i)) := by
  have hframe : ∀ i, 59 ≤ (bundle i).length ∧
      frameKey (bundle i) = (recipientHash P (args i), (args i).msgId) ∧
      peelMeshWrap C (bundle i) = .ok (peeled P (args i)) := by
    intro i
    obtain ⟨reply, asked, hi⟩ := hbundle i
    obtain ⟨h, signature, -, hsignature, heq⟩ := composeMeshWrap_eq_ok hC hsha (hts i) hi
    rw [heq]
    refine ⟨?_, frameKey_wrapBundle hsha h signature,
      peelMeshWrap_wrapBundle hC hsha h (hts i) hsignature⟩
    rw [List.length_append]
    exact (by decide : 59 ≤ 61).trans ((length_signedPart hsha h).trans (Nat.le_add_right _ _))
  have hempty : Remembers (arrivals.map bundle) [] (DedupeCache.new capacity) := by
    refine ⟨rfl, fun _ hmem => absurd hmem List.not_mem_nil, ?_, ?_⟩
    · intro frame hmem
      obtain ⟨i, -, rfl⟩ := List.mem_map.mp hmem
      exact (hframe i).1
    · refine le_trans ?_ hroom
      have himage : ((arrivals.map bundle).map frameKey).toFinset =
          arrivals.toFinset.image fun i => frameKey (bundle i) := by
        ext key
        simp
      rw [himage]
      exact Finset.card_image_le
  have hdelivered := Incoming.receiveAll_none (s := .new capacity none) hempty rfl
    (fun _ hmem => hmem)
  have hsame : firstsFrom (fun i => frameKey (bundle i)) [] arrivals = firsts id arrivals := by
    refine firstsFrom_congr fun i hi j hj => ⟨fun hkey => ?_, congrArg fun i => frameKey (bundle i)⟩
    rw [List.nil_append] at hi hj
    rw [(hframe i).2.1, (hframe j).2.1] at hkey
    obtain ⟨hchannel, hmsg⟩ := Prod.mk.inj hkey
    exact hkeys i hi j hj hmsg hchannel
  have hfirsts := firstsFrom_map frameKey bundle [] arrivals
  rw [hsame] at hfirsts
  calc ((Incoming.new capacity none).receiveAll (arrivals.map bundle)).delivered.map
        (peelMeshWrap C)
      = ((firsts id arrivals).map bundle).map (peelMeshWrap C) := by
        rw [hdelivered]
        exact congrArg (List.map (peelMeshWrap C)) hfirsts
    _ = (firsts id arrivals).map fun i => .ok (peeled P (args i)) := by
        rw [List.map_map]
        exact List.map_congr_left fun i _ => (hframe i).2.2

/-- The second message comes in between two copies of the first. -/
theorem wraps_delivered_once_urgent :
    ((Incoming.new 512 none).receiveAll ([false, true, false].map fun urgent =>
        signedPart .sample (sampleWrapArgs urgent) ++ List.replicate 64 9)).delivered.map
        (peelMeshWrap .sample) =
      [.ok (peeled .sample (sampleWrapArgs false)), .ok (peeled .sample (sampleWrapArgs true))] := by
  refine wraps_delivered_once sample_wireCodecLaws sample_sha256_length sampleWrapArgs _ ?_ ?_
    [false, true, false] ?_ (by decide)
  · intro urgent
    cases urgent <;> decide
  · intro urgent
    refine ⟨.ok (List.replicate 64 9), [], ?_⟩
    rw [composeMeshWrap_run sample_wireCodecLaws sample_sha256_length
      (sampleWrapArgs_wrappable urgent) (by cases urgent <;> decide)]
    rfl
  · decide

end Stream

end Oxpulse.MeshCore
