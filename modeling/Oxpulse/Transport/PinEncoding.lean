import Oxpulse.Identity.Base64urlForm
import Oxpulse.Transport.Handshake

/-!
# The encoding of pins

`advanceHandshake` pins a peer's key as the string `uint8ToBase64Url` makes of
it. It strips the padding off the end where `toBase64url` deletes it everywhere;
no character of a group is a padding character, so both leave the unpadded form,
and a pin that either of them wrote is matched by the same key only
(`checkPeerKey_iff`).
-/

namespace Oxpulse.Transport

open Oxpulse.Crypto Oxpulse.Identity

/-! ## The encoders agree -/

theorem rdropWhile_padding {s : List Char} (h : ∀ c ∈ s, c ≠ '=') (k : ℕ) :
    (s ++ List.replicate k '=').rdropWhile (fun c => c = '=') = s := by
  induction k with
  | zero =>
      rw [List.replicate_zero, List.append_nil]
      refine List.rdropWhile_eq_self_iff.mpr fun hne => ?_
      have hlast := h _ (List.getLast_mem hne)
      simpa using hlast
  | succ k ih =>
      rw [List.replicate_succ', ← List.append_assoc, List.rdropWhile_concat_pos _ _ _ (by simp)]
      exact ih

/-- **The transport writes what the identity package writes.** -/
theorem uint8ToBase64Url_eq (bytes : Bytes) :
    uint8ToBase64Url bytes = String.ofList (toBase64url bytes) := by
  have hgroups : ∀ c ∈ (sextets bytes).map fun n => toUrlChar (base64Char n), c ≠ '=' := by
    intro c hc
    obtain ⟨n, hn, rfl⟩ := List.mem_map.mp hc
    exact (base64Char_spec (sextets_lt bytes n hn)).2.2.2.1
  have hpadding : ∀ k, (List.replicate k '=').map toUrlChar = List.replicate k '=' := by
    intro k
    rw [List.map_replicate]
    rfl
  rw [toBase64url_eq]
  simp only [uint8ToBase64Url, btoa, List.map_append, List.map_map, hpadding]
  exact congrArg String.ofList (rdropWhile_padding hgroups _)

theorem uint8ToBase64Url_injective : Function.Injective uint8ToBase64Url := by
  intro a b h
  rw [uint8ToBase64Url_eq, uint8ToBase64Url_eq] at h
  exact toBase64url_injective (String.ofList_injective h)

/-! ## Comparing with a pin -/

section Pin

variable {store : TofuStore} {peerIdHex : PeerIdHex} {r : TofuRecord} {key : Bytes}

/-- A pin of one key trusts that key and no other. -/
theorem tofuCheck_pinned (hr : store.get? peerIdHex = some r)
    (hpin : r.pubkeyB64 = String.ofList (toBase64url key)) (peerPub : Bytes) (now : ℕ) :
    (tofuCheck peerIdHex (uint8ToBase64Url peerPub) now store).2 =
      ⟨decide (peerPub = key), decide (peerPub ≠ key)⟩ := by
  rw [← uint8ToBase64Url_eq] at hpin
  unfold tofuCheck
  rw [hr]
  dsimp only
  by_cases hkey : peerPub = key
  · rw [if_pos (by rw [hpin, hkey])]
    simp [hkey]
  · have hne : r.pubkeyB64 ≠ uint8ToBase64Url peerPub := by
      intro heq
      rw [hpin] at heq
      exact hkey (uint8ToBase64Url_injective heq.symm)
    rw [if_neg hne]
    simp [hkey]

/-- **A key change is reported exactly when the key is not the pinned one.** -/
theorem checkPeerKey_iff {v : HandshakeView} {peerPub : Bytes}
    (hpeer : v.cs.handshake.peerStaticPublicKey = some peerPub)
    (hr : v.tofu.get? v.cs.peerIdHex = some r)
    (hpin : r.pubkeyB64 = String.ofList (toBase64url key)) :
    v.checkPeerKey.cs.keyChanged = true ↔ peerPub ≠ key := by
  unfold HandshakeView.checkPeerKey
  rw [hpeer]
  show (tofuCheck v.cs.peerIdHex (uint8ToBase64Url peerPub) v.now v.tofu).2.keyChanged = true ↔ _
  rw [tofuCheck_pinned hr hpin]
  exact decide_eq_true_iff

end Pin

/-! ## The codecs -/

/-- **The base64url codecs agree and invert**, and pins are equal exactly when
the keys are: those of the transport among themselves, and with the strings of the
identity package. -/
theorem base64url_codecs :
    (∀ bytes, fromBase64url (toBase64url bytes) = some bytes) ∧
    (∀ s, IsBase64url s → (fromBase64url s).map toBase64url = some s) ∧
    (∀ bytes, uint8ToBase64Url bytes = String.ofList (toBase64url bytes)) ∧
    (∀ bytes bytes', uint8ToBase64Url bytes = uint8ToBase64Url bytes' ↔ bytes = bytes') ∧
    ∀ (v : HandshakeView) (peerPub key : Bytes) (r : TofuRecord),
      v.cs.handshake.peerStaticPublicKey = some peerPub →
      v.tofu.get? v.cs.peerIdHex = some r →
      r.pubkeyB64 = String.ofList (toBase64url key) →
      (v.checkPeerKey.cs.keyChanged = true ↔ peerPub ≠ key) :=
  ⟨fromBase64url_toBase64url, fun _ h => toBase64url_fromBase64url h, uint8ToBase64Url_eq,
    fun _ _ => uint8ToBase64Url_injective.eq_iff,
    fun _ _ _ _ hpeer hr hpin => checkPeerKey_iff hpeer hr hpin⟩

/-- A responder that has read msg-3 of a peer it has pinned. -/
def pinnedView (peerPub key : Bytes) : HandshakeView where
  cs :=
    { handshake :=
        { role := .responder
          identity := ⟨.ok [], .ok [], fun _ => .ok []⟩
          state := ⟨[], [], none, 0⟩
          msgIdx := 3
          eSecret := none
          ePublic := none
          rePublic := none
          mlkemKeypair := none
          mlkemSharedSecret := none
          rsPublic := some peerPub
          rsX25519Public := none }
      role := .responder
      session := none
      sessionCount := 0
      sas := none
      verdict := .pending
      peerPubkeyB64 := none
      keyChanged := false
      peerIdHex := "0202020202020202"
      handshakeFailures := 0
      handshakeStartedAt := 0 }
  mtu := none
  now := 1
  tofu := (InsMap.empty : TofuStore).set "0202020202020202"
    ⟨String.ofList (toBase64url key), 0, 0⟩
  error := none
  written := []
  notified := 0

/-- The bytes whose standard form is `+/8=` and another key. -/
theorem base64url_codecs_sample :
    (fromBase64url "-_8".toList).map toBase64url = some "-_8".toList ∧
      ((pinnedView [251, 255] [251, 255]).checkPeerKey.cs.keyChanged = true ↔
        ([251, 255] : Bytes) ≠ [251, 255]) ∧
      ((pinnedView [251, 254] [251, 255]).checkPeerKey.cs.keyChanged = true ↔
        ([251, 254] : Bytes) ≠ [251, 255]) :=
  ⟨base64url_codecs.2.1 _ ⟨[251, 255], by decide⟩,
    base64url_codecs.2.2.2.2 _ _ _ ⟨_, 0, 0⟩ rfl rfl rfl,
    base64url_codecs.2.2.2.2 _ _ _ ⟨_, 0, 0⟩ rfl rfl rfl⟩

end Oxpulse.Transport
