import Oxpulse.Crypto.NoiseSizes
import Oxpulse.Crypto.SecureChannel
import Oxpulse.Transport.HandshakeSegments

/-!
# The turns of an exchange

Two honest objects exchange the three messages without a payload (`Exchanged`). Each
message has its fixed size, the other side reads it whatever it draws, and after the
third one both objects conclude: sessions of a pair, one SAS, and the Ed25519 key of the
other side (`Concluded`).
-/

namespace Oxpulse.Crypto

open Oxpulse.Coroutine

/-- A complete object, the session that is built from it, and what the user is shown. -/
structure Concluded (P : Primitives) (hs : NoiseXxHandshake) (peer : Bytes) (s : RatchetSession)
    (sas : String) : Prop where
  complete : hs.isComplete = true
  session : SessionOf P hs s
  sas : hs.sas = .ok sas
  peer : hs.peerStaticPublicKey = some peer

/-- The session of an object is determined. -/
theorem SessionOf.unique {P : Primitives} {hs : NoiseXxHandshake} {s s' : RatchetSession}
    (h : SessionOf P hs s) (h' : SessionOf P hs s') : s' = s := by
  obtain ⟨split, hsplit, hnew⟩ := h
  obtain ⟨split', hsplit', hnew'⟩ := h'
  rw [hsplit] at hsplit'
  cases hsplit'
  rw [hnew] at hnew'
  cases hnew'
  rfl

theorem computeSas_ok {handshakeHash : Bytes} (h : handshakeHash.length = 32) :
    ∃ sas, computeSas handshakeHash = .ok sas := by
  unfold computeSas
  rw [if_neg (not_not.mpr h)]
  exact ⟨_, rfl⟩

theorem IdentityLaws.keyLengths {P : Primitives} {identity : DeviceIdentityProvider}
    {edPublic xSecret : Bytes} (hdh : X25519Laws P)
    (h : IdentityLaws P identity edPublic xSecret) : KeyLengths identity where
  publicKey := by
    intro k hk
    rw [h.publicKey] at hk
    cases hk
    exact h.publicKey_length
  x25519PublicKey := by
    intro k hk
    rw [h.x25519PublicKey] at hk
    cases hk
    exact hdh.publicKey_length xSecret

namespace NoiseXxHandshake

/-- Who writes the next message after so many. -/
def writerOf (n : ℕ) : Role := if n % 2 = 0 then .initiator else .responder

theorem writerOf_succ (n : ℕ) : writerOf (n + 1) = (writerOf n).opposite := by
  unfold writerOf
  rcases Nat.mod_two_eq_zero_or_one n with h | h
  · simp [Nat.add_mod, h, Direction.opposite]
  · simp [Nat.add_mod, h, Direction.opposite]

section Exchanged

variable {P : Primitives} {idI idR : DeviceIdentityProvider} {n : ℕ}
  {w w' r r' i : NoiseXxHandshake} {edI xI edR xR : Bytes} {message payload : Bytes}

/-- Alone, a message that returns passes the turn on. -/
theorem IsMessage.run_ok {m : Co Unit NoiseXxHandshake JsError Bytes} (hm : IsMessage m)
    {hs hs' : NoiseXxHandshake} {a : Bytes} (h : m.run () hs = (hs', .ok a)) :
    hs'.role = hs.role ∧ hs'.msgIdx.val = hs.msgIdx.val + 1 := by
  unfold Co.run at h
  rcases hm hs with ⟨e, hthrow⟩ | ⟨-, hsat⟩
  · rw [hthrow] at h
    cases h
  · have hmoved := hsat.run (fun _ => trivial) ()
    rw [h] at hmoved
    exact hmoved

/-- Both objects are at the turn, one on each side. -/
theorem Exchanged.turn (h : Exchanged P idI idR n w r) :
    (w.role = writerOf n ∧ w.msgIdx.val = n) ∧ r.role = (writerOf n).opposite ∧ r.msgIdx.val = n := by
  induction h with
  | start => exact ⟨⟨rfl, rfl⟩, rfl, rfl⟩
  | message h hwrite hread ih =>
      obtain ⟨⟨hwrole, hwidx⟩, hrrole, hridx⟩ := ih
      obtain ⟨hw'role, hw'idx⟩ := (writeMessage_isMessage _ _).run_ok hwrite
      obtain ⟨hr'role, hr'idx⟩ := (readMessage_isMessage _ _).run_ok hread
      rw [writerOf_succ]
      refine ⟨⟨hr'role.trans hrrole, ?_⟩, ?_, ?_⟩
      · rw [hr'idx, hridx]
      · rw [hw'role, hwrole]
        cases writerOf _ <;> rfl
      · rw [hw'idx, hwidx]

/-- Only the three messages are exchanged. -/
theorem Exchanged.le (h : Exchanged P idI idR n w r) : n ≤ 3 := by
  have hlt := w.msgIdx.isLt
  rw [h.turn.1.2] at hlt
  exact Nat.le_of_lt_succ hlt

theorem says_run {Q : Bytes → Prop} {co : Co Unit NoiseXxHandshake JsError Bytes}
    {hs hs' : NoiseXxHandshake} {a : Bytes} (h : Says Q co hs) (hrun : co.run () hs = (hs', .ok a)) :
    Sized hs' ∧ Q a := by
  have hgrown := Outcome.Sat.run Grows.refl () h
  unfold Co.run at hrun
  rw [hrun] at hgrown
  exact ⟨hgrown.1, hgrown.2.2 a rfl⟩

/-- The keys that both objects hold have their lengths. -/
theorem Exchanged.sized (hgcm : AesGcmLaws P) (hdh : X25519Laws P) (hI : KeyLengths idI)
    (hR : KeyLengths idR) (h : Exchanged P idI idR n w r) : Sized w ∧ Sized r := by
  induction h with
  | start => exact ⟨sized_new P .initiator hI, sized_new P .responder hR⟩
  | @message n w r w' r' dW dR payload m payload' _ hwrite hread ih =>
      have hw := says_run (says_call hgcm hdh (.write dW payload) ih.1) hwrite
      have hr := says_run (says_call hgcm hdh (.read dR m) ih.2) hread
      exact ⟨hr.1, hw.1⟩

/-- The size of a message without a payload. -/
theorem Exchanged.length (hgcm : AesGcmLaws P) (hdh : X25519Laws P) (hI : KeyLengths idI)
    (hR : KeyLengths idR) (h : Exchanged P idI idR n w r) {dW : NoiseDraws}
    (hwrite : (writeMessage P dW [] : Co Unit _ _ _).run () w = (w', .ok message)) :
    0 < message.length ∧ message.length ≤ 1216 := by
  have hsize := (says_run (says_call hgcm hdh (.write dW []) (h.sized hgcm hdh hI hR).1) hwrite).2
    dW [] rfl
  rw [hsize, List.length_nil, Nat.add_zero]
  unfold messageSize
  split
  · decide
  · decide

/-- The next message is written. -/
theorem Exchanged.writes (hgcm : AesGcmLaws P) (hdh : X25519Laws P) (hkem : MlKemLaws P)
    (hI : IdentityLaws P idI edI xI) (hR : IdentityLaws P idR edR xR)
    (h : Exchanged P idI idR n w r) (hn : n < 3) (dW : NoiseDraws) :
    ∃ w' m, (writeMessage P dW [] : Co Unit _ _ _).run () w = (w', .ok m) := by
  obtain ⟨w', m, hwrite, -⟩ := written_is_read_iff hgcm hdh hkem hI hR h hn dW (.sample 0)
    (show ([] : Bytes).length ≤ MAX_HANDSHAKE_MSG_BYTES from Nat.zero_le _)
  exact ⟨w', m, hwrite⟩

/-- And read. -/
theorem Exchanged.reads (hgcm : AesGcmLaws P) (hdh : X25519Laws P) (hkem : MlKemLaws P)
    (hI : IdentityLaws P idI edI xI) (hR : IdentityLaws P idR edR xR)
    (h : Exchanged P idI idR n w r) (hn : n < 3) {dW : NoiseDraws}
    (hwrite : (writeMessage P dW [] : Co Unit _ _ _).run () w = (w', .ok message))
    (dR : NoiseDraws) :
    ∃ r', (readMessage P dR message : Co Unit _ _ _).run () r = (r', .ok []) ∧
      Exchanged P idI idR (n + 1) r' w' := by
  obtain ⟨w'', m, hwrite', hread⟩ := written_is_read_iff hgcm hdh hkem hI hR h hn dW dR
    (show ([] : Bytes).length ≤ MAX_HANDSHAKE_MSG_BYTES from Nat.zero_le _)
  rw [hwrite] at hwrite'
  cases hwrite'
  obtain ⟨r', hr'⟩ := hread.mpr (Or.inr (Nat.zero_le _))
  exact ⟨r', hr', h.message hwrite hr'⟩

/-- What msg-3 leaves was hashed. -/
theorem writeMsg3_hashed {eSecret rePublic : Bytes} (he : w.eSecret = some eSecret)
    (hre : w.rePublic = some rePublic)
    (h : (writeMsg3 P payload : Co Unit _ _ _).run () w = (w', .ok message)) :
    ∃ x, w'.state.h = P.sha256 x := by
  rw [writeMsg3_run w payload he hre] at h
  cases hkeys : staticKeys w.identity with
  | error e =>
      rw [hkeys] at h
      cases h
  | ok sPayload =>
      rw [hkeys] at h
      dsimp only at h
      cases hdh : w.identity.dhX25519 rePublic with
      | error e =>
          rw [hdh] at h
          cases h
      | ok dh =>
          rw [hdh] at h
          cases h
          exact ⟨_, absorbState_h⟩

/-- After the third message the handshake hash is one. -/
theorem Exchanged.hash_length (hgcm : AesGcmLaws P) (hdh : X25519Laws P) (hkem : MlKemLaws P)
    (hsha : ∀ x, (P.sha256 x).length = 32) (hR : IdentityLaws P idR edR xR)
    (h : Exchanged P idI idR 3 r i) : i.state.h.length = 32 := by
  cases h with
  | message h hwrite hread =>
      obtain ⟨eI, eR, sharedSecret, -, hagreed⟩ := h.agreed hgcm hdh hkem hR
      have hp := fits_of_write hwrite
      rw [writeMessage_run, if_neg (Nat.not_lt.mpr hp), writeTurn, hagreed.initiator.1,
        hagreed.initiator.2.1] at hwrite
      obtain ⟨x, hx⟩ := writeMsg3_hashed hagreed.ephemeral.1 hagreed.ephemeral.2.1 hwrite
      rw [hx, hsha]

/-- **Both sides conclude**: their sessions are a pair, and the SAS is the same. -/
theorem Exchanged.concluded (hgcm : AesGcmLaws P) (hdh : X25519Laws P) (hkem : MlKemLaws P)
    (hkdf : HkdfLaws P) (hsha : ∀ x, (P.sha256 x).length = 32) (hI : IdentityLaws P idI edI xI)
    (hR : IdentityLaws P idR edR xR) (h : Exchanged P idI idR 3 r i) :
    ∃ opts session sas, Paired P opts session ∧
      Concluded P i edR (session .initiator) sas ∧ Concluded P r edI (session .responder) sas := by
  obtain ⟨sharedSecret, hafter⟩ := h.afterMsg3 hgcm hdh hkem hI hR
  obtain ⟨opts, session, hpaired, hinitiator, hresponder⟩ := exists_paired hkdf hafter
  obtain ⟨sas, hsas⟩ := computeSas_ok (h.hash_length hgcm hdh hkem hsha hR)
  have hcomplete : ∀ hs : NoiseXxHandshake, hs.msgIdx = 3 → hs.isComplete = true := by
    intro hs hidx
    unfold isComplete
    rw [hidx]
    rfl
  refine ⟨opts, session, sas, hpaired, ?_, ?_⟩
  · exact ⟨hcomplete i hafter.initiator.2, hinitiator, hsas, hafter.peers.1⟩
  · refine ⟨hcomplete r hafter.responder.2, hresponder, ?_, hafter.peers.2⟩
    unfold NoiseXxHandshake.sas
    rw [← hafter.state]
    exact hsas

/-- Before the third message no side is complete. -/
theorem Exchanged.incomplete (h : Exchanged P idI idR n w r) (hn : n < 3) :
    w.isComplete = false ∧ r.isComplete = false := by
  have hidx : ∀ hs : NoiseXxHandshake, hs.msgIdx.val = n → hs.isComplete = false := by
    intro hs hval
    unfold isComplete
    rw [beq_eq_false_iff_ne]
    intro heq
    rw [heq] at hval
    exact absurd hval (Nat.ne_of_gt hn)
  exact ⟨hidx w h.turn.1.2, hidx r h.turn.2.2⟩

end Exchanged

end NoiseXxHandshake

end Oxpulse.Crypto
