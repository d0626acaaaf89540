import Mathlib.Data.List.Basic
import Mathlib.Order.Nat
import Oxpulse.Crypto.Primitives

/-!
# What the libraries document

Four groups of laws: HKDF gives as many bytes as it is asked for; AES-GCM opens
what it sealed and adds a tag of sixteen bytes; X25519 commutes on generated keys
and takes public keys of 32 bytes; ML-KEM-768 has fixed sizes and decapsulates what
it encapsulated.

`Primitives.sample` satisfies all of them, so they are consistent. It is a
small instance to evaluate the model on, not a cipher.
-/

namespace Oxpulse.Crypto

structure HkdfLaws (P : Primitives) : Prop where
  length : ∀ ikm salt info len, (P.hkdf ikm salt info len).length = len

structure AesGcmLaws (P : Primitives) : Prop where
  open_seal : ∀ key nonce ad pt, P.aesGcmOpen key nonce ad (P.aesGcmSeal key nonce ad pt) = some pt
  seal_length : ∀ key nonce ad pt, (P.aesGcmSeal key nonce ad pt).length = pt.length + 16
  open_length : ∀ key nonce ad ct pt, P.aesGcmOpen key nonce ad ct = some pt →
    ct.length = pt.length + 16

structure X25519Laws (P : Primitives) : Prop where
  publicKey_length : ∀ sec, (P.x25519PublicKey sec).length = 32
  commutes : ∀ a b : Bytes, a.length = 32 → b.length = 32 →
    ∃ ss, P.x25519SharedSecret a (P.x25519PublicKey b) = some ss ∧
      P.x25519SharedSecret b (P.x25519PublicKey a) = some ss
  shared_length : ∀ sec pub ss, P.x25519SharedSecret sec pub = some ss → pub.length = 32

structure MlKemLaws (P : Primitives) : Prop where
  publicKey_length : ∀ seed, (P.mlkemKeygen seed).1.length = 1184
  encapsulate : ∀ seed coins, ∃ ct ss,
    P.mlkemEncapsulate (P.mlkemKeygen seed).1 coins = some (ct, ss) ∧
      ct.length = 1088 ∧ ss.length = 32 ∧
      P.mlkemDecapsulate ct (P.mlkemKeygen seed).2 = some ss
  /-- Implicit rejection: a ciphertext of the right size never makes it throw. -/
  decapsulate_total : ∀ seed ct, ct.length = 1088 →
    ∃ ss, P.mlkemDecapsulate ct (P.mlkemKeygen seed).2 = some ss ∧ ss.length = 32

/-! ## A small instance -/

/-- The first `n` bytes, padded with zeros. -/
def padTo (n : ℕ) (b : Bytes) : Bytes := b.take n ++ List.replicate (n - b.length) 0

@[simp] theorem padTo_length (n : ℕ) (b : Bytes) : (padTo n b).length = n := by
  simp only [padTo, List.length_append, List.length_take, List.length_replicate]
  omega

theorem padTo_of_length {n : ℕ} {b : Bytes} (h : b.length = n) : padTo n b = b := by
  simp [padTo, h, List.take_of_length_le (le_of_eq h)]

theorem take_padTo {m n : ℕ} (h : m ≤ n) (b : Bytes) : (padTo n b).take m = padTo m b := by
  by_cases hb : b.length ≤ m
  · have hn : b.length ≤ n := hb.trans h
    rw [padTo, padTo, List.take_of_length_le hn, List.take_of_length_le hb,
      List.take_append, List.take_of_length_le hb, List.take_replicate]
    congr 2
    omega
  · rw [padTo, padTo, List.take_append, List.take_take, min_eq_left h, List.length_take,
      show m - min n b.length = 0 by omega, show m - b.length = 0 by omega]
    simp

/-- Bytewise sum of two byte strings, padded to `n`. -/
def addTo (n : ℕ) (a b : Bytes) : Bytes := List.zipWith (· + ·) (padTo n a) (padTo n b)

@[simp] theorem addTo_length (n : ℕ) (a b : Bytes) : (addTo n a b).length = n := by
  simp [addTo]

theorem addTo_comm (n : ℕ) (a b : Bytes) : addTo n a b = addTo n b a :=
  List.zipWith_comm_of_comm (fun x y => UInt8.add_comm x y)

/-- A tag that depends on everything it authenticates. -/
def sampleTag (key nonce ad pt : Bytes) : Bytes :=
  addTo 16 (addTo 16 key nonce.reverse) (addTo 16 ad pt)

def Primitives.sample : Primitives where
  -- length and prefix: no two inputs of one handshake agree in both
  sha256 x := padTo 32 (UInt8.ofNat (x.length / 256) :: UInt8.ofNat x.length :: x.take 30)
  hmac key message := addTo 32 key message
  hkdf ikm _ info len := addTo len ikm [UInt8.ofNat info.length]
  aesGcmSeal key nonce ad pt := pt ++ sampleTag key nonce ad pt
  aesGcmOpen key nonce ad ct :=
    let pt := ct.take (ct.length - 16)
    if 16 ≤ ct.length ∧ ct.drop (ct.length - 16) = sampleTag key nonce ad pt then some pt
    else none
  x25519PublicKey sec := padTo 32 sec
  x25519SharedSecret sec pub := if pub.length = 32 then some (addTo 32 sec pub) else none
  mlkemKeygen seed := (padTo 1184 seed, padTo 32 seed)
  mlkemEncapsulate pub coins :=
    if pub.length = 1184 then some (padTo 1088 coins, padTo 32 coins) else none
  mlkemDecapsulate ct _ := if ct.length = 1088 then some (ct.take 32) else none

theorem sampleTag_length (key nonce ad pt : Bytes) : (sampleTag key nonce ad pt).length = 16 := by
  simp [sampleTag]

theorem sample_sha256_length (x : Bytes) : (Primitives.sample.sha256 x).length = 32 :=
  padTo_length 32 _

theorem sample_hkdfLaws : HkdfLaws .sample where
  length := fun _ _ _ _ => addTo_length _ _ _

theorem sample_aesGcmLaws : AesGcmLaws .sample where
  open_seal := by
    intro key nonce ad pt
    have hlen : (pt ++ sampleTag key nonce ad pt).length = pt.length + 16 := by
      rw [List.length_append, sampleTag_length]
    simp only [Primitives.sample]
    rw [hlen, Nat.add_sub_cancel, List.take_left, List.drop_left,
      if_pos ⟨Nat.le_add_left _ _, rfl⟩]
  seal_length := by
    intro key nonce ad pt
    simp [Primitives.sample, sampleTag_length]
  open_length := by
    intro key nonce ad ct pt h
    simp only [Primitives.sample] at h
    split at h
    · next hc =>
        cases h
        rw [List.length_take]
        omega
    · cases h

theorem sample_x25519Laws : X25519Laws .sample where
  publicKey_length := by
    intro sec
    simp [Primitives.sample]
  commutes := by
    intro a b ha hb
    refine ⟨addTo 32 a b, ?_, ?_⟩
    · simp [Primitives.sample, padTo_of_length hb, hb]
    · simp [Primitives.sample, padTo_of_length ha, ha, addTo_comm 32 b a]
  shared_length := by
    intro sec pub ss h
    simp only [Primitives.sample] at h
    split at h
    · assumption
    · cases h

theorem sample_mlKemLaws : MlKemLaws .sample where
  publicKey_length := by
    intro seed
    simp [Primitives.sample]
  encapsulate := by
    intro seed coins
    refine ⟨padTo 1088 coins, padTo 32 coins, ?_, padTo_length _ _, padTo_length _ _, ?_⟩
    · simp [Primitives.sample]
    · simp [Primitives.sample, take_padTo]
  decapsulate_total := by
    intro seed ct h
    exact ⟨ct.take 32, by simp [Primitives.sample, h], by simp [h]⟩

end Oxpulse.Crypto
