import Mathlib.Algebra.Group.Nat.Defs
import Mathlib.Data.List.Basic
import Mathlib.Data.List.Induction

/-!
# Byte strings, errors and the cryptographic libraries

`Primitives` collects what `mesh-core` takes from `@noble/hashes`,
`@noble/curves`, `@noble/post-quantum` and WebCrypto. These are parameters of
the development: nothing is assumed of them here, and a result that relies on
their documented behaviour names the law it uses.

Byte arrays are lists. The source copies an array (`slice`, `toBufferSource`)
before it hands it out or awaits with it, so no result depends on aliasing.
-/

namespace Oxpulse.Crypto

abbrev Bytes : Type := List UInt8

/-- What a call throws. `library` stands for the exceptions of the libraries
(a failed tag, a low-order point, a malformed ML-KEM key). -/
inductive JsError : Type where
  | error (message : String)
  | noiseStateError (message : String)
  | library
deriving DecidableEq, Repr

/-- `new TextEncoder().encode(s)`. -/
def textEncode (s : String) : Bytes := s.toUTF8.toList

/-! ## The libraries -/

structure Primitives : Type where
  sha256 : Bytes → Bytes
  /-- `hmac(sha256, key, message)` -/
  hmac : Bytes → Bytes → Bytes
  /-- `hkdf(sha256, ikm, salt, info, length)` -/
  hkdf : Bytes → Option Bytes → Bytes → ℕ → Bytes
  /-- AES-GCM under key, nonce and additional data -/
  aesGcmSeal : Bytes → Bytes → Bytes → Bytes → Bytes
  aesGcmOpen : Bytes → Bytes → Bytes → Bytes → Option Bytes
  /-- `x25519.getPublicKey(secret)` -/
  x25519PublicKey : Bytes → Bytes
  /-- `x25519.getSharedSecret(secret, public)`, which throws on an all-zero
  result and on a key of the wrong length -/
  x25519SharedSecret : Bytes → Bytes → Option Bytes
  /-- `ml_kem768.keygen()` from the random bytes it draws: public and secret key -/
  mlkemKeygen : Bytes → Bytes × Bytes
  /-- `ml_kem768.encapsulate(publicKey)`: ciphertext and shared secret -/
  mlkemEncapsulate : Bytes → Bytes → Option (Bytes × Bytes)
  /-- `ml_kem768.decapsulate(ciphertext, secretKey)` -/
  mlkemDecapsulate : Bytes → Bytes → Option Bytes

/-! ## `DataView` big-endian 64-bit access -/

/-- The low `len` bytes of `n`, most significant first. -/
def toBigEndian : ℕ → ℕ → Bytes
  | 0, _ => []
  | len + 1, n => toBigEndian len (n / 256) ++ [UInt8.ofNat n]

/-- A byte string read most significant byte first. -/
def ofBigEndian (b : Bytes) : ℕ := b.foldl (fun n x => n * 256 + x.toNat) 0

/-- `setBigUint64`: the counter wraps at `2 ^ 64`. -/
def setBigUint64 (n : ℕ) : Bytes := toBigEndian 8 n

/-- `getBigUint64` of the first eight bytes. -/
def getBigUint64 (b : Bytes) : ℕ := ofBigEndian (b.take 8)

@[simp] theorem toBigEndian_length : ∀ len n : ℕ, (toBigEndian len n).length = len
  | 0, _ => rfl
  | len + 1, n => by simp [toBigEndian, toBigEndian_length len]

@[simp] theorem setBigUint64_length (n : ℕ) : (setBigUint64 n).length = 8 :=
  toBigEndian_length 8 n

theorem ofBigEndian_concat (b : Bytes) (x : UInt8) :
    ofBigEndian (b ++ [x]) = ofBigEndian b * 256 + x.toNat := by
  simp [ofBigEndian]

theorem ofBigEndian_toBigEndian : ∀ len n : ℕ,
    ofBigEndian (toBigEndian len n) = n % 256 ^ len
  | 0, n => by simp [toBigEndian, ofBigEndian, Nat.mod_one]
  | len + 1, n => by
      rw [toBigEndian, ofBigEndian_concat, ofBigEndian_toBigEndian len]
      have hbyte : (UInt8.ofNat n).toNat = n % 256 := by simp
      have hsplit : n % 256 ^ (len + 1) = n % 256 + 256 * (n / 256 % 256 ^ len) := by
        rw [Nat.pow_succ, Nat.mul_comm, Nat.mod_mul]
      omega

/-- A counter below `2 ^ 64` survives the wire. -/
theorem getBigUint64_setBigUint64 {n : ℕ} (h : n < 2 ^ 64) (rest : Bytes) :
    getBigUint64 (setBigUint64 n ++ rest) = n := by
  have htake : (setBigUint64 n ++ rest).take 8 = setBigUint64 n := by
    rw [List.take_append_of_le_length (by simp), List.take_of_length_le (by simp)]
  rw [getBigUint64, htake, setBigUint64, ofBigEndian_toBigEndian]
  exact Nat.mod_eq_of_lt (by simpa using h)

end Oxpulse.Crypto
