import Mathlib.Tactic.Simps.Basic
import Oxpulse.Identity.Device

/-!
# Keys and their wrapping

`aes-kw.ts` and the WebCrypto operations the identity code awaits. Every one of
them suspends once. An unsupported algorithm is refused before the input is
looked at, as `crypto.subtle` normalises the algorithm first.
-/

namespace Oxpulse.Identity

open Oxpulse.Coroutine Oxpulse.Crypto

/-! ## Random bytes and key formats -/

/-- `crypto.getRandomValues` and the key generators of `@noble/curves`. The source
draws without suspending; the reply brings the bytes here, and no state is
touched in the segment that asks for them. -/
def draw : TabCo Key32 := do
  let r ← Co.suspend
  return r.random

/-- The bytes of the private key that an envelope imports as. -/
def pkcs8Secret (env : Runtime) (header pkcs8 : Bytes) : Option Bytes :=
  (env.pkcs8.secret header pkcs8).map Key32.bytes

theorem pkcs8Secret_ed25519 (env : Runtime) (seed : Key32) :
    pkcs8Secret env ED25519_PKCS8_PREFIX (ED25519_PKCS8_PREFIX ++ seed.bytes) =
      some seed.bytes := by
  rw [pkcs8Secret, env.pkcs8.ed25519, Option.map_some]

theorem pkcs8Secret_x25519 (env : Runtime) (scalar : Key32) :
    pkcs8Secret env X25519_PKCS8_PREFIX (X25519_PKCS8_PREFIX ++ scalar.bytes) =
      some scalar.bytes := by
  rw [pkcs8Secret, env.pkcs8.x25519, Option.map_some]

/-! ## WebCrypto -/

/-- `try { .. } catch (e) { if (e.name !== 'NotSupportedError') throw e; }` -/
def unlessNotSupported {α : Type} (co : TabCo α) : TabCo (Option α) := do
  match ← Co.attempt co with
  | .ok a => return some a
  | .error .notSupported => return none
  | .error e => throw e

/-- `importKey('pkcs8', ..)` of a private key. -/
def importPkcs8 (env : Runtime) (supported : Bool) (header pkcs8 : Bytes) : TabCo Bytes := do
  let _ ← Co.suspend
  if supported then Co.orThrow .data (pkcs8Secret env header pkcs8) else throw .notSupported

/-- `importKey('raw', ..)` of a public key. -/
def importPublicKey (supported : Bool) (bytes : Bytes) : TabCo Bytes := do
  let _ ← Co.suspend
  if supported then
    if bytes.length = 32 then return bytes else throw .data
  else throw .notSupported

/-- The platform wraps with the key. -/
def CryptoKey.wraps (kek : CryptoKey) : Bool := kek.genuine && kek.usages.contains .wrapKey

/-- The platform unwraps with the key. -/
def CryptoKey.unwraps (kek : CryptoKey) : Bool := kek.genuine && kek.usages.contains .unwrapKey

/-- A wrapping key: it wraps and unwraps. -/
def CryptoKey.Usable (kek : CryptoKey) : Prop := kek.wraps = true ∧ kek.unwraps = true

section Wrapping

variable (P : IdentityPrimitives)

/-- `wrapKey('pkcs8', ..)` -/
def wrapPkcs8 (header secret : Bytes) (kek : CryptoKey) : TabCo Bytes := do
  let _ ← Co.suspend
  if kek.wraps then return P.aesKwWrap kek.raw (header ++ secret) else throw .data

/-- `unwrapKey('pkcs8', ..)`. What is no key is refused before the algorithm is looked
at, and a key that may not unwrap after it. -/
def unwrapPkcs8 (env : Runtime) (supported : Bool) (header wrapped : Bytes) (kek : CryptoKey) :
    TabCo Bytes := do
  let _ ← Co.suspend
  if kek.genuine then
    if supported then
      if kek.unwraps then
        match P.aesKwUnwrap kek.raw wrapped with
        | some pkcs8 => Co.orThrow .data (pkcs8Secret env header pkcs8)
        | none => throw .operation
      else throw .data
    else throw .notSupported
  else throw .data

/-! ## `aes-kw.ts` -/

def wrapSecretBytes (kek : CryptoKey) (rawBytes : Bytes) : TabCo Bytes := do
  if rawBytes.length < 16 ∨ rawBytes.length % 8 ≠ 0 then
    throw (.error ("[aes-kw] cannot wrap " ++ toString rawBytes.length ++
      " bytes: AES-KW requires a multiple of 8, minimum 16"))
  else
    let _ ← Co.suspend
    let _ ← Co.suspend
    if kek.wraps then return P.aesKwWrap kek.raw rawBytes else throw .data

def unwrapSecretBytes (kek : CryptoKey) (wrapped : Bytes) : TabCo Bytes := do
  let _ ← Co.suspend
  if kek.unwraps then
    match P.aesKwUnwrap kek.raw wrapped with
    | some rawBytes =>
        let _ ← Co.suspend
        return rawBytes
    | none => throw .operation
  else throw .data

end Wrapping

def aesKwKey (extractable : Bool) (raw : Bytes) : CryptoKey :=
  ⟨.secret, "AES-KW", extractable, [.wrapKey, .unwrapKey], true, raw⟩

theorem aesKwKey_usable (extractable : Bool) (raw : Bytes) : (aesKwKey extractable raw).Usable :=
  ⟨rfl, rfl⟩

theorem genuine_of_unwraps {kek : CryptoKey} (h : kek.unwraps = true) : kek.genuine = true :=
  (Bool.and_eq_true_iff.mp h).1

def generateAesKwKey (extractable : Bool) : TabCo CryptoKey := do
  let r ← Co.suspend
  return aesKwKey extractable r.random.bytes

def importAesKwRaw (bytes : Bytes) (extractable : Bool) : TabCo CryptoKey := do
  let _ ← Co.suspend
  if bytes.length ∈ [16, 24, 32] then return aesKwKey extractable bytes else throw .data

inductive KekEntry : Type where
  | raw (bytes : Bytes)
  | key (key : CryptoKey)
deriving DecidableEq, Repr

def classifyKekEntry : StoredValue → Option KekEntry
  | .arrayBuffer bytes => some (.raw bytes)
  | .cryptoKey key =>
      if key.type = .secret ∧ key.algorithm = "AES-KW" ∧ key.extractable = false then some (.key key)
      else none
  | .other => none
  | .unreadable => none

/-- The handle of a classified entry: raw bytes are re-imported non-extractable. -/
def KekEntry.handle : KekEntry → TabCo CryptoKey
  | .raw bytes => importAesKwRaw bytes false
  | .key kek => pure kek

/-- The entry in the shape it is stored in. -/
def KekEntry.stored : KekEntry → StoredValue
  | .raw bytes => .arrayBuffer bytes
  | .key kek => .cryptoKey kek

/-- The entry has a handle, and it is the key. -/
def KekEntry.Opens : KekEntry → CryptoKey → Prop
  | .raw bytes, kek => bytes.length ∈ [16, 24, 32] ∧ kek = aesKwKey false bytes
  | .key handle, kek => kek = handle

/-- The entry has a handle that wraps and unwraps, and it is the key. -/
def KekEntry.Yields (entry : KekEntry) (kek : CryptoKey) : Prop := entry.Opens kek ∧ kek.Usable

/-- The stored value is of one of the two shapes, and this is its handle. -/
def StoredValue.Opens (value : StoredValue) (key : CryptoKey) : Prop :=
  ∃ entry, classifyKekEntry value = some entry ∧ entry.Opens key

/-- **A readable entry.** The stored value is of one of the two shapes, and its
handle is the key. -/
def StoredValue.Holds (value : StoredValue) (key : CryptoKey) : Prop :=
  ∃ entry, classifyKekEntry value = some entry ∧ entry.Yields key

theorem classifyKekEntry_stored {value : StoredValue} {entry : KekEntry}
    (h : classifyKekEntry value = some entry) : entry.stored = value := by
  cases value with
  | arrayBuffer bytes => cases h; rfl
  | cryptoKey key =>
      rw [classifyKekEntry] at h
      split at h
      · cases h; rfl
      · cases h
  | other => cases h
  | unreadable => cases h

/-- An entry has one handle. -/
theorem KekEntry.Opens.unique {entry : KekEntry} {key key' : CryptoKey} (h : entry.Opens key)
    (h' : entry.Opens key') : key = key' := by
  cases entry with
  | raw bytes => rw [h.2, h'.2]
  | key handle => exact Eq.trans h (Eq.symm h')

theorem StoredValue.Holds.opens {value : StoredValue} {key : CryptoKey} (h : value.Holds key) :
    value.Opens key := by
  obtain ⟨entry, hclassify, hyields⟩ := h
  exact ⟨entry, hclassify, hyields.1⟩

theorem StoredValue.Opens.unique {value : StoredValue} {key key' : CryptoKey}
    (h : value.Opens key) (h' : value.Opens key') : key = key' := by
  obtain ⟨entry, hentry, hkey⟩ := h
  obtain ⟨entry', hentry', hkey'⟩ := h'
  rw [hentry] at hentry'
  cases hentry'
  exact hkey.unique hkey'

/-- A readable entry has one key. -/
theorem StoredValue.Holds.unique {value : StoredValue} {key key' : CryptoKey}
    (h : value.Holds key) (h' : value.Holds key') : key = key' :=
  h.opens.unique h'.opens

theorem StoredValue.Holds.usable {value : StoredValue} {key : CryptoKey} (h : value.Holds key) :
    key.Usable := by
  obtain ⟨entry, -, hyields⟩ := h
  exact hyields.2

theorem StoredValue.Opens.holds {value : StoredValue} {key : CryptoKey} (h : value.Opens key)
    (husable : key.Usable) : value.Holds key := by
  obtain ⟨entry, hclassify, hopens⟩ := h
  exact ⟨entry, hclassify, hopens, husable⟩

theorem StoredValue.Opens.readable {value : StoredValue} {key : CryptoKey} (h : value.Opens key) :
    value ≠ .unreadable := by
  rintro rfl
  obtain ⟨entry, hentry, -⟩ := h
  cases hentry

/-- What is saved when a key was generated holds it. -/
theorem holds_generated (raw : Key32) :
    (StoredValue.arrayBuffer raw.bytes).Holds (aesKwKey false raw.bytes) ∧
      (StoredValue.cryptoKey (aesKwKey false raw.bytes)).Holds (aesKwKey false raw.bytes) := by
  have husable := aesKwKey_usable false raw.bytes
  constructor
  · refine ⟨.raw raw.bytes, rfl, ⟨?_, rfl⟩, husable⟩
    rw [raw.size]
    decide
  · exact ⟨.key _, rfl, rfl, husable⟩

/-! ## Sample primitives -/

/-- What marks the key in a sample ciphertext: its length in unary, and the key. -/
def sampleHeader (kek : Bytes) : Bytes := List.replicate kek.length 1 ++ 0 :: kek

/-- A sample key wrap that names the key in the clear, with sample curves. -/
def samplePrimitives : IdentityPrimitives where
  aesKwWrap kek secret := sampleHeader kek ++ secret
  aesKwUnwrap kek wrapped :=
    if (sampleHeader kek).isPrefixOf wrapped then some (wrapped.drop (sampleHeader kek).length)
    else none
  ed25519PublicKey seed := ⟨seed.bytes.map (· + 1), by rw [List.length_map, seed.size]⟩
  ed25519Sign message seed := message ++ seed
  x25519PublicKey scalar := scalar.map (· + 1)

/-- A unary number is read off in one way. -/
theorem unary_unique {m n : ℕ} {u v : Bytes}
    (h : List.replicate m 1 ++ 0 :: u = List.replicate n 1 ++ 0 :: v) : m = n ∧ u = v := by
  induction m generalizing n with
  | zero =>
      cases n with
      | zero => exact ⟨rfl, (List.cons.inj h).2⟩
      | succ n => cases h
  | succ m ih =>
      cases n with
      | zero => cases h
      | succ n =>
          obtain ⟨hlength, hrest⟩ := ih (List.cons.inj h).2
          exact ⟨congrArg Nat.succ hlength, hrest⟩

theorem samplePrimitives_laws : AesKwLaws samplePrimitives where
  unwrap_wrap kek secret := by
    have hhead : (sampleHeader kek).isPrefixOf (sampleHeader kek ++ secret) = true :=
      List.isPrefixOf_iff_prefix.mpr (List.prefix_append _ _)
    simp only [samplePrimitives, hhead, if_true, List.drop_left]
  unwrap_other kek kek' secret hne := by
    have hhead : ¬ (sampleHeader kek').isPrefixOf (sampleHeader kek ++ secret) = true := by
      intro h
      obtain ⟨rest, hrest⟩ := List.isPrefixOf_iff_prefix.mp h
      rw [sampleHeader, sampleHeader, List.append_assoc, List.append_assoc] at hrest
      obtain ⟨hlength, htail⟩ := unary_unique hrest
      exact hne (List.append_inj htail hlength).1
    simp only [samplePrimitives, hhead]
    rfl
  wrap_ne_nil kek secret h := by
    have hnil := (List.append_eq_nil_iff.mp h).1
    have hcons := (List.append_eq_nil_iff.mp hnil).2
    cases hcons

/-- 32 times the same byte. -/
theorem length_sampleKey (b : UInt8) : (List.replicate 32 b).length = 32 := List.length_replicate

def sampleKey (b : UInt8) : Key32 := ⟨List.replicate 32 b, length_sampleKey b⟩

end Oxpulse.Identity
