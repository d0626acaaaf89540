import Oxpulse.Foundation.BitString
import Oxpulse.Identity.Base64url

/-!
# The unpadded base64url form

What base64url is, apart from how the source computes it: the bits of all bytes
in a row, cut into groups of six, the last group filled up with zero bits, and
one character of the url alphabet for each group. `toBase64url` writes this form
(`toBase64url_eq_form`), and on the strings of this form `fromBase64url` has no
other preimage (`toBase64url_fromBase64url`).
-/

namespace Oxpulse.Identity

open Oxpulse.BitString Oxpulse.Crypto

def urlAlphabet : List Char :=
  "ABCDEFGHIJKLMNOPQRSTUVWXYZabcdefghijklmnopqrstuvwxyz0123456789-_".toList

/-- The values of the six-bit groups; zeros fill up the last one. -/
def sixBitGroups : List Bool → List ℕ
  | [] => []
  | a :: b :: c :: d :: e :: f :: rest => ofBits [a, b, c, d, e, f] :: sixBitGroups rest
  | rest => [ofBits (rest ++ List.replicate (6 - rest.length) false)]

def unpaddedForm (bytes : Bytes) : List Char :=
  (sixBitGroups (bytes.flatMap fun b => bits 8 b.toNat)).map fun n => urlAlphabet.getD n 'A'

/-- The characters of a base64url string without padding. -/
def IsBase64url (s : List Char) : Prop := ∃ bytes, s = unpaddedForm bytes

/-! ## Cutting into groups -/

theorem sixBitGroups_group {group : List Bool} (h : group.length = 6) (rest : List Bool) :
    sixBitGroups (group ++ rest) = ofBits group :: sixBitGroups rest := by
  obtain ⟨a, b, c, d, e, f, rfl⟩ : ∃ a b c d e f, group = [a, b, c, d, e, f] := by
    match group, h with
    | [a, b, c, d, e, f], _ => exact ⟨a, b, c, d, e, f, rfl⟩
  rfl

theorem sixBitGroups_last {group : List Bool} (h0 : 0 < group.length) (h6 : group.length < 6) :
    sixBitGroups group = [ofBits group * 2 ^ (6 - group.length)] := by
  have hvalue : ofBits (group ++ List.replicate (6 - group.length) false) =
      ofBits group * 2 ^ (6 - group.length) := by
    rw [ofBits_append, ofBits_replicate_false, List.length_replicate, Nat.add_zero]
  rw [← hvalue]
  match group, h0, h6 with
  | [_], _, _ | [_, _], _, _ | [_, _, _], _, _ | [_, _, _, _], _, _ | [_, _, _, _, _], _, _ => rfl

/-- The two parts of a byte. -/
theorem bits_byte {v w : ℕ} (h : v + w = 8) (b : UInt8) :
    bits 8 b.toNat = bits v (b.toNat / 2 ^ w) ++ bits w b.toNat := by
  rw [← h, bits_add]

/-- A group that takes the end of one byte and the beginning of the next. -/
theorem ofBits_across {v w : ℕ} (m n : ℕ) :
    ofBits (bits v m ++ bits w n) = m % 2 ^ v * 2 ^ w + n % 2 ^ w := by
  rw [ofBits_append, ofBits_bits, ofBits_bits, length_bits]

/-- The source's arithmetic cuts the bits at the same places. -/
theorem sextets_eq_groups : ∀ bytes : Bytes,
    sextets bytes = sixBitGroups (bytes.flatMap fun b => bits 8 b.toNat)
  | [] => rfl
  | [a] => by
      have ha := a.toNat_lt
      have hbits : [a].flatMap (fun b => bits 8 b.toNat) =
          bits 6 (a.toNat / 2 ^ 2) ++ bits 2 a.toNat := by
        rw [List.flatMap_singleton, bits_byte (v := 6) (w := 2) rfl]
      rw [hbits, sixBitGroups_group (length_bits 6 _),
        sixBitGroups_last (by simp) (by simp), ofBits_bits, ofBits_bits, length_bits, sextets]
      simp only [List.cons.injEq, and_true]
      refine ⟨?_, ?_⟩ <;> omega
  | [a, b] => by
      have ha := a.toNat_lt
      have hb := b.toNat_lt
      have hbits : [a, b].flatMap (fun b => bits 8 b.toNat) =
          bits 6 (a.toNat / 2 ^ 2) ++ ((bits 2 a.toNat ++ bits 4 (b.toNat / 2 ^ 4)) ++
            bits 4 b.toNat) := by
        rw [List.flatMap_cons, List.flatMap_singleton, bits_byte (v := 6) (w := 2) rfl a,
          bits_byte (v := 4) (w := 4) rfl b]
        simp only [List.append_assoc]
      rw [hbits, sixBitGroups_group (length_bits 6 _),
        sixBitGroups_group (by rw [List.length_append, length_bits, length_bits]),
        sixBitGroups_last (by simp) (by simp), ofBits_bits, ofBits_across, ofBits_bits, length_bits,
        sextets]
      simp only [List.cons.injEq, and_true]
      refine ⟨?_, ?_, ?_⟩ <;> omega
  | a :: b :: c :: rest => by
      have ha := a.toNat_lt
      have hb := b.toNat_lt
      have hc := c.toNat_lt
      have hbits : (a :: b :: c :: rest).flatMap (fun b => bits 8 b.toNat) =
          bits 6 (a.toNat / 2 ^ 2) ++ ((bits 2 a.toNat ++ bits 4 (b.toNat / 2 ^ 4)) ++
            ((bits 4 b.toNat ++ bits 2 (c.toNat / 2 ^ 6)) ++ (bits 6 c.toNat ++
              rest.flatMap fun b => bits 8 b.toNat))) := by
        rw [List.flatMap_cons, List.flatMap_cons, List.flatMap_cons,
          bits_byte (v := 6) (w := 2) rfl a, bits_byte (v := 4) (w := 4) rfl b,
          bits_byte (v := 2) (w := 6) rfl c]
        simp only [List.append_assoc]
      rw [hbits, sixBitGroups_group (length_bits 6 _),
        sixBitGroups_group (by rw [List.length_append, length_bits, length_bits]),
        sixBitGroups_group (by rw [List.length_append, length_bits, length_bits]),
        sixBitGroups_group (length_bits 6 _), ofBits_bits, ofBits_across, ofBits_across,
        ofBits_bits, ← sextets_eq_groups rest, sextets]
      simp only [List.cons.injEq, and_true]
      refine ⟨?_, ?_, ?_, ?_⟩ <;> omega

/-! ## The encoder writes the form -/

theorem toUrlChar_base64Char {n : ℕ} (h : n < 64) :
    toUrlChar (base64Char n) = urlAlphabet.getD n 'A' := by
  have hall : ∀ n : Fin 64, toUrlChar (base64Char n) = urlAlphabet.getD n.val 'A' := by
    decide +kernel
  exact hall ⟨n, h⟩

/-- **The encoder writes the unpadded base64url form.** -/
theorem toBase64url_eq_form (bytes : Bytes) : toBase64url bytes = unpaddedForm bytes := by
  rw [toBase64url_eq, unpaddedForm, ← sextets_eq_groups]
  exact List.map_congr_left fun n hn => toUrlChar_base64Char (sextets_lt bytes n hn)

theorem toBase64url_injective : Function.Injective toBase64url := by
  intro a b h
  have hback := fromBase64url_toBase64url a
  rw [h, fromBase64url_toBase64url] at hback
  exact (Option.some.inj hback).symm

/-- On the strings of the form decoding is undone by encoding. -/
theorem toBase64url_fromBase64url {s : List Char} (h : IsBase64url s) :
    (fromBase64url s).map toBase64url = some s := by
  obtain ⟨bytes, rfl⟩ := h
  rw [← toBase64url_eq_form, fromBase64url_toBase64url, Option.map_some]

end Oxpulse.Identity
