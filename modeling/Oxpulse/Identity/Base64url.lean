import Mathlib.Data.List.Basic
import Oxpulse.Crypto.Primitives

/-!
# base64url

`toBase64url` and `fromBase64url` over `btoa` and `atob`. A string is a list of
characters here. `atob` is the forgiving decoder of the platform: it skips ASCII
whitespace, takes up to two padding characters off a full last group and ignores
left-over bits.
-/

namespace Oxpulse.Identity

open Oxpulse.Crypto

/-! ## `btoa` and `atob` -/

/-- The character of a six-bit value. -/
def base64Char (n : ℕ) : Char :=
  if n < 26 then Char.ofNat (65 + n)
  else if n < 52 then Char.ofNat (97 + (n - 26))
  else if n < 62 then Char.ofNat (48 + (n - 52))
  else if n = 62 then '+' else '/'

def base64Value (c : Char) : Option ℕ :=
  if 'A' ≤ c ∧ c ≤ 'Z' then some (c.toNat - 65)
  else if 'a' ≤ c ∧ c ≤ 'z' then some (c.toNat - 97 + 26)
  else if '0' ≤ c ∧ c ≤ '9' then some (c.toNat - 48 + 52)
  else if c = '+' then some 62
  else if c = '/' then some 63
  else none

/-- The six-bit values of the bytes, the last one filled up with zeros. -/
def sextets : Bytes → List ℕ
  | [] => []
  | [a] => [a.toNat / 4, a.toNat % 4 * 16]
  | [a, b] => [a.toNat / 4, a.toNat % 4 * 16 + b.toNat / 16, b.toNat % 16 * 4]
  | a :: b :: c :: rest =>
      a.toNat / 4 :: (a.toNat % 4 * 16 + b.toNat / 16) ::
        (b.toNat % 16 * 4 + c.toNat / 64) :: c.toNat % 64 :: sextets rest

/-- The bytes of six-bit values; one value alone is no byte. -/
def fromSextets : List ℕ → Option Bytes
  | [] => some []
  | [_] => none
  | [x, y] => some [UInt8.ofNat (x * 4 + y / 16)]
  | [x, y, z] => some [UInt8.ofNat (x * 4 + y / 16), UInt8.ofNat (y % 16 * 16 + z / 4)]
  | x :: y :: z :: w :: rest =>
      (fromSextets rest).map fun bytes =>
        UInt8.ofNat (x * 4 + y / 16) :: UInt8.ofNat (y % 16 * 16 + z / 4) ::
          UInt8.ofNat (z % 4 * 64 + w) :: bytes

/-- How many padding characters fill up the last group. -/
def padding (length : ℕ) : ℕ := if length % 4 = 0 then 0 else 4 - length % 4

def btoa (bytes : Bytes) : List Char :=
  let s := (sextets bytes).map base64Char
  s ++ List.replicate (padding s.length) '='

def isAsciiWhitespace (c : Char) : Bool :=
  c ∈ ['\t', '\n', '\x0c', '\r', ' ']

/-- Take up to two padding characters off the front. -/
def dropPadding : List Char → List Char
  | '=' :: '=' :: rest => rest
  | '=' :: rest => rest
  | rest => rest

/-- Full groups may end in padding. -/
def stripPadding (s : List Char) : List Char :=
  if s.length % 4 = 0 then (dropPadding s.reverse).reverse else s

def atob (s : List Char) : Option Bytes :=
  let s := stripPadding (s.filter fun c => !isAsciiWhitespace c)
  (s.mapM base64Value).bind fromSextets

/-! ## The url alphabet -/

def toUrlChar (c : Char) : Char :=
  if c = '+' then '-' else if c = '/' then '_' else c

def fromUrlChar (c : Char) : Char :=
  if c = '-' then '+' else if c = '_' then '/' else c

def toBase64url (bytes : Bytes) : List Char :=
  ((btoa bytes).map toUrlChar).filter fun c => c ≠ '='

def fromBase64url (s : List Char) : Option Bytes :=
  let s := s ++ List.replicate (padding s.length) '='
  atob (s.map fromUrlChar)

/-! ## Round trip -/

theorem base64Char_spec {n : ℕ} (h : n < 64) :
    base64Value (base64Char n) = some n ∧ isAsciiWhitespace (base64Char n) = false ∧
      base64Char n ≠ '=' ∧ toUrlChar (base64Char n) ≠ '=' ∧
      fromUrlChar (toUrlChar (base64Char n)) = base64Char n := by
  have hall : ∀ n : Fin 64,
      base64Value (base64Char n) = some n.val ∧ isAsciiWhitespace (base64Char n) = false ∧
        base64Char n ≠ '=' ∧ toUrlChar (base64Char n) ≠ '=' ∧
        fromUrlChar (toUrlChar (base64Char n)) = base64Char n := by
    decide
  exact hall ⟨n, h⟩

theorem sextets_lt : ∀ (bytes : Bytes), ∀ n ∈ sextets bytes, n < 64
  | [] => by simp [sextets]
  | [a] => by
      have ha := a.toNat_lt
      simp only [sextets, List.mem_cons, List.not_mem_nil, or_false]
      rintro n (rfl | rfl) <;> omega
  | [a, b] => by
      have ha := a.toNat_lt
      have hb := b.toNat_lt
      simp only [sextets, List.mem_cons, List.not_mem_nil, or_false]
      rintro n (rfl | rfl | rfl) <;> omega
  | a :: b :: c :: rest => by
      have ha := a.toNat_lt
      have hb := b.toNat_lt
      have hc := c.toNat_lt
      simp only [sextets, List.mem_cons]
      rintro n (rfl | rfl | rfl | rfl | hn)
      · omega
      · omega
      · omega
      · omega
      · exact sextets_lt rest n hn

/-- Every byte is put together again. -/
theorem fromSextets_sextets : ∀ bytes : Bytes, fromSextets (sextets bytes) = some bytes
  | [] => rfl
  | [a] => by
      have ha : a.toNat / 4 * 4 + a.toNat % 4 * 16 / 16 = a.toNat := by omega
      simp only [sextets, fromSextets, ha, UInt8.ofNat_toNat]
  | [a, b] => by
      have hb := b.toNat_lt
      have ha : a.toNat / 4 * 4 + (a.toNat % 4 * 16 + b.toNat / 16) / 16 = a.toNat := by omega
      have hb : (a.toNat % 4 * 16 + b.toNat / 16) % 16 * 16 + b.toNat % 16 * 4 / 4 = b.toNat := by
        omega
      simp only [sextets, fromSextets, ha, hb, UInt8.ofNat_toNat]
  | a :: b :: c :: rest => by
      have hb := b.toNat_lt
      have hc := c.toNat_lt
      have ha : a.toNat / 4 * 4 + (a.toNat % 4 * 16 + b.toNat / 16) / 16 = a.toNat := by omega
      have hb : (a.toNat % 4 * 16 + b.toNat / 16) % 16 * 16 +
          (b.toNat % 16 * 4 + c.toNat / 64) / 4 = b.toNat := by omega
      have hc : (b.toNat % 16 * 4 + c.toNat / 64) % 4 * 64 + c.toNat % 64 = c.toNat := by omega
      simp only [sextets, fromSextets, fromSextets_sextets rest, Option.map_some, ha, hb, hc,
        UInt8.ofNat_toNat]

theorem length_sextets : ∀ bytes : Bytes, (sextets bytes).length % 4 ≠ 1
  | [] => by simp [sextets]
  | [a] => by simp [sextets]
  | [a, b] => by simp [sextets]
  | a :: b :: c :: rest => by
      have ih := length_sextets rest
      simp only [sextets, List.length_cons]
      omega

theorem mapM_base64Value : ∀ {l : List ℕ}, (∀ n ∈ l, n < 64) →
    (l.map base64Char).mapM base64Value = some l := by
  intro l
  induction l with
  | nil => exact fun _ => rfl
  | cons n l ih =>
      intro h
      obtain ⟨hn, hl⟩ := List.forall_mem_cons.mp h
      rw [List.map_cons, List.mapM_cons, (base64Char_spec hn).1, ih hl]
      rfl

theorem toBase64url_eq (bytes : Bytes) :
    toBase64url bytes = (sextets bytes).map fun n => toUrlChar (base64Char n) := by
  have hpad : ∀ k, ((List.replicate k '=').map toUrlChar).filter (fun c => c ≠ '=') = [] := by
    intro k
    rw [List.map_replicate]
    exact List.filter_eq_nil_iff.mpr fun c hc => by
      rw [List.eq_of_mem_replicate hc]
      decide
  simp only [toBase64url, btoa, List.map_append, List.filter_append, hpad, List.append_nil,
    List.map_map]
  refine List.filter_eq_self.mpr fun c hc => ?_
  obtain ⟨n, hn, rfl⟩ := List.mem_map.mp hc
  exact decide_eq_true (base64Char_spec (sextets_lt bytes n hn)).2.2.2.1

theorem dropPadding_one {s : List Char} (h : ∀ c ∈ s, c ≠ '=') :
    dropPadding ('=' :: s) = s := by
  cases s with
  | nil => rfl
  | cons c s =>
      have hc : c ≠ '=' := h c List.mem_cons_self
      unfold dropPadding
      split
      next heq =>
        injection heq with _ htail
        injection htail with hhead _
        exact absurd hhead hc
      next heq =>
        injection heq with _ htail
        exact htail.symm
      next hne => exact absurd rfl (hne (c :: s))

theorem dropPadding_none {s : List Char} (h : ∀ c ∈ s, c ≠ '=') : dropPadding s = s := by
  unfold dropPadding
  split
  next => exact absurd rfl (h '=' List.mem_cons_self)
  next => exact absurd rfl (h '=' List.mem_cons_self)
  next => rfl

/-- Taking the padding off again. -/
theorem stripPadding_pad {s : List Char} (hlast : ∀ c ∈ s, c ≠ '=') (hlen : s.length % 4 ≠ 1) :
    stripPadding (s ++ List.replicate (padding s.length) '=') = s := by
  have hreverse : ∀ c ∈ s.reverse, c ≠ '=' := fun c hc => hlast c (List.mem_reverse.mp hc)
  have hfull : (s ++ List.replicate (padding s.length) '=').length % 4 = 0 := by
    rw [List.length_append, List.length_replicate, padding]
    split <;> omega
  have hcases : padding s.length = 0 ∨ padding s.length = 1 ∨ padding s.length = 2 := by
    unfold padding
    split <;> omega
  rw [stripPadding, if_pos hfull, List.reverse_append, List.reverse_replicate]
  rcases hcases with h | h | h <;> rw [h]
  · rw [List.replicate_zero, List.nil_append, dropPadding_none hreverse, List.reverse_reverse]
  · show (dropPadding ('=' :: s.reverse)).reverse = s
    rw [dropPadding_one hreverse, List.reverse_reverse]
  · show s.reverse.reverse = s
    exact List.reverse_reverse s

/-- **Round trip.** -/
theorem fromBase64url_toBase64url (bytes : Bytes) :
    fromBase64url (toBase64url bytes) = some bytes := by
  have hlt := sextets_lt bytes
  have hlength : (toBase64url bytes).length = ((sextets bytes).map base64Char).length := by
    rw [toBase64url_eq, List.length_map, List.length_map]
  have hback : (toBase64url bytes).map fromUrlChar = (sextets bytes).map base64Char := by
    rw [toBase64url_eq, List.map_map]
    exact List.map_congr_left fun n hn => (base64Char_spec (hlt n hn)).2.2.2.2
  have hnone : ∀ c ∈ (sextets bytes).map base64Char, c ≠ '=' := by
    intro c hc
    obtain ⟨n, hn, rfl⟩ := List.mem_map.mp hc
    exact (base64Char_spec (hlt n hn)).2.2.1
  have hspace : ∀ k, ((sextets bytes).map base64Char ++ List.replicate k '=').filter
      (fun c => !isAsciiWhitespace c) = (sextets bytes).map base64Char ++ List.replicate k '=' := by
    intro k
    refine List.filter_eq_self.mpr fun c hc => ?_
    rcases List.mem_append.mp hc with hc | hc
    · obtain ⟨n, hn, rfl⟩ := List.mem_map.mp hc
      rw [(base64Char_spec (hlt n hn)).2.1]
      rfl
    · rw [List.eq_of_mem_replicate hc]
      rfl
  have hmod : ((sextets bytes).map base64Char).length % 4 ≠ 1 := by
    rw [List.length_map]
    exact length_sextets bytes
  have hpadded : (toBase64url bytes ++
        List.replicate (padding (toBase64url bytes).length) '=').map fromUrlChar =
      (sextets bytes).map base64Char ++
        List.replicate (padding ((sextets bytes).map base64Char).length) '=' := by
    rw [List.map_append, List.map_replicate, hback, hlength]
    rfl
  show atob ((toBase64url bytes ++ List.replicate _ '=').map fromUrlChar) = some bytes
  rw [hpadded]
  show ((stripPadding (List.filter _ _)).mapM base64Value).bind fromSextets = some bytes
  rw [hspace, stripPadding_pad hnone hmod, mapM_base64Value hlt]
  exact fromSextets_sextets bytes

end Oxpulse.Identity
