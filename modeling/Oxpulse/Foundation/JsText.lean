import Mathlib.Data.List.Basic

/-!
# JavaScript strings

A string is a list of UTF-16 code units and may hold surrogates without a partner.
`TextEncoder` puts U+FFFD in their place before it writes UTF-8, so it keeps apart
exactly what differs as a list of characters (`encode_eq_iff`). A unit that is no
surrogate cuts a string into parts that are read apart (`scalars_append_cons`).
-/

namespace Oxpulse.JsText

abbrev CodeUnits : Type := List UInt16

def isHighSurrogate (u : UInt16) : Bool := 0xD800 ≤ u && u < 0xDC00
def isLowSurrogate (u : UInt16) : Bool := 0xDC00 ≤ u && u < 0xE000

def replacement : Char := Char.ofNat 0xFFFD

/-- The character of a unit that has no partner. -/
def unitChar (u : UInt16) : Char :=
  if isHighSurrogate u || isLowSurrogate u then replacement else Char.ofNat u.toNat

/-- The characters, with U+FFFD for a surrogate without a partner. -/
def scalars : CodeUnits → List Char
  | [] => []
  | [u] => [unitChar u]
  | u :: v :: rest =>
      if isHighSurrogate u && isLowSurrogate v then
        Char.ofNat (0x10000 + (u.toNat - 0xD800) * 0x400 + (v.toNat - 0xDC00)) :: scalars rest
      else unitChar u :: scalars (v :: rest)

/-- `new TextEncoder().encode(s)`. -/
def encode (s : CodeUnits) : List UInt8 := (scalars s).flatMap String.utf8EncodeChar

/-- The units of a text of ASCII characters. -/
def ascii (s : List Char) : CodeUnits := s.map fun c => UInt16.ofNat c.toNat

/-- What is encoded alike is the same text. -/
theorem encode_eq_iff (s t : CodeUnits) : encode s = encode t ↔ scalars s = scalars t := by
  constructor
  · intro h
    have hbytes : (String.ofList (scalars s)).toByteArray =
        (String.ofList (scalars t)).toByteArray := by
      rw [String.toByteArray_ofList, String.toByteArray_ofList]
      exact congrArg List.toByteArray h
    exact String.ofList_injective (String.toByteArray_inj.mp hbytes)
  · intro h
    unfold encode
    rw [h]

def IsPlain (u : UInt16) : Prop := isHighSurrogate u = false ∧ isLowSurrogate u = false

/-- A unit that is no surrogate has no partner on either side. -/
theorem scalars_append_cons {u : UInt16} (hu : IsPlain u) (s t : CodeUnits) :
    scalars (s ++ u :: t) = scalars s ++ Char.ofNat u.toNat :: scalars t := by
  have hchar : unitChar u = Char.ofNat u.toNat := by
    unfold unitChar
    rw [hu.1, hu.2]
    rfl
  have hfirst : scalars (u :: t) = Char.ofNat u.toNat :: scalars t := by
    cases t with
    | nil => exact congrArg (fun c => [c]) hchar
    | cons v t => rw [scalars, hu.1, Bool.false_and, if_neg Bool.false_ne_true, hchar]
  fun_induction scalars s with
  | case1 => exact hfirst
  | case2 v =>
      show scalars (v :: u :: t) = _
      rw [scalars, hu.2, Bool.and_false, if_neg Bool.false_ne_true, hfirst]
      rfl
  | case3 v w rest hpair ih =>
      show scalars (v :: w :: (rest ++ u :: t)) = _
      rw [scalars, if_pos hpair, ih]
      rfl
  | case4 v w rest hpair ih =>
      show scalars (v :: w :: (rest ++ u :: t)) = _
      rw [scalars, if_neg hpair]
      exact congrArg _ ih

theorem isPlain_ascii {c : Char} (hc : c.toNat < 128) : IsPlain (UInt16.ofNat c.toNat) := by
  have hlt : (UInt16.ofNat c.toNat).toNat < 0xD800 := by
    rw [UInt16.toNat_ofNat']
    omega
  constructor
  · unfold isHighSurrogate
    have : ¬ (0xD800 ≤ UInt16.ofNat c.toNat) := by
      rw [UInt16.le_iff_toNat_le]
      exact Nat.not_le.mpr hlt
    simp [this]
  · unfold isLowSurrogate
    have : ¬ (0xDC00 ≤ UInt16.ofNat c.toNat) := by
      rw [UInt16.le_iff_toNat_le]
      exact Nat.not_le.mpr (Nat.lt_trans hlt (by decide))
    simp [this]

/-- ASCII is read as it is. -/
theorem scalars_ascii_append {s : List Char} (hs : ∀ c ∈ s, c.toNat < 128) (t : CodeUnits) :
    scalars (ascii s ++ t) = s ++ scalars t := by
  induction s with
  | nil => rfl
  | cons c s ih =>
      have hc : c.toNat < 128 := hs c List.mem_cons_self
      have hread : Char.ofNat (UInt16.ofNat c.toNat).toNat = c := by
        rw [UInt16.toNat_ofNat', Nat.mod_eq_of_lt (by omega), Char.ofNat_toNat]
      have hcut := scalars_append_cons (isPlain_ascii hc) [] (ascii s ++ t)
      rw [hread, ih fun c hc => hs c (List.mem_cons_of_mem _ hc)] at hcut
      exact hcut

end Oxpulse.JsText
