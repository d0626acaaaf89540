import Mathlib.Data.List.Basic
import Mathlib.Algebra.Ring.Int.Defs
import Mathlib.Algebra.Ring.Nat
import Oxpulse.Foundation.Separator

/-!
# Integers as JavaScript numbers

An integer is a number if it is exact as a double (`JsInteger`). JavaScript writes
the fewest decimal digits that are read back as the same double, fills them up
with zeros, and from 22 places on writes an exponent (`numberToString`). So two
integers are never written alike (`numberToString_injective`).
-/

namespace Oxpulse.JsNumber

/-- The nearest number of 53 significant bits; half way, the even one. -/
def nearest (n : ℕ) : ℕ :=
  let ulp := 2 ^ (Nat.log2 n - 52)
  let q := n / ulp
  if 2 * (n % ulp) < ulp ∨ 2 * (n % ulp) = ulp ∧ q % 2 = 0 then q * ulp else (q + 1) * ulp

/-- An integer that is a double. -/
structure JsInteger : Type where
  val : ℤ
  exact : nearest val.natAbs = val.natAbs
  finite : val.natAbs < 2 ^ 1024

/-- The multiples of `10 ^ m` next to a number, as multiples; the nearer one first. -/
def neighbours (n m : ℕ) : List (ℕ × ℕ) :=
  let q := n / 10 ^ m
  if 2 * (n % 10 ^ m) < 10 ^ m ∨ 2 * (n % 10 ^ m) = 10 ^ m ∧ q % 2 = 0 then [(q, m), (q + 1, m)]
  else [(q + 1, m), (q, m)]

/-- The digits `s` and the zeros `m` behind them: as many zeros as are possible
for `s * 10 ^ m` to be read as this number. -/
def shortest (n : ℕ) : ℕ × ℕ :=
  let zeros := (List.range ((Nat.toDigits 10 n).length + 1)).reverse
  let candidates := zeros.flatMap (neighbours n)
  (candidates.find? fun c => c.1 ≠ 0 ∧ nearest (c.1 * 10 ^ c.2) = n).getD (n, 0)

/-- A point behind the first digit. -/
def withPoint : List Char → List Char
  | d :: d' :: ds => d :: '.' :: d' :: ds
  | ds => ds

def naturalToString (n : ℕ) : List Char :=
  let digits := Nat.toDigits 10 (shortest n).1
  let places := digits.length + (shortest n).2
  if places ≤ 21 then digits ++ List.replicate (shortest n).2 '0'
  else withPoint digits ++ 'e' :: '+' :: Nat.toDigits 10 (places - 1)

/-- `String(n)`. -/
def numberToString (n : JsInteger) : List Char :=
  if n.val < 0 then '-' :: naturalToString n.val.natAbs else naturalToString n.val.natAbs

/-! ## What is written -/

theorem isDigit_of_mem {n : ℕ} {c : Char} (h : c ∈ Nat.toDigits 10 n) : c.isDigit = true :=
  Nat.isDigit_of_mem_toDigits (by decide) (by decide) h

theorem toDigits_inj {m n : ℕ} (h : Nat.toDigits 10 m = Nat.toDigits 10 n) : m = n := by
  rw [← @Nat.ofDigitChars_ten_toDigits m, h, Nat.ofDigitChars_ten_toDigits]

/-- The digits are read back. -/
theorem nearest_shortest {n : ℕ} (h : nearest n = n) :
    nearest ((shortest n).1 * 10 ^ (shortest n).2) = n := by
  unfold shortest
  dsimp only
  cases hfind : ((List.range ((Nat.toDigits 10 n).length + 1)).reverse.flatMap
      (neighbours n)).find? fun c => c.1 ≠ 0 ∧ nearest (c.1 * 10 ^ c.2) = n with
  | none =>
      rw [Option.getD_none, Nat.pow_zero, Nat.mul_one]
      exact h
  | some c =>
      have hc := List.find?_some hfind
      simp only [decide_eq_true_eq] at hc
      exact hc.2

theorem withPoint_inj {ds ds' : List Char} (h : ∀ c ∈ ds, c.isDigit = true)
    (h' : ∀ c ∈ ds', c.isDigit = true) (heq : withPoint ds = withPoint ds') : ds = ds' := by
  have hpoint : ∀ {d : Char} {rest : List Char}, (∀ c ∈ d :: '.' :: rest, c.isDigit = true) →
      False := fun h => absurd (h '.' (by simp)) (by decide)
  match ds, ds', heq with
  | [], [], _ => rfl
  | [], [_], heq => cases heq
  | [], _ :: _ :: _, heq => cases heq
  | [_], [], heq => cases heq
  | _ :: _ :: _, [], heq => cases heq
  | [_], [_], heq => exact heq
  | [_], _ :: _ :: _, heq => cases heq
  | _ :: _ :: _, [_], heq => cases heq
  | _ :: _ :: _, _ :: _ :: _, heq =>
      simp only [withPoint, List.cons.injEq, true_and] at heq
      obtain ⟨rfl, rfl, rfl⟩ := heq
      rfl

theorem mem_withPoint {ds : List Char} {c : Char} (hc : c ∈ withPoint ds) :
    c ∈ ds ∨ c = '.' := by
  match ds, hc with
  | [d], hc => exact Or.inl hc
  | d :: d' :: ds, hc =>
      simp only [withPoint, List.mem_cons] at hc ⊢
      tauto

/-- What stands before an exponent has no exponent. -/
theorem not_mem_withPoint (n : ℕ) : 'e' ∉ withPoint (Nat.toDigits 10 n) := by
  intro he
  rcases mem_withPoint he with hdigit | hpoint
  · exact absurd (isDigit_of_mem hdigit) (by decide)
  · exact absurd hpoint (by decide)

/-- The text of the zeros and digits, and the number they write. -/
theorem natural_cases (n : ℕ) :
    (∃ text, naturalToString n = text ∧ 'e' ∉ text ∧
      Nat.ofDigitChars 10 text 0 = (shortest n).1 * 10 ^ (shortest n).2) ∨
    naturalToString n = withPoint (Nat.toDigits 10 (shortest n).1) ++ 'e' :: '+' ::
      Nat.toDigits 10 ((Nat.toDigits 10 (shortest n).1).length + (shortest n).2 - 1) ∧
      21 < (Nat.toDigits 10 (shortest n).1).length + (shortest n).2 := by
  unfold naturalToString
  dsimp only
  split
  next hplaces =>
    refine Or.inl ⟨_, rfl, fun he => ?_, ?_⟩
    · rcases List.mem_append.mp he with hdigit | hzero
      · exact absurd (isDigit_of_mem hdigit) (by decide)
      · exact absurd (List.eq_of_mem_replicate hzero) (by decide)
    · rw [Nat.ofDigitChars_append, Nat.ofDigitChars_ten_toDigits, Nat.ofDigitChars_replicate_zero,
        Nat.mul_comm]
  next hplaces => exact Or.inr ⟨rfl, Nat.lt_of_not_le hplaces⟩

/-- Naturals that are written alike have the same digits and zeros. -/
theorem value_of_naturalToString {m n : ℕ} (h : naturalToString m = naturalToString n) :
    (shortest m).1 * 10 ^ (shortest m).2 = (shortest n).1 * 10 ^ (shortest n).2 := by
  rcases natural_cases m with ⟨text, hm, he, hvalue⟩ | ⟨hm, hplaces⟩ <;>
    rcases natural_cases n with ⟨text', hn, he', hvalue'⟩ | ⟨hn, hplaces'⟩
  · rw [← hvalue, ← hvalue', ← hm, h, hn]
  · rw [hm, hn] at h
    exact absurd (h ▸ List.mem_append_right _ List.mem_cons_self) he
  · rw [hm, hn] at h
    exact absurd (h ▸ List.mem_append_right _ List.mem_cons_self) he'
  · rw [hm, hn] at h
    obtain ⟨hpoint, hexponent⟩ := Separator.first_inj (not_mem_withPoint _) (not_mem_withPoint _) h
    have hdigits := withPoint_inj (fun _ => isDigit_of_mem) (fun _ => isDigit_of_mem) hpoint
    have hfirst : (shortest m).1 = (shortest n).1 := toDigits_inj hdigits
    have hsecond := toDigits_inj (List.cons.inj hexponent).2
    rw [hfirst] at hsecond hplaces
    have hzeros : (shortest m).2 = (shortest n).2 := by omega
    rw [hfirst, hzeros]

theorem not_mem_naturalToString {c : Char} (n : ℕ) (hdigit : c.isDigit = false)
    (hc : c ≠ '.' ∧ c ≠ 'e' ∧ c ≠ '+') : c ∉ naturalToString n := by
  obtain ⟨hpoint, he, hplus⟩ := hc
  have hdigits : ∀ k, c ∉ Nat.toDigits 10 k := fun k hmem => by
    rw [isDigit_of_mem hmem] at hdigit
    cases hdigit
  unfold naturalToString
  dsimp only
  intro hmem
  split at hmem
  · rcases List.mem_append.mp hmem with hmem | hzero
    · exact hdigits _ hmem
    · rw [List.eq_of_mem_replicate hzero] at hdigit
      cases hdigit
  · rcases List.mem_append.mp hmem with hmem | hmem
    · rcases mem_withPoint hmem with hmem | rfl
      · exact hdigits _ hmem
      · exact hpoint rfl
    · simp only [List.mem_cons] at hmem
      rcases hmem with rfl | rfl | hmem
      · exact he rfl
      · exact hplus rfl
      · exact hdigits _ hmem

/-- An integer is written with digits, a sign, a point and an exponent only. -/
theorem not_mem_numberToString {c : Char} (n : JsInteger) (hdigit : c.isDigit = false)
    (hc : c ≠ '.' ∧ c ≠ 'e' ∧ c ≠ '+' ∧ c ≠ '-') : c ∉ numberToString n := by
  obtain ⟨hpoint, he, hplus, hminus⟩ := hc
  have hnatural := not_mem_naturalToString n.val.natAbs hdigit ⟨hpoint, he, hplus⟩
  unfold numberToString
  split
  · intro hmem
    rcases List.mem_cons.mp hmem with hsign | hmem
    · exact hminus hsign
    · exact hnatural hmem
  · exact hnatural

theorem isAscii_of_isDigit {c : Char} (h : c.isDigit = true) : c.toNat < 128 := by
  simp only [Char.isDigit, Bool.and_eq_true, decide_eq_true_eq] at h
  have hle : c.val.toNat ≤ 57 := UInt32.le_iff_toNat_le.mp h.2
  exact Nat.lt_of_le_of_lt hle (by decide)

theorem isAscii_of_mem {c : Char} (n : JsInteger) (hc : c ∈ numberToString n) : c.toNat < 128 := by
  cases hdigit : c.isDigit with
  | true => exact isAscii_of_isDigit hdigit
  | false =>
      by_contra hlarge
      refine not_mem_numberToString n hdigit ?_ hc
      refine ⟨?_, ?_, ?_, ?_⟩ <;>
        · rintro rfl
          exact hlarge (by decide)

theorem natAbs_inj {m n : JsInteger}
    (h : naturalToString m.val.natAbs = naturalToString n.val.natAbs) :
    m.val.natAbs = n.val.natAbs := by
  rw [← nearest_shortest m.exact, ← nearest_shortest n.exact, value_of_naturalToString h]

/-- **No two integers are written alike.** -/
theorem numberToString_injective : Function.Injective numberToString := by
  have hsign : ∀ n, '-' ∉ naturalToString n := fun n =>
    not_mem_naturalToString n (by decide) (by decide)
  have hval : ∀ {m n : JsInteger}, m.val = n.val → m = n := fun {m n} h => by
    cases m
    cases n
    cases h
    rfl
  intro m n h
  unfold numberToString at h
  split at h <;> split at h
  · exact hval (by have := natAbs_inj (List.cons.inj h).2; omega)
  · exact absurd (h ▸ List.mem_cons_self) (hsign n.val.natAbs)
  · exact absurd (h ▸ List.mem_cons_self) (hsign m.val.natAbs)
  · exact hval (by have := natAbs_inj h; omega)

end Oxpulse.JsNumber
