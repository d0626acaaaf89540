import Mathlib.Data.Nat.Basic
import Mathlib.Tactic.Ring

/-!
# Bit strings

A number of `w` bits as the list of its bits, the highest first, and back.
Lists of bits can be cut anywhere: a number's bits are the bits of its high part
followed by those of its low part (`bits_add`), and the value of two lists in a
row is put together from theirs (`ofBits_append`).
-/

namespace Oxpulse.BitString

/-- The `w` low bits of a number, the highest first. -/
def bits : ℕ → ℕ → List Bool
  | 0, _ => []
  | w + 1, n => decide (n / 2 ^ w % 2 = 1) :: bits w n

/-- The number these bits write. -/
def ofBits (l : List Bool) : ℕ := l.foldl (fun n b => 2 * n + b.toNat) 0

@[simp]
theorem length_bits (w n : ℕ) : (bits w n).length = w := by
  induction w with
  | zero => rfl
  | succ w ih => rw [bits, List.length_cons, ih]

theorem foldl_ofBits (l : List Bool) : ∀ n : ℕ,
    l.foldl (fun n b => 2 * n + b.toNat) n = n * 2 ^ l.length + ofBits l := by
  unfold ofBits
  induction l with
  | nil => intro n; simp
  | cons b l ih =>
      intro n
      rw [List.foldl_cons, List.foldl_cons, ih (2 * n + b.toNat), ih (2 * 0 + b.toNat),
        List.length_cons, pow_succ]
      ring

theorem ofBits_append (l l' : List Bool) :
    ofBits (l ++ l') = ofBits l * 2 ^ l'.length + ofBits l' := by
  show (l ++ l').foldl _ 0 = _
  rw [List.foldl_append, foldl_ofBits]
  rfl

theorem ofBits_cons (b : Bool) (l : List Bool) :
    ofBits (b :: l) = b.toNat * 2 ^ l.length + ofBits l := by
  have h := ofBits_append [b] l
  rwa [List.singleton_append, show ofBits [b] = b.toNat by simp [ofBits]] at h

/-- The bits of a number write what is left of it. -/
theorem ofBits_bits (w n : ℕ) : ofBits (bits w n) = n % 2 ^ w := by
  induction w with
  | zero => simp [bits, ofBits, Nat.mod_one]
  | succ w ih =>
      have hbit : (decide (n / 2 ^ w % 2 = 1)).toNat = n / 2 ^ w % 2 := by
        rcases Nat.mod_two_eq_zero_or_one (n / 2 ^ w) with h | h <;> simp [h]
      rw [bits, ofBits_cons, ih, length_bits, hbit, Nat.pow_succ, Nat.mod_mul, Nat.add_comm,
        Nat.mul_comm (2 ^ w)]

/-- The high part, then the low part. -/
theorem bits_add (v w n : ℕ) : bits (v + w) n = bits v (n / 2 ^ w) ++ bits w n := by
  induction v with
  | zero => rw [Nat.zero_add]; rfl
  | succ v ih =>
      have hbit : n / 2 ^ (v + w) = n / 2 ^ w / 2 ^ v := by
        rw [Nat.div_div_eq_div_mul, ← Nat.pow_add, Nat.add_comm]
      rw [Nat.succ_add, bits, bits, ih, hbit, List.cons_append]

theorem ofBits_replicate_false (k : ℕ) : ofBits (List.replicate k false) = 0 := by
  induction k with
  | zero => rfl
  | succ k ih => rw [List.replicate_succ, ofBits_cons, ih, Bool.toNat_false, Nat.zero_mul]

end Oxpulse.BitString
