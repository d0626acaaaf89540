import Mathlib.Data.List.Basic
import Mathlib.Data.Set.Function

/-!
# Running hashes

A running hash absorbs parts one after the other: the state after a part is
the hash of the previous state followed by the part. A log lists the absorbed
parts, latest first; the chain starts from the hash of an initial string.

When the hash is injective on the inputs of two chains and its values have one
length, equal final states come from equal logs — or one log continues the
other, and then the part that follows the shorter one completes the initial
string (`digest_inj`). Framing the parts is the business of `split_unique`:
the last part that satisfies a test splits a log in one way only.
-/

namespace Oxpulse

universe u

variable {α : Type u}

/-- The state after the parts of the log, from the initial string. -/
def digest (H : List α → List α) (name : List α) : List (List α) → List α
  | [] => H name
  | part :: log => H (digest H name log ++ part)

/-- What the hash was applied to on the way. -/
def hashed (H : List α → List α) (name : List α) : List (List α) → List (List α)
  | [] => [name]
  | part :: log => (digest H name log ++ part) :: hashed H name log

theorem hashed_subset_cons {H : List α → List α} {name part : List α} {log : List (List α)} :
    ∀ x ∈ hashed H name log, x ∈ hashed H name (part :: log) :=
  fun _ hx => List.mem_cons_of_mem _ hx

variable {H : List α → List α} {name : List α} {n : ℕ}

theorem digest_length (hlen : ∀ x, (H x).length = n) (log : List (List α)) :
    (digest H name log).length = n := by
  cases log with
  | nil => exact hlen _
  | cons part log => exact hlen _

/-- **A running hash binds its log**, up to a part that completes the initial
string. -/
theorem digest_inj (hlen : ∀ x, (H x).length = n) :
    ∀ {log log' : List (List α)},
      Set.InjOn H {x | x ∈ hashed H name log ∨ x ∈ hashed H name log'} →
      digest H name log = digest H name log' →
      log = log' ∨
      (∃ x rest, log = log' ++ x :: rest ∧ n + x.length = name.length) ∨
      (∃ x rest, log' = log ++ x :: rest ∧ n + x.length = name.length)
  | [], [], _, _ => Or.inl rfl
  | part :: log, [], hinj, heq => by
      have hin := hinj (Or.inl List.mem_cons_self) (Or.inr (List.mem_singleton_self _)) heq
      refine Or.inr (Or.inl ⟨part, log, rfl, ?_⟩)
      rw [← hin, List.length_append, digest_length hlen]
  | [], part :: log, hinj, heq => by
      have hin := hinj (Or.inl (List.mem_singleton_self _)) (Or.inr List.mem_cons_self) heq
      refine Or.inr (Or.inr ⟨part, log, rfl, ?_⟩)
      rw [hin, List.length_append, digest_length hlen]
  | part :: log, part' :: log', hinj, heq => by
      have hin := hinj (Or.inl List.mem_cons_self) (Or.inr List.mem_cons_self) heq
      obtain ⟨hdigest, rfl⟩ := List.append_inj hin (by rw [digest_length hlen, digest_length hlen])
      have hsub : Set.InjOn H {x | x ∈ hashed H name log ∨ x ∈ hashed H name log'} := by
        refine hinj.mono fun x hx => ?_
        exact hx.imp (hashed_subset_cons x) (hashed_subset_cons x)
      rcases digest_inj hlen hsub hdigest with rfl | ⟨x, rest, rfl, hx⟩ | ⟨x, rest, rfl, hx⟩
      · exact Or.inl rfl
      · exact Or.inr (Or.inl ⟨x, rest, rfl, hx⟩)
      · exact Or.inr (Or.inr ⟨x, rest, rfl, hx⟩)

/-- The first element that satisfies `p` splits a list in one way. -/
theorem split_unique {β : Type u} {p : β → Prop} :
    ∀ {l l' : List β} {a a' : β} {r r' : List β},
      (∀ x ∈ l, ¬ p x) → p a → (∀ x ∈ l', ¬ p x) → p a' →
      l ++ a :: r = l' ++ a' :: r' → l = l' ∧ a = a' ∧ r = r'
  | [], [], _, _, _, _, _, _, _, _, h => by
      obtain ⟨ha, hr⟩ := List.cons.inj h
      exact ⟨rfl, ha, hr⟩
  | [], b :: l', a, _, _, _, _, ha, hl', _, h => by
      obtain ⟨hab, -⟩ := List.cons.inj h
      exact absurd (hab ▸ ha) (hl' b List.mem_cons_self)
  | b :: l, [], _, a', _, _, hl, _, _, ha', h => by
      obtain ⟨hab, -⟩ := List.cons.inj h
      exact absurd (hab ▸ ha') (hl b List.mem_cons_self)
  | b :: l, b' :: l', _, _, _, _, hl, ha, hl', ha', h => by
      obtain ⟨rfl, htail⟩ := List.cons.inj h
      obtain ⟨hl₁, ha₁, hr₁⟩ := split_unique
        (fun x hx => hl x (List.mem_cons_of_mem _ hx)) ha
        (fun x hx => hl' x (List.mem_cons_of_mem _ hx)) ha' htail
      exact ⟨by rw [hl₁], ha₁, hr₁⟩

end Oxpulse
