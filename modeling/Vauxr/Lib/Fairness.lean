import Mathlib.Order.Basic
import Mathlib.Tactic.Common

/-!
Fair runs.

Each time has a rank and a helper. The rank falls, or it stays with the same helper until the
helper acts; where everyone acts again and again, the rank cannot stay for ever.
-/

namespace Vauxr.Lib

variable {τ : Type*} {goal : ℕ → Prop} {rank : ℕ → ℕ} {helper : ℕ → τ} {acts : ℕ → τ → Prop}
  {start : ℕ}

/-- What the next time brings from a time that has not reached the goal. -/
inductive Nears (goal : ℕ → Prop) (rank : ℕ → ℕ) (helper : ℕ → τ) (acts : ℕ → τ → Prop) (n : ℕ) :
    Prop
  | reaches : goal (n + 1) → Nears goal rank helper acts n
  | falls : rank (n + 1) < rank n → Nears goal rank helper acts n
  | waits : rank (n + 1) = rank n → helper (n + 1) = helper n → ¬acts n (helper n) →
      Nears goal rank helper acts n

/-- By the time the helper acts, the goal is reached or the rank has fallen. -/
lemma falls_of_acts (hnear : ∀ n, start ≤ n → ¬goal n → Nears goal rank helper acts n) (k : ℕ) :
    ∀ n, start ≤ n → acts (n + k) (helper n) →
      ∃ m, n ≤ m ∧ (goal m ∨ rank m < rank n) := by
  induction k with
  | zero =>
    intro n hn hact
    by_cases hg : goal n
    · exact ⟨n, Nat.le_refl n, Or.inl hg⟩
    · cases hnear n hn hg with
      | reaches h => exact ⟨n + 1, n.le_succ, Or.inl h⟩
      | falls h => exact ⟨n + 1, n.le_succ, Or.inr h⟩
      | waits _ _ hnot => exact absurd hact hnot
  | succ k ih =>
    intro n hn hact
    by_cases hg : goal n
    · exact ⟨n, Nat.le_refl n, Or.inl hg⟩
    · cases hnear n hn hg with
      | reaches h => exact ⟨n + 1, n.le_succ, Or.inl h⟩
      | falls h => exact ⟨n + 1, n.le_succ, Or.inr h⟩
      | waits hrank hhelper _ =>
        have hact' : acts (n + 1 + k) (helper (n + 1)) := by
          rw [hhelper, Nat.add_right_comm]
          exact hact
        obtain ⟨m, hm, h⟩ := ih (n + 1) (Nat.le_succ_of_le hn) hact'
        exact ⟨m, Nat.le_trans n.le_succ hm, hrank ▸ h⟩

/-- **The goal is reached** where every task acts again and again. -/
lemma eventually_of_helper (hfair : ∀ t n, ∃ m, n ≤ m ∧ acts m t)
    (hnear : ∀ n, start ≤ n → ¬goal n → Nears goal rank helper acts n) :
    ∃ m, start ≤ m ∧ goal m := by
  suffices h : ∀ r n, start ≤ n → rank n = r → ∃ m, start ≤ m ∧ goal m from
    h _ start (Nat.le_refl start) rfl
  intro r
  induction r using Nat.strongRecOn with
  | ind r ih =>
    rintro n hn rfl
    obtain ⟨m, hm, hact⟩ := hfair (helper n) n
    obtain ⟨k, rfl⟩ := Nat.exists_eq_add_of_le hm
    obtain ⟨m', hm', hg | hlt⟩ := falls_of_acts hnear k n hn hact
    · exact ⟨m', Nat.le_trans hn hm', hg⟩
    · exact ih _ hlt m' (Nat.le_trans hn hm') rfl

end Vauxr.Lib
