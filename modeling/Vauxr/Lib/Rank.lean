import Mathlib

/-!
What a rank over a run says of its end.
-/

namespace Vauxr.Lib

variable {σ : Type*}

/-- A rank that never grows, and that shrinks again and again until something holds, lets it hold
at last. -/
lemma eventually_of_rank {s : ℕ → σ} (rank : σ → ℕ) (P : σ → Prop) {n₀ : ℕ}
    (hle : ∀ n, n₀ ≤ n → rank (s (n + 1)) ≤ rank (s n))
    (hlt : ∀ n, n₀ ≤ n → ¬ P (s n) → ∃ m, n ≤ m ∧ rank (s (m + 1)) < rank (s m)) :
    ∃ n, n₀ ≤ n ∧ P (s n) := by
  have hmono : ∀ n m, n₀ ≤ n → n ≤ m → rank (s m) ≤ rank (s n) := by
    intro n m hn hnm
    induction hnm with
    | refl => exact le_rfl
    | @step m hnm ih => exact (hle m (hn.trans hnm)).trans ih
  have key : ∀ k n, n₀ ≤ n → rank (s n) ≤ k → ∃ m, n₀ ≤ m ∧ P (s m) := by
    intro k
    induction k with
    | zero =>
      intro n hn hk
      by_contra hnever
      obtain ⟨m, hm, hless⟩ := hlt n hn fun hP => hnever ⟨n, hn, hP⟩
      have h := hmono n m hn hm
      omega
    | succ k ih =>
      intro n hn hk
      by_cases hP : P (s n)
      · exact ⟨n, hn, hP⟩
      · obtain ⟨m, hm, hless⟩ := hlt n hn hP
        have h := hmono n m hn hm
        exact ih (m + 1) (by omega) (by omega)
  exact key _ n₀ le_rfl le_rfl

end Vauxr.Lib
