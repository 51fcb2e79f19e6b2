import Mathlib.Order.Basic
import Mathlib.Logic.Relation
import Vauxr.Lib.Run

/-!
What has held since something happened.

Time is counted in steps: `e n` is about what happens in step `n`, and `p n` about the state before
it. A history that extends another passes from one state to the next in between.
-/

namespace Vauxr.Lib

/-- `e` happened in some step before `n`, and `p` has held in every state after it, up to `n`. -/
def Since (e p : ℕ → Prop) (n : ℕ) : Prop := ∃ i < n, e i ∧ ∀ j, i < j → j ≤ n → p j

namespace Since

variable {e e' p p' : ℕ → Prop} {n : ℕ}

lemma mono (he : ∀ i, e i → e' i) (hp : ∀ j, p j → p' j) (h : Since e p n) : Since e' p' n := by
  obtain ⟨i, hi, hei, hpi⟩ := h
  exact ⟨i, hi, he i hei, fun j hj hjn => hp j (hpi j hj hjn)⟩

/-- One state more. -/
lemma succ (h : Since e p n) (hn : p (n + 1)) : Since e p (n + 1) := by
  obtain ⟨i, hi, hei, hpi⟩ := h
  refine ⟨i, by omega, hei, fun j hj hjn => ?_⟩
  rcases Nat.lt_or_ge n j with hlt | hge
  · obtain rfl : j = n + 1 := by omega
    exact hn
  · exact hpi j hj hge

/-- **The rule of provenance**: what does not hold at first, and comes to hold only where `e`
happens, has held since `e`. -/
lemma of_step (h0 : ¬p 0) (hstep : ∀ n, p (n + 1) → p n ∨ e n) (hn : p n) : Since e p n := by
  induction n with
  | zero => exact absurd hn h0
  | succ n ih =>
    rcases hstep n hn with hp | he
    · exact (ih hp).succ hn
    · refine ⟨n, n.lt_succ_self, he, fun j hj hjn => ?_⟩
      obtain rfl : j = n + 1 := by omega
      exact hn

end Since

namespace Chained

variable {σ : Type*} {s₀ : σ} {R : σ → σ → Prop} {P : σ → Prop} {h h' : List σ}

lemma path (hc : Chained s₀ R h h') : Relation.ReflTransGen R (h.headD s₀) (h'.headD s₀) := by
  induction hc with
  | refl => exact .refl
  | step _ hs ih => exact ih.tail hs

/-- What holds of the latest state and not of the first came to hold in one of the steps. -/
lemma rises (hc : Chained s₀ R h h') (hP : P (h'.headD s₀)) : P (h.headD s₀) ∨
    ∃ s s', Relation.ReflTransGen R (h.headD s₀) s ∧ R s s' ∧ ¬P s ∧ P s' := by
  induction hc with
  | refl => exact Or.inl hP
  | @step h' s' hc hs ih =>
    by_cases hp : P (h'.headD s₀)
    · exact ih hp
    · exact Or.inr ⟨_, s', hc.path, hs, hp, hP⟩

end Chained

end Vauxr.Lib
