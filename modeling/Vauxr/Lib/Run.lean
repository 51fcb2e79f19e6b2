import Mathlib.Order.Basic
import Mathlib.Logic.Relation

/-!
Runs of a system, and histories of committed states.

A run applies one action after the other. A history lists states, the latest first; it is
chained when each state follows from the one before it.
-/

namespace Vauxr.Lib

variable {σ α : Type*}

/-- The state after the first `n` actions. -/
def run (step : σ → α → σ) (s : σ) (acts : ℕ → α) : ℕ → σ
  | 0 => s
  | n + 1 => step (run step s acts n) (acts n)

/-- What holds at first and is preserved by every action holds throughout a run. -/
lemma run_invariant {step : σ → α → σ} {s : σ} {acts : ℕ → α} {I : ℕ → σ → Prop} (h0 : I 0 s)
    (hstep : ∀ n s, I n s → I (n + 1) (step s (acts n))) (n : ℕ) : I n (run step s acts n) := by
  induction n with
  | zero => exact h0
  | succ n ih => exact hstep n _ ih

/-- The same from some point of the run on. -/
lemma run_invariant_from {step : σ → α → σ} {s : σ} {acts : ℕ → α} {I : ℕ → σ → Prop} {n₀ : ℕ}
    (h0 : I n₀ (run step s acts n₀))
    (hstep : ∀ n, n₀ ≤ n → ∀ s, I n s → I (n + 1) (step s (acts n))) {n : ℕ} (hn : n₀ ≤ n) :
    I n (run step s acts n) := by
  induction hn with
  | refl => exact h0
  | step hn ih => exact hstep _ hn _ ih

/-- `h'` extends the history `h` by states that follow one from the other, the first of them
from the latest of `h`; `s₀` stands before the first state of all. -/
inductive Chained (s₀ : σ) (R : σ → σ → Prop) (h : List σ) : List σ → Prop
  | refl : Chained s₀ R h h
  | step {h' : List σ} {s : σ} : Chained s₀ R h h' → R (h'.headD s₀) s → Chained s₀ R h (s :: h')

namespace Chained

variable {s₀ : σ} {R R' : σ → σ → Prop} {h h' h'' : List σ}

lemma single {s : σ} (hs : R (h.headD s₀) s) : Chained s₀ R h (s :: h) := .step .refl hs

lemma trans (h₁ : Chained s₀ R h h') (h₂ : Chained s₀ R h' h'') : Chained s₀ R h h'' := by
  induction h₂ with
  | refl => exact h₁
  | step _ hs ih => exact .step ih hs

lemma mono (hR : ∀ s s', R s s' → R' s s') (hc : Chained s₀ R h h') : Chained s₀ R' h h' := by
  induction hc with
  | refl => exact .refl
  | step _ hs ih => exact .step ih (hR _ _ hs)

/-- A property of the latest state that every step preserves. -/
lemma invariant {I : σ → Prop} (hR : ∀ s s', I s → R s s' → I s') (hc : Chained s₀ R h h')
    (h0 : I (h.headD s₀)) : I (h'.headD s₀) := by
  induction hc with
  | refl => exact h0
  | step _ hs ih => exact hR _ _ ih hs

/-- A reflexive and transitive relation that contains the steps relates the latest states. -/
lemma rel {Q : σ → σ → Prop} (hrefl : ∀ s, Q s s) (htrans : ∀ a b c, Q a b → Q b c → Q a c)
    (hR : ∀ s s', R s s' → Q s s') (hc : Chained s₀ R h h') : Q (h.headD s₀) (h'.headD s₀) := by
  induction hc with
  | refl => exact hrefl _
  | step _ hs ih => exact htrans _ _ _ ih (hR _ _ hs)

/-- What holds of the latest state and of some states, and is preserved by steps, holds of all
later ones. -/
lemma forall_mem {I : σ → Prop} (hR : ∀ s s', I s → R s s' → I s') (hc : Chained s₀ R h h')
    (h0 : I (h.headD s₀)) (hh : ∀ s ∈ h, I s) : ∀ s ∈ h', I s := by
  induction hc with
  | refl => exact hh
  | step hc hs ih => exact List.forall_mem_cons.mpr ⟨hR _ _ (hc.invariant hR h0) hs, ih⟩

/-- In a history of steps up a transitive relation every state is above all before it. -/
lemma pairwise {Q : σ → σ → Prop} (htrans : ∀ a b c, Q a b → Q b c → Q a c)
    (hc : Chained s₀ Q h h') (hp : h.Pairwise fun s' s => Q s s') :
    h'.Pairwise fun s' s => Q s s' := by
  induction hc with
  | refl => exact hp
  | @step h' s hc hs ih =>
    refine List.pairwise_cons.mpr ⟨fun s' hs' => ?_, ih⟩
    cases h' with
    | nil => cases hs'
    | cons s₁ h' =>
      rcases List.mem_cons.mp hs' with rfl | hs'
      · exact hs
      · exact htrans _ _ _ ((List.pairwise_cons.mp ih).1 s' hs') hs

lemma suffix (hc : Chained s₀ R h h') : ∃ l, h' = l ++ h := by
  induction hc with
  | refl => exact ⟨[], rfl⟩
  | step _ _ ih =>
    obtain ⟨l, rfl⟩ := ih
    exact ⟨_ :: l, rfl⟩

/-- A history of steps of two kinds is one of steps that are of both. -/
lemma and (hc : Chained s₀ R h h') (hc' : Chained s₀ R' h h') :
    Chained s₀ (fun s s' => R s s' ∧ R' s s') h h' := by
  induction hc with
  | refl => exact .refl
  | @step h' s hc hs ih =>
    generalize he : s :: h' = h'' at hc'
    cases hc' with
    | refl =>
      -- a history does not extend itself
      obtain ⟨l, rfl⟩ := hc.suffix
      have hlen := congrArg List.length he
      simp only [List.length_cons, List.length_append] at hlen
      omega
    | step hc' hs' =>
      cases he
      exact .step (ih hc') ⟨hs, hs'⟩

end Chained

/-! ### Finite runs under a condition -/

/-- The state after a list of actions. -/
def after (step : σ → α → σ) (s : σ) (acts : List α) : σ := acts.foldl step s

@[simp] lemma after_nil (step : σ → α → σ) (s : σ) : after step s [] = s := rfl

@[simp] lemma after_cons (step : σ → α → σ) (s : σ) (a : α) (acts : List α) :
    after step s (a :: acts) = after step (step s a) acts := rfl

/-- Every action meets the condition in the state in which it is taken. -/
def Throughout (step : σ → α → σ) (P : σ → α → Prop) : σ → List α → Prop
  | _, [] => True
  | s, a :: acts => P s a ∧ Throughout step P (step s a) acts

instance Throughout.decidable (step : σ → α → σ) (P : σ → α → Prop)
    [∀ s a, Decidable (P s a)] : ∀ s acts, Decidable (Throughout step P s acts)
  | _, [] => isTrue trivial
  | s, a :: acts =>
    @instDecidableAnd _ _ _ (Throughout.decidable step P (step s a) acts)

/-- What the actions of a condition preserve holds after a run of them. -/
lemma Throughout.invariant {step : σ → α → σ} {P : σ → α → Prop} {I : σ → Prop}
    (hstep : ∀ s a, I s → P s a → I (step s a)) {s : σ} {acts : List α} (h0 : I s)
    (h : Throughout step P s acts) : I (after step s acts) := by
  induction acts generalizing s with
  | nil => exact h0
  | cons a acts ih => exact ih (hstep s a h0 h.1) h.2

/-- A condition that always holds. -/
lemma Throughout.of_forall {step : σ → α → σ} {P : σ → α → Prop} (h : ∀ s a, P s a) (s : σ)
    (acts : List α) : Throughout step P s acts := by
  induction acts generalizing s with
  | nil => exact trivial
  | cons a acts ih => exact ⟨h s a, ih _⟩

end Vauxr.Lib
