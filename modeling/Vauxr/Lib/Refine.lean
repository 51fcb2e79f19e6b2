import Mathlib.Logic.Basic

/-!
Programs with state and exceptions, read through an abstract state.

A program is in `EStateM`: it changes a concrete state and returns or raises, and what it
wrote before raising stays. `Runs abs x t P` says what the program does to the state it
represents: from every concrete state that represents `t` it ends in one that represents a
state `t'`, with its result and `t'` related by `P`. A postcondition that allows several
outcomes leaves open which of them the concrete state chooses.
-/

namespace Vauxr.Lib

variable {ε σ τ α β : Type}

/-! ### Results -/

/-- Raise `e` under a condition. -/
def refuse (p : Bool) (e : ε) : Except ε Unit := if p then .error e else .ok ()

/-- Take a value that is there, or raise `e`. -/
def demand (o : Option α) (e : ε) : Except ε α := o.elim (.error e) .ok

lemma bind_eq_ok {x : Except ε α} {f : α → Except ε β} {b : β} :
    x >>= f = .ok b ↔ ∃ a, x = .ok a ∧ f a = .ok b := by
  cases x with
  | error e => exact ⟨fun h => (nomatch h), fun ⟨_, h, _⟩ => (nomatch h)⟩
  | ok a =>
    refine ⟨fun h => ⟨a, rfl, h⟩, ?_⟩
    rintro ⟨_, h, hf⟩
    cases h
    exact hf

lemma bind_eq_error {x : Except ε α} {f : α → Except ε β} {e : ε} :
    x >>= f = .error e ↔ x = .error e ∨ ∃ a, x = .ok a ∧ f a = .error e := by
  cases x with
  | error e' =>
    refine ⟨fun h => Or.inl (by cases h; rfl), ?_⟩
    rintro (h | ⟨_, h, _⟩)
    · cases h; rfl
    · exact nomatch h
  | ok a =>
    refine ⟨fun h => Or.inr ⟨a, rfl, h⟩, ?_⟩
    rintro (h | ⟨_, h, hf⟩)
    · exact nomatch h
    · cases h
      exact hf

lemma map_eq_ok {x : Except ε α} {f : α → β} {b : β} :
    x.map f = .ok b ↔ ∃ a, x = .ok a ∧ f a = b := by
  cases x <;> simp [Except.map]

@[simp] lemma refuse_eq_ok {p : Bool} {e : ε} {u : Unit} : refuse p e = .ok u ↔ p = false := by
  cases p <;> simp [refuse]

@[simp] lemma refuse_eq_error {p : Bool} {e e' : ε} :
    refuse p e = .error e' ↔ p = true ∧ e = e' := by
  cases p <;> simp [refuse]

@[simp] lemma demand_eq_ok {o : Option α} {e : ε} {a : α} :
    demand o e = .ok a ↔ o = some a := by
  cases o <;> simp [demand]

@[simp] lemma demand_eq_error {o : Option α} {e e' : ε} :
    demand o e = .error e' ↔ o = none ∧ e = e' := by
  cases o <;> simp [demand]

/-! ### Programs -/

/-- The outcome of a program, as its result and the state it leaves. -/
def outcome (x : EStateM ε σ α) (s : σ) : Except ε α × σ :=
  match x s with
  | .ok a s' => (.ok a, s')
  | .error e s' => (.error e, s')

lemma outcome_bind (x : EStateM ε σ α) (f : α → EStateM ε σ β) (s : σ) :
    outcome (x >>= f) s =
      match outcome x s with
      | (.ok a, s') => outcome (f a) s'
      | (.error e, s') => (.error e, s') := by
  have h : (x >>= f) s = EStateM.bind x f s := rfl
  unfold outcome
  rw [h, EStateM.bind]
  cases x s <;> rfl

lemma outcome_tryCatch (x : EStateM ε σ α) (handle : ε → EStateM ε σ α) (s : σ) :
    outcome (tryCatch x handle) s =
      match outcome x s with
      | (.ok a, s') => (.ok a, s')
      | (.error e, s') => outcome (handle e) s' := by
  have h : (tryCatch x handle : EStateM ε σ α) s = EStateM.tryCatch x handle s := rfl
  unfold outcome
  rw [h]
  delta EStateM.tryCatch
  dsimp only
  cases x s <;> rfl

@[simp] lemma outcome_pure (a : α) (s : σ) :
    outcome (pure a : EStateM ε σ α) s = (.ok a, s) := rfl

@[simp] lemma outcome_throw (e : ε) (s : σ) :
    outcome (throw e : EStateM ε σ α) s = (.error e, s) := rfl

@[simp] lemma outcome_get (s : σ) : outcome (get : EStateM ε σ σ) s = (.ok s, s) := rfl

@[simp] lemma outcome_modify (f : σ → σ) (s : σ) :
    outcome (modify f : EStateM ε σ PUnit) s = (.ok ⟨⟩, f s) := rfl

def Runs (abs : σ → τ → Prop) (x : EStateM ε σ α) (t : τ) (P : Except ε α → τ → Prop) : Prop :=
  ∀ s, abs s t → ∃ t', abs (outcome x s).2 t' ∧ P (outcome x s).1 t'

namespace Runs

variable {abs : σ → τ → Prop} {t : τ}

lemma conseq {x : EStateM ε σ α} {P Q : Except ε α → τ → Prop} (h : Runs abs x t P)
    (hPQ : ∀ r t', P r t' → Q r t') : Runs abs x t Q := by
  intro s hs
  obtain ⟨t', ht', hP⟩ := h s hs
  exact ⟨t', ht', hPQ _ _ hP⟩

/-- Sequencing: what follows starts from every state the first program can leave. -/
lemma bind {x : EStateM ε σ α} {f : α → EStateM ε σ β} {P : Except ε β → τ → Prop}
    {Q : Except ε α → τ → Prop} (hx : Runs abs x t Q)
    (hf : ∀ a t', Q (.ok a) t' → Runs abs (f a) t' P)
    (he : ∀ e t', Q (.error e) t' → P (.error e) t') : Runs abs (x >>= f) t P := by
  intro s hs
  obtain ⟨t', ht', hQ⟩ := hx s hs
  rw [outcome_bind]
  rcases h : outcome x s with ⟨r, s'⟩
  rw [h] at ht' hQ
  cases r with
  | ok a => exact hf a t' hQ s' ht'
  | error e => exact ⟨t', ht', he e t' hQ⟩

end Runs

end Vauxr.Lib
