import Mathlib

/-!
Queues whose last element may be replaced by the next one.
-/

namespace Vauxr.Lib

variable {α : Type*}

/-- What is kept of a sequence in which an element may be replaced by the one that comes right
behind it, if `R` lets it. -/
inductive Coalesced (R : α → α → Prop) : List α → List α → Prop
  | nil : Coalesced R [] []
  | append {l k : List α} (h : Coalesced R l k) (a : α) : Coalesced R (l ++ [a]) (k ++ [a])
  | replace {l k : List α} {a b : α} (h : Coalesced R l (k ++ [a])) (hR : R a b) :
      Coalesced R (l ++ [b]) (k ++ [b])

namespace Coalesced

variable {R : α → α → Prop} {l k : List α}

/-- What is kept is kept in order. -/
lemma sublist (h : Coalesced R l k) : k.Sublist l := by
  induction h with
  | nil => exact .refl _
  | append _ a ih => exact ih.append (.refl _)
  | replace _ _ ih => exact ((List.sublist_append_left _ _).trans ih).append (.refl _)

/-- What is never replaced is all kept. -/
lemma filter_eq {p : α → Bool} (hp : ∀ a b, R a b → p a = false) (h : Coalesced R l k) :
    k.filter p = l.filter p := by
  induction h with
  | nil => rfl
  | append _ a ih => rw [List.filter_append, List.filter_append, ih]
  | @replace l k a b _ hR ih =>
    rw [List.filter_append, List.filter_cons_of_neg (by simp [hp a b hR]), List.filter_nil,
      List.append_nil] at ih
    rw [List.filter_append, List.filter_append, ih]

end Coalesced

end Vauxr.Lib
