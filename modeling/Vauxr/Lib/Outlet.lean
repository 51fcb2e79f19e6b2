import Mathlib

/-!
Items that leave in the order of their arrival.

Every item bears the time of its arrival as a stamp. The chain holds the stamps of what is still to
leave in order, the first one first; what is not `kept` in order may leave at any time, as long as
that is before the items that arrived after it.
-/

namespace Vauxr.Lib

variable {α : Type*} {stamp : α → ℕ} {kept : α → Bool} {arrived chain chain' : List ℕ}
  {out : List α} {clock : ℕ} {o : α}

structure Outlet (stamp : α → ℕ) (kept : α → Bool) (arrived chain : List ℕ) (out : List α)
    (clock : ℕ) : Prop where
  sorted : arrived.Pairwise (· < ·)
  arrived_lt : ∀ n ∈ arrived, n < clock
  whole : ((out.filter kept).map stamp ++ chain).Sublist arrived
  below : ∀ o ∈ out, ∀ n ∈ chain, stamp o < n
  emitted : out.Pairwise fun o o' => kept o' → stamp o < stamp o'
  out_lt : ∀ o ∈ out, stamp o < clock

namespace Outlet

lemma empty : Outlet stamp kept [] [] [] clock := by
  constructor <;> simp

lemma chain_sublist (h : Outlet stamp kept arrived chain out clock) : chain.Sublist arrived :=
  (List.sublist_append_right _ _).trans h.whole

lemma chain_lt (h : Outlet stamp kept arrived chain out clock) : ∀ n ∈ chain, n < clock :=
  fun n hn => h.arrived_lt n (h.chain_sublist.subset hn)

/-- Some of what is to come is lost. -/
lemma sublist (h : Outlet stamp kept arrived chain out clock) (hs : chain'.Sublist chain) :
    Outlet stamp kept arrived chain' out clock where
  sorted := h.sorted
  arrived_lt := h.arrived_lt
  whole := ((List.Sublist.refl _).append hs).trans h.whole
  below o ho n hn := h.below o ho n (hs.subset hn)
  emitted := h.emitted
  out_lt := h.out_lt

lemma forall_mem_concat {p : α → Prop} (h : ∀ o ∈ out, p o) (ho : p o) :
    ∀ o' ∈ out ++ [o], p o' := by
  intro o' ho'
  rcases List.mem_append.mp ho' with ho' | ho'
  · exact h o' ho'
  · rwa [List.mem_singleton.mp ho']

/-- The first of the chain leaves. -/
lemma emit (h : Outlet stamp kept arrived (stamp o :: chain) out clock) (ho : kept o) :
    Outlet stamp kept arrived chain (out ++ [o]) clock where
  sorted := h.sorted
  arrived_lt := h.arrived_lt
  whole := by simpa [List.filter_append, ho] using h.whole
  below := by
    have hchain := List.pairwise_cons.mp (h.sorted.sublist h.chain_sublist)
    refine forall_mem_concat (fun o' ho' n hn => ?_) hchain.1
    exact h.below o' ho' n (List.mem_cons_of_mem _ hn)
  emitted := by
    refine List.pairwise_append.mpr ⟨h.emitted, List.pairwise_singleton _ _, ?_⟩
    intro o₁ h₁ o₂ h₂ _
    rw [List.mem_singleton.mp h₂]
    exact h.below o₁ h₁ _ List.mem_cons_self
  out_lt := forall_mem_concat h.out_lt (h.chain_lt _ List.mem_cons_self)

/-- An item that may overtake leaves, before all that arrived after it. -/
lemma pass (h : Outlet stamp kept arrived chain out clock) (ho : kept o = false)
    (hbelow : ∀ n ∈ chain, stamp o < n) (hclock : stamp o < clock) :
    Outlet stamp kept arrived chain (out ++ [o]) clock where
  sorted := h.sorted
  arrived_lt := h.arrived_lt
  whole := by simpa [List.filter_append, ho] using h.whole
  below := forall_mem_concat h.below hbelow
  emitted := by
    refine List.pairwise_append.mpr ⟨h.emitted, List.pairwise_singleton _ _, ?_⟩
    intro o₁ _ o₂ h₂ hk
    rw [List.mem_singleton.mp h₂, ho] at hk
    cases hk
  out_lt := forall_mem_concat h.out_lt hclock

lemma tick (h : Outlet stamp kept arrived chain out clock) :
    Outlet stamp kept arrived chain out (clock + 1) where
  sorted := h.sorted
  arrived_lt n hn := (h.arrived_lt n hn).trans (Nat.lt_succ_self _)
  whole := h.whole
  below := h.below
  emitted := h.emitted
  out_lt o ho := (h.out_lt o ho).trans (Nat.lt_succ_self _)

/-- An item arrives, to leave after all that is to come. -/
lemma arrive (h : Outlet stamp kept arrived chain out clock) :
    Outlet stamp kept (arrived ++ [clock]) (chain ++ [clock]) out (clock + 1) where
  sorted := by
    refine List.pairwise_append.mpr ⟨h.sorted, List.pairwise_singleton _ _, ?_⟩
    intro n hn n' hn'
    rw [List.mem_singleton.mp hn']
    exact h.arrived_lt n hn
  arrived_lt := forall_mem_concat (fun n hn => (h.arrived_lt n hn).trans (Nat.lt_succ_self _))
    (Nat.lt_succ_self _)
  whole := by
    rw [← List.append_assoc]
    exact h.whole.append (List.Sublist.refl _)
  below o ho := forall_mem_concat (h.below o ho) (h.out_lt o ho)
  emitted := h.emitted
  out_lt := h.tick.out_lt

end Outlet

end Vauxr.Lib
