import Mathlib

/-!
The words of a list, cut at its separators.

Two lists are `Respaced` when they have the same words in every context, so that one may stand for
the other: their runs of separators differ at most in what they consist of.
-/

namespace Vauxr.Lib

variable {α : Type*} (sep : α → Bool)

/-- What stands between separators. -/
def words (t : List α) : List (List α) := (t.splitOnP sep).filter (! ·.isEmpty)

variable {sep}

@[simp] lemma words_nil : words sep ([] : List α) = [] := by simp [words]

lemma words_append_cons {c : α} (hc : sep c) (a b : List α) :
    words sep (a ++ c :: b) = words sep a ++ words sep b := by
  unfold words
  rw [List.splitOnP_append_cons a b hc, List.filter_append]

lemma words_cons {c : α} (hc : sep c) (t : List α) : words sep (c :: t) = words sep t :=
  words_append_cons hc [] t

lemma words_spaces_append {w : List α} (hw : ∀ c ∈ w, sep c) (t : List α) :
    words sep (w ++ t) = words sep t := by
  induction w with
  | nil => rfl
  | cons c w ih =>
    rw [List.cons_append, words_cons (hw c List.mem_cons_self)]
    exact ih fun d hd => hw d (List.mem_cons_of_mem c hd)

/-- A run of separators ends a word. -/
lemma words_append_spaces {w : List α} (hw : ∀ c ∈ w, sep c) (hne : w ≠ []) (a b : List α) :
    words sep (a ++ (w ++ b)) = words sep a ++ words sep b := by
  obtain ⟨c, w, rfl⟩ := List.exists_cons_of_ne_nil hne
  rw [List.cons_append, words_append_cons (hw c List.mem_cons_self),
    words_spaces_append fun d hd => hw d (List.mem_cons_of_mem c hd)]

lemma words_append_trailing {w : List α} (hw : ∀ c ∈ w, sep c) (t : List α) :
    words sep (t ++ w) = words sep t := by
  by_cases hne : w = []
  · rw [hne, List.append_nil]
  · simpa using words_append_spaces hw hne t []

/-- The words keep everything but the separators. -/
lemma flatten_words (t : List α) : (words sep t).flatten = t.filter (! sep ·) := by
  have hflat : ∀ l : List (List α), (l.filter (! ·.isEmpty)).flatten = l.flatten := by
    intro l
    induction l with
    | nil => rfl
    | cons s l ih => cases s <;> simp [ih]
  unfold words
  rw [hflat]
  induction t with
  | nil => simp
  | cons c t ih =>
    rw [List.splitOnP_cons_eq_if_modifyHead]
    by_cases hc : sep c
    · simp [hc, ih]
    · obtain ⟨s, l, hs⟩ := List.exists_cons_of_ne_nil (List.splitOnP_ne_nil sep t)
      rw [hs] at ih ⊢
      simpa [hc] using ih

/-- A word stands in the list. -/
lemma infix_of_mem_words {w t : List α} (hw : w ∈ words sep t) : w <:+: t := by
  have key : ∀ t : List α, (∀ s ∈ t.splitOnP sep, s <:+: t) ∧
      ∀ s l, t.splitOnP sep = s :: l → s <+: t := by
    intro t
    induction t with
    | nil => simp
    | cons c t ih =>
      obtain ⟨s, l, hs⟩ := List.exists_cons_of_ne_nil (List.splitOnP_ne_nil sep t)
      have hhead : s <+: t := ih.2 s l hs
      rw [List.splitOnP_cons_eq_if_modifyHead]
      by_cases hc : sep c
      · rw [if_pos hc]
        refine ⟨fun u hu => ?_, fun u r hur => ?_⟩
        · rcases List.mem_cons.mp hu with rfl | hu
          · exact List.nil_infix
          · exact (ih.1 u hu).trans (List.suffix_cons c t).isInfix
        · rw [← (List.cons.inj hur).1]
          exact List.nil_prefix
      · rw [if_neg hc, hs, List.modifyHead_cons]
        refine ⟨fun u hu => ?_, fun u r hur => ?_⟩
        · rcases List.mem_cons.mp hu with rfl | hu
          · exact (List.prefix_cons_inj c |>.mpr hhead).isInfix
          · exact (ih.1 u (hs ▸ List.mem_cons_of_mem s hu)).trans (List.suffix_cons c t).isInfix
        · rw [← (List.cons.inj hur).1]
          exact (List.prefix_cons_inj c).mpr hhead
  exact (key t).1 w (List.mem_of_mem_filter hw)

/-- What has no separator in it stands within one word. -/
lemma exists_mem_words {p t : List α} (hp : ∀ c ∈ p, sep c = false) (hne : p ≠ [])
    (h : p <:+: t) : ∃ w ∈ words sep t, p <:+: w := by
  have key : ∀ t : List α, p <:+: t → ∃ w ∈ t.splitOnP sep, p <:+: w := by
    intro t ht
    obtain ⟨x, y, rfl⟩ := ht
    induction x with
    | nil =>
      -- the first part runs on from the pattern
      obtain ⟨s, l, hs⟩ := List.exists_cons_of_ne_nil (List.splitOnP_ne_nil sep y)
      have hpre : ∀ q : List α, (∀ c ∈ q, sep c = false) →
          (q ++ y).splitOnP sep = (q ++ s) :: l := by
        intro q hq
        induction q with
        | nil => exact hs
        | cons c q ih =>
          rw [List.cons_append, List.splitOnP_cons_eq_if_modifyHead,
            ih fun d hd => hq d (List.mem_cons_of_mem c hd)]
          simp [hq c List.mem_cons_self]
      refine ⟨p ++ s, ?_, (List.prefix_append p s).isInfix⟩
      rw [List.nil_append, hpre p hp]
      exact List.mem_cons_self
    | cons c x ih =>
      obtain ⟨w, hw, hpw⟩ := ih
      have happ : c :: x ++ p ++ y = c :: (x ++ p ++ y) := by simp
      rw [happ, List.splitOnP_cons_eq_if_modifyHead]
      by_cases hc : sep c
      · rw [if_pos hc]
        exact ⟨w, List.mem_cons_of_mem _ hw, hpw⟩
      · obtain ⟨s, l, hs⟩ := List.exists_cons_of_ne_nil (List.splitOnP_ne_nil sep (x ++ p ++ y))
        rw [if_neg hc, hs, List.modifyHead_cons]
        rw [hs] at hw
        rcases List.mem_cons.mp hw with rfl | hw
        · exact ⟨c :: w, List.mem_cons_self, hpw.trans (List.suffix_cons c w).isInfix⟩
        · exact ⟨w, List.mem_cons_of_mem _ hw, hpw⟩
  obtain ⟨w, hw, hpw⟩ := key t h
  refine ⟨w, List.mem_filter.mpr ⟨hw, ?_⟩, hpw⟩
  cases w with
  | nil => exact absurd (List.eq_nil_of_infix_nil hpw) hne
  | cons c w => rfl

/-- Lists with the same words have the same separator-free parts. -/
lemma infix_of_words_eq {p a b : List α} (hp : ∀ c ∈ p, sep c = false) (hne : p ≠ [])
    (hab : words sep a = words sep b) (h : p <:+: a) : p <:+: b := by
  obtain ⟨w, hw, hpw⟩ := exists_mem_words hp hne h
  exact hpw.trans (infix_of_mem_words (hab ▸ hw))

/-! ### The same words in every context -/

variable (sep) in
def Respaced (a b : List α) : Prop := ∀ x y, words sep (x ++ (a ++ y)) = words sep (x ++ (b ++ y))

namespace Respaced

variable {a a' b b' : List α}

lemma refl (a : List α) : Respaced sep a a := fun _ _ => rfl

lemma words_eq (h : Respaced sep a b) : words sep a = words sep b := by simpa using h [] []

lemma append (h : Respaced sep a a') (h' : Respaced sep b b') :
    Respaced sep (a ++ b) (a' ++ b') := by
  intro x y
  calc words sep (x ++ (a ++ b ++ y))
      = words sep (x ++ (a ++ (b ++ y))) := by rw [List.append_assoc]
    _ = words sep (x ++ (a' ++ (b ++ y))) := h x (b ++ y)
    _ = words sep (x ++ a' ++ (b ++ y)) := by rw [List.append_assoc]
    _ = words sep (x ++ a' ++ (b' ++ y)) := h' (x ++ a') y
    _ = words sep (x ++ (a' ++ b' ++ y)) := by simp only [List.append_assoc]

lemma cons (c : α) (h : Respaced sep a b) : Respaced sep (c :: a) (c :: b) :=
  append (refl [c]) h

/-- One run of separators stands for another. -/
lemma of_spaces (ha : ∀ c ∈ a, sep c) (hb : ∀ c ∈ b, sep c) (ha' : a ≠ []) (hb' : b ≠ []) :
    Respaced sep a b := by
  intro x y
  rw [words_append_spaces ha ha', words_append_spaces hb hb']

end Respaced

end Vauxr.Lib
