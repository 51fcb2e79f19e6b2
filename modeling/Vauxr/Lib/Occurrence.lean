import Mathlib

/-!
Occurrences of a pattern that does not overlap itself, and their replacement.

`blank` puts a fill in the place of every occurrence. Over a text that is cut into pieces it works
piece by piece exactly when no occurrence straddles a cut.
-/

namespace Vauxr.Lib

variable {α : Type*}

/-- No proper part at the front of the pattern is also one at its end. -/
def Unbordered (pat : List α) : Prop := ∀ u, u <+: pat → u <:+ pat → u = [] ∨ u = pat

/-- An occurrence begins in `a` and ends in `b`. -/
def Straddles (pat a b : List α) : Prop :=
  ∃ u v, u ≠ [] ∧ v ≠ [] ∧ pat = u ++ v ∧ u <:+ a ∧ v <+: b

/-- Every occurrence lies within one piece. -/
def Intact (pat : List α) (pieces : List (List α)) : Prop :=
  ∀ l r, pieces = l ++ r → ¬ Straddles pat l.flatten r.flatten

section

variable {pat : List α}

lemma not_prefix_suffix (hb : Unbordered pat) {z : List α} (hz : z <:+ pat) (hne : z ≠ [])
    (hlt : z.length < pat.length) (t : List α) : ¬ pat <+: z ++ t := by
  intro h
  have hpre : z <+: pat :=
    List.prefix_of_prefix_length_le (List.prefix_append z t) h (Nat.le_of_lt hlt)
  rcases hb z hpre hz with rfl | rfl
  · exact hne rfl
  · exact Nat.lt_irrefl _ hlt

lemma Straddles.left {a b : List α} (h : Straddles pat a b) (x : List α) :
    Straddles pat (x ++ a) b := by
  obtain ⟨u, v, hu, hv, hpat, hua, hvb⟩ := h
  exact ⟨u, v, hu, hv, hpat, hua.trans (List.suffix_append x a), hvb⟩

lemma Straddles.of_append_pat (hb : Unbordered pat) {a b : List α}
    (h : Straddles pat (pat ++ a) b) : Straddles pat a b := by
  obtain ⟨u, v, hu, hv, hpat, hua, hvb⟩ := h
  refine ⟨u, v, hu, hv, hpat, ?_, hvb⟩
  obtain ⟨s, hs⟩ := hua
  rcases List.append_eq_append_iff.mp hs with ⟨z, hz, rfl⟩ | ⟨z, -, rfl⟩
  · have hpre : z <+: pat := ⟨a ++ v, by rw [← List.append_assoc, ← hpat]⟩
    rcases hb z hpre ⟨s, hz.symm⟩ with hz | hz
    · rw [hz]
      exact List.suffix_rfl
    · have hlen := congrArg List.length hpat
      have hpos := List.length_pos_of_ne_nil hv
      simp only [hz, List.length_append] at hlen
      omega
  · exact List.suffix_append z u

lemma Straddles.of_cons {c : α} {a b : List α} (hc : ¬ pat <+: c :: (a ++ b))
    (h : Straddles pat (c :: a) b) : Straddles pat a b := by
  obtain ⟨u, v, hu, hv, hpat, hua, hvb⟩ := h
  refine ⟨u, v, hu, hv, hpat, ?_, hvb⟩
  rcases List.suffix_cons_iff.mp hua with rfl | hua
  · refine absurd ?_ hc
    rw [hpat, ← List.cons_append]
    exact (List.prefix_append_right_inj _).mpr hvb
  · exact hua

/-- An occurrence that begins with `a` and does not end in it. -/
lemma straddles_of_prefix {a b : List α} (h : pat <+: a ++ b) (hn : ¬ pat <+: a) :
    ∃ v, v ≠ [] ∧ pat = a ++ v ∧ v <+: b := by
  obtain ⟨t, ht⟩ := h
  rcases List.append_eq_append_iff.mp ht with ⟨s, hs, -⟩ | ⟨v, hv, hvb⟩
  · exact absurd ⟨s, hs.symm⟩ hn
  · refine ⟨v, ?_, hv, t, hvb.symm⟩
    rintro rfl
    exact hn (by rw [hv, List.append_nil])

lemma intact_pair {s t : List α} (h : ¬ Straddles pat s t) : Intact pat [s, t] := by
  intro l r hlr hs
  rcases List.append_eq_cons_iff.mp hlr.symm with ⟨rfl, hr⟩ | ⟨l', rfl, hr⟩
  · obtain ⟨u, -, hu, -, -, hul, -⟩ := hs
    exact hu (List.suffix_nil.mp hul)
  · rcases List.append_eq_cons_iff.mp hr.symm with ⟨rfl, rfl⟩ | ⟨l', rfl, hnil⟩
    · simp only [List.flatten_cons, List.flatten_nil, List.append_nil] at hs
      exact h hs
    · obtain ⟨-, v, -, hv, -, -, hvr⟩ := hs
      rw [(List.append_eq_nil_iff.mp hnil.symm).2] at hvr
      exact hv (List.prefix_nil.mp hvr)

lemma Intact.tail {s : List α} {l : List (List α)} (h : Intact pat (s :: l)) : Intact pat l := by
  intro a b hab hs
  refine h (s :: a) b (by rw [hab, List.cons_append]) ?_
  rw [List.flatten_cons]
  exact hs.left s

end

/-! ### Replacement -/

variable [DecidableEq α]

/-- `blank` inside of an occurrence of which `n` items are left. -/
def blankFrom (pat fill : List α) : ℕ → List α → List α
  | _, [] => []
  | n + 1, _ :: t => blankFrom pat fill n t
  | 0, c :: t =>
    if pat <+: c :: t then fill ++ blankFrom pat fill (pat.length - 1) t
    else c :: blankFrom pat fill 0 t

/-- Every occurrence is replaced by the fill. -/
def blank (pat fill t : List α) : List α := blankFrom pat fill 0 t

section

variable {pat fill : List α}

@[simp] lemma blank_nil : blank pat fill [] = [] := rfl

lemma blankFrom_length (s t : List α) :
    blankFrom pat fill s.length (s ++ t) = blank pat fill t := by
  induction s with
  | nil => rfl
  | cons c s ih => exact ih

lemma blank_append_pat (hne : pat ≠ []) (t : List α) :
    blank pat fill (pat ++ t) = fill ++ blank pat fill t := by
  obtain ⟨c, p, hp⟩ := List.exists_cons_of_ne_nil hne
  have hpre : pat <+: c :: (p ++ t) := ⟨t, by rw [hp, List.cons_append]⟩
  have hlen : pat.length - 1 = p.length := by rw [hp, List.length_cons, Nat.add_sub_cancel]
  have happ : pat ++ t = c :: (p ++ t) := by rw [hp, List.cons_append]
  rw [happ, blank, blankFrom, if_pos hpre, hlen, blankFrom_length]

lemma blank_cons {c : α} {t : List α} (h : ¬ pat <+: c :: t) :
    blank pat fill (c :: t) = c :: blank pat fill t := by
  rw [blank, blankFrom, if_neg h, ← blank]

/-- A text is read from the left, an occurrence at a time. -/
lemma occurrence_induction (hne : pat ≠ []) {P : List α → Prop} (nil : P [])
    (occurrence : ∀ t, P t → P (pat ++ t))
    (cons : ∀ c t, ¬ pat <+: c :: t → P t → P (c :: t)) (t : List α) : P t := by
  have key : ∀ n, ∀ t : List α, t.length ≤ n → P t := by
    intro n
    induction n with
    | zero =>
      intro t ht
      rw [List.eq_nil_of_length_eq_zero (Nat.le_zero.mp ht)]
      exact nil
    | succ n ih =>
      intro t ht
      cases t with
      | nil => exact nil
      | cons c t =>
        by_cases h : pat <+: c :: t
        · obtain ⟨t', ht'⟩ := h
          have hpos : 0 < pat.length := List.length_pos_of_ne_nil hne
          have hlen := congrArg List.length ht'
          rw [List.length_append, List.length_cons] at hlen
          rw [List.length_cons] at ht
          rw [← ht']
          exact occurrence t' (ih t' (by omega))
        · exact cons c t h (ih t (Nat.le_of_succ_le_succ ht))
  exact key t.length t le_rfl

/-! ### Nothing is left -/

/-- What has nothing of the fill in it is found where it was. -/
lemma prefix_of_prefix_blank (hne : pat ≠ []) (hfill : fill ≠ []) {p : List α}
    (hp : ∀ c ∈ p, c ∉ fill) {t : List α} (h : p <+: blank pat fill t) : p <+: t := by
  induction t using occurrence_induction hne generalizing p with
  | nil => simpa using h
  | occurrence t ih =>
    rw [blank_append_pat hne] at h
    cases p with
    | nil => exact List.nil_prefix
    | cons c p =>
      obtain ⟨d, q, hq⟩ := List.exists_cons_of_ne_nil hfill
      rw [hq, List.cons_append, List.cons_prefix_cons] at h
      refine absurd ?_ (hp c List.mem_cons_self)
      rw [h.1, hq]
      exact List.mem_cons_self
  | cons c t hc ih =>
    rw [blank_cons hc] at h
    cases p with
    | nil => exact List.nil_prefix
    | cons d p =>
      rw [List.cons_prefix_cons] at h ⊢
      exact ⟨h.1, ih (fun e he => hp e (List.mem_cons_of_mem d he)) h.2⟩

lemma not_infix_blank (hne : pat ≠ []) (hfill : fill ≠ []) (hp : ∀ c ∈ pat, c ∉ fill)
    (t : List α) : ¬ pat <:+: blank pat fill t := by
  induction t using occurrence_induction hne with
  | nil =>
    intro h
    exact hne (List.eq_nil_of_infix_nil h)
  | occurrence t ih =>
    rw [blank_append_pat hne]
    have key : ∀ f : List α, (∀ c ∈ f, c ∈ fill) → ¬ pat <:+: f ++ blank pat fill t := by
      intro f hf
      induction f with
      | nil => exact ih
      | cons d f ihf =>
        intro h
        rcases List.infix_cons_iff.mp h with h | h
        · -- the pattern cannot begin within the fill
          obtain ⟨c, p, hcp⟩ := List.exists_cons_of_ne_nil hne
          rw [hcp] at h
          have hcd : c = d := (List.cons_prefix_cons.mp h).1
          refine hp c ?_ (hcd ▸ hf d List.mem_cons_self)
          rw [hcp]
          exact List.mem_cons_self
        · exact ihf (fun c hc => hf c (List.mem_cons_of_mem d hc)) h
    exact key fill fun c hc => hc
  | cons c t hc ih =>
    intro h
    rw [blank_cons hc] at h
    rcases List.infix_cons_iff.mp h with h | h
    · rw [← blank_cons hc] at h
      exact hc (prefix_of_prefix_blank hne hfill hp h)
    · exact ih h

/-! ### Cuts -/

/-- The end of an occurrence is left alone. -/
lemma blank_suffix (hb : Unbordered pat) {z : List α} (hz : z <:+ pat)
    (hlt : z.length < pat.length) (t : List α) :
    blank pat fill (z ++ t) = z ++ blank pat fill t := by
  induction z with
  | nil => rfl
  | cons c z ih =>
    have hz' : z <:+ pat := (List.suffix_cons c z).trans hz
    have hlt' : z.length < pat.length := (Nat.lt_succ_self _).trans hlt
    have hc := not_prefix_suffix hb hz (List.cons_ne_nil c z) hlt t
    rw [List.cons_append] at hc ⊢
    rw [blank_cons hc, ih hz' hlt', List.cons_append]

lemma blank_short {t : List α} (h : t.length < pat.length) : blank pat fill t = t := by
  induction t with
  | nil => rfl
  | cons c t ih =>
    rw [blank_cons fun hp => Nat.not_le_of_lt h hp.length_le, ih ((Nat.lt_succ_self _).trans h)]

lemma blank_append (hne : pat ≠ []) {a b : List α}
    (h : ¬ Straddles pat a b) :
    blank pat fill (a ++ b) = blank pat fill a ++ blank pat fill b := by
  induction a using occurrence_induction hne with
  | nil => rfl
  | occurrence a ih =>
    rw [List.append_assoc, blank_append_pat hne, blank_append_pat hne, List.append_assoc,
      ih fun hs => h (hs.left pat)]
  | cons c a hc ih =>
    have hc' : ¬ pat <+: c :: (a ++ b) := by
      intro hp
      obtain ⟨v, hv, hpat, hvb⟩ := straddles_of_prefix hp hc
      exact h ⟨c :: a, v, List.cons_ne_nil c a, hv, hpat, List.suffix_rfl, hvb⟩
    rw [List.cons_append, blank_cons hc', blank_cons hc, List.cons_append,
      ih fun hs => h (hs.left [c])]

/-! ### The size of what is left -/

variable (size : List α → ℕ) (hsize : ∀ a b, size (a ++ b) = size a + size b)
  (hlt : size fill < size pat)

include hsize hlt

/-- An occurrence that straddles the cut is seen in the whole only. -/
lemma size_blank_append_lt (hne : pat ≠ []) (hb : Unbordered pat) {a b : List α}
    (h : Straddles pat a b) :
    size (blank pat fill (a ++ b)) < size (blank pat fill a) + size (blank pat fill b) := by
  induction a using occurrence_induction hne with
  | nil =>
    obtain ⟨u, -, hu, -, -, hua, -⟩ := h
    exact absurd (List.suffix_nil.mp hua) hu
  | occurrence a ih =>
    have hlt' := ih (h.of_append_pat hb)
    rw [List.append_assoc, blank_append_pat hne, blank_append_pat hne, hsize, hsize]
    omega
  | cons c a hc ih =>
    by_cases hp : pat <+: c :: (a ++ b)
    · obtain ⟨v, hv, hpat, b', rfl⟩ := straddles_of_prefix hp hc
      have hlen := congrArg List.length hpat
      have hposv := List.length_pos_of_ne_nil hv
      rw [List.length_append, List.length_cons] at hlen
      have hwhole : c :: a ++ (v ++ b') = pat ++ b' := by rw [hpat, List.append_assoc]
      have hsuf : v <:+ pat := ⟨c :: a, hpat.symm⟩
      have hsum : size pat = size (c :: a) + size v := by rw [← hsize, ← hpat]
      have hshort : (c :: a).length < pat.length := by
        rw [List.length_cons]
        omega
      rw [hwhole, blank_append_pat hne, blank_short hshort, blank_suffix hb hsuf (by omega),
        hsize, hsize]
      omega
    · have hlt' := ih (h.of_cons hp)
      have hcons : ∀ t : List α, size (c :: t) = size [c] + size t := fun t => hsize [c] t
      rw [List.cons_append, blank_cons hp, blank_cons hc, hcons, hcons (blank pat fill a)]
      omega

lemma size_blank_append_le (hne : pat ≠ []) (hb : Unbordered pat) (a b : List α) :
    size (blank pat fill (a ++ b)) ≤ size (blank pat fill a) + size (blank pat fill b) := by
  by_cases h : Straddles pat a b
  · exact (size_blank_append_lt size hsize hlt hne hb h).le
  · rw [blank_append hne h, hsize]

lemma size_blank_flatten_le (hne : pat ≠ []) (hb : Unbordered pat) (pieces : List (List α)) :
    size (blank pat fill pieces.flatten) ≤ size (pieces.map (blank pat fill)).flatten := by
  induction pieces with
  | nil => exact le_rfl
  | cons s l ih =>
    have h := size_blank_append_le size hsize hlt hne hb s l.flatten
    rw [List.flatten_cons, List.map_cons, List.flatten_cons, hsize]
    omega

omit hsize hlt in
lemma Intact.blank_flatten (hne : pat ≠ []) {pieces : List (List α)}
    (h : Intact pat pieces) :
    blank pat fill pieces.flatten = (pieces.map (blank pat fill)).flatten := by
  induction pieces with
  | nil => rfl
  | cons s l ih =>
    have hs : ¬ Straddles pat s l.flatten := by simpa using h [s] l rfl
    rw [List.flatten_cons, blank_append hne hs, ih h.tail, List.map_cons, List.flatten_cons]

/-- Piece by piece as much is left as of the whole, only where no cut goes through an
occurrence. -/
lemma intact_of_size_le (hne : pat ≠ []) (hb : Unbordered pat) {pieces : List (List α)}
    (h : size (pieces.map (blank pat fill)).flatten ≤ size (blank pat fill pieces.flatten)) :
    Intact pat pieces := by
  intro l r hlr hs
  subst hlr
  have hlt' := size_blank_append_lt size hsize hlt hne hb hs
  have hl := size_blank_flatten_le size hsize hlt hne hb l
  have hr := size_blank_flatten_le size hsize hlt hne hb r
  rw [List.map_append, List.flatten_append, hsize, List.flatten_append] at h
  omega

end

end Vauxr.Lib
