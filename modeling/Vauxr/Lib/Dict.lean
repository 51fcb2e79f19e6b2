import Mathlib.Data.List.Nodup
import Mathlib.Data.List.Dedup
import Mathlib.Data.List.Sort

/-!
Dictionaries that keep their insertion order and hold every key once.

A write to a key that is present keeps the key's place, a write to a new key appends. The
lookup of every operation is stated as an equation, so that a proof about a table reads it
as a partial function; iteration order and size are kept beside that view.
-/

namespace Vauxr.Lib

structure Dict (κ α : Type*) where
  entries : List (κ × α)
  nodup : (entries.map Prod.fst).Nodup

namespace Dict

variable {κ α β : Type*}

lemma ext_entries {d e : Dict κ α} (h : d.entries = e.entries) : d = e := by
  cases d; cases e; simp_all

instance [DecidableEq κ] [DecidableEq α] : DecidableEq (Dict κ α) := fun d e =>
  decidable_of_iff (d.entries = e.entries) ⟨ext_entries, fun h => h ▸ rfl⟩

def empty : Dict κ α := ⟨[], List.nodup_nil⟩

def size (d : Dict κ α) : ℕ := d.entries.length

def keys (d : Dict κ α) : List κ := d.entries.map Prod.fst

def values (d : Dict κ α) : List α := d.entries.map Prod.snd

@[simp] lemma values_empty : (empty : Dict κ α).values = [] := rfl

@[simp] lemma size_empty : (empty : Dict κ α).size = 0 := rfl

/-- The dictionary of a list of pairs, if no key occurs twice. -/
def ofEntries? [DecidableEq κ] (l : List (κ × α)) : Option (Dict κ α) :=
  if h : (l.map Prod.fst).Nodup then some ⟨l, h⟩ else none

@[simp] lemma ofEntries?_entries [DecidableEq κ] (d : Dict κ α) :
    ofEntries? d.entries = some d := by
  simp [ofEntries?, d.nodup]

section Get

variable [DecidableEq κ]

def find (k : κ) : List (κ × α) → Option α
  | [] => none
  | (k', a) :: l => if k' = k then some a else find k l

def get? (d : Dict κ α) (k : κ) : Option α := find k d.entries

lemma mem_of_find {k : κ} {a : α} : ∀ {l : List (κ × α)}, find k l = some a → (k, a) ∈ l
  | [], h => by simp [find] at h
  | (k', b) :: l, h => by
    by_cases hk : k' = k
    · subst hk
      obtain rfl : b = a := by simpa [find] using h
      simp
    · rw [find, if_neg hk] at h
      exact List.mem_cons_of_mem _ (mem_of_find h)

lemma find_of_mem {k : κ} {a : α} :
    ∀ {l : List (κ × α)}, (l.map Prod.fst).Nodup → (k, a) ∈ l → find k l = some a
  | [], _, h => by simp at h
  | (k', b) :: l, hn, h => by
    rw [List.map_cons, List.nodup_cons] at hn
    rcases List.mem_cons.mp h with h | h
    · obtain ⟨rfl, rfl⟩ := Prod.mk.inj h
      simp [find]
    · have hk : k' ≠ k := by
        rintro rfl
        exact hn.1 (List.mem_map.mpr ⟨_, h, rfl⟩)
      rw [find, if_neg hk]
      exact find_of_mem hn.2 h

lemma mem_entries {d : Dict κ α} {k : κ} {a : α} : (k, a) ∈ d.entries ↔ d.get? k = some a :=
  ⟨find_of_mem d.nodup, mem_of_find⟩

lemma mem_values {d : Dict κ α} {a : α} : a ∈ d.values ↔ ∃ k, d.get? k = some a := by
  simp [values, mem_entries]

lemma get?_mem_values {d : Dict κ α} {k : κ} {a : α} (h : d.get? k = some a) : a ∈ d.values :=
  mem_values.mpr ⟨k, h⟩

lemma mem_keys {d : Dict κ α} {k : κ} : k ∈ d.keys ↔ ∃ a, d.get? k = some a := by
  simp [keys, mem_entries]

lemma get?_eq_none {d : Dict κ α} {k : κ} : d.get? k = none ↔ k ∉ d.keys := by
  rw [mem_keys]
  cases h : d.get? k <;> simp

@[simp] lemma get?_empty (k : κ) : (empty : Dict κ α).get? k = none := rfl

end Get

/-! ### Writing -/

section Set

variable [DecidableEq κ]

def setEntries (k : κ) (a : α) : List (κ × α) → List (κ × α)
  | [] => [(k, a)]
  | (k', b) :: l => if k' = k then (k, a) :: l else (k', b) :: setEntries k a l

lemma keys_setEntries (k : κ) (a : α) (l : List (κ × α)) :
    (setEntries k a l).map Prod.fst =
      if k ∈ l.map Prod.fst then l.map Prod.fst else l.map Prod.fst ++ [k] := by
  induction l with
  | nil => simp [setEntries]
  | cons p l ih =>
    obtain ⟨k', b⟩ := p
    by_cases hk : k' = k
    · subst hk; simp [setEntries]
    · have hk' : ¬ k = k' := fun h => hk h.symm
      simp only [setEntries, if_neg hk, List.map_cons, ih, List.mem_cons, hk', false_or]
      split <;> simp

def set (d : Dict κ α) (k : κ) (a : α) : Dict κ α where
  entries := setEntries k a d.entries
  nodup := by
    rw [keys_setEntries]
    split
    · exact d.nodup
    · next h =>
      rw [List.nodup_append]
      refine ⟨d.nodup, by simp, ?_⟩
      rintro x hx y hy rfl
      exact h (List.mem_singleton.mp hy ▸ hx)

lemma find_setEntries (k j : κ) (a : α) (l : List (κ × α)) :
    find j (setEntries k a l) = if k = j then some a else find j l := by
  induction l with
  | nil => simp [setEntries, find]
  | cons p l ih =>
    obtain ⟨k', b⟩ := p
    by_cases hk : k' = k
    · subst hk
      by_cases hj : k' = j <;> simp [setEntries, find, hj]
    · by_cases hj : k' = j
      · subst hj
        have hk' : ¬ k = k' := fun h => hk h.symm
        simp [setEntries, find, hk, hk']
      · simp [setEntries, find, hk, hj, ih]

@[simp] lemma get?_set (d : Dict κ α) (k j : κ) (a : α) :
    (d.set k a).get? j = if k = j then some a else d.get? j :=
  find_setEntries k j a d.entries

lemma size_setEntries (k : κ) (a : α) (l : List (κ × α)) :
    (setEntries k a l).length = if k ∈ l.map Prod.fst then l.length else l.length + 1 := by
  have h := congrArg List.length (keys_setEntries k a l)
  simp only [List.length_map] at h
  rw [h]
  split <;> simp

lemma size_set_of_get? {d : Dict κ α} {k : κ} {a b : α} (h : d.get? k = some b) :
    (d.set k a).size = d.size := by
  have hk : k ∈ d.entries.map Prod.fst := mem_keys.mpr ⟨b, h⟩
  simp only [size, set, size_setEntries, if_pos hk]

lemma size_set_of_none {d : Dict κ α} {k : κ} {a : α} (h : d.get? k = none) :
    (d.set k a).size = d.size + 1 := by
  have hk : k ∉ d.entries.map Prod.fst := get?_eq_none.mp h
  simp only [size, set, size_setEntries, if_neg hk]

lemma size_set_le (d : Dict κ α) (k : κ) (a : α) : (d.set k a).size ≤ d.size + 1 := by
  simp only [size, set, size_setEntries]
  split <;> omega

lemma countP_setEntries_of_none (p : α → Bool) (k : κ) (a : α) :
    ∀ l : List (κ × α), find k l = none →
      ((setEntries k a l).map Prod.snd).countP p = (l.map Prod.snd).countP p + [a].countP p
  | [], _ => by simp [setEntries]
  | (k', b) :: l, h => by
    have hk : k' ≠ k := by rintro rfl; simp [find] at h
    rw [find, if_neg hk] at h
    have ih := countP_setEntries_of_none p k a l h
    simp only [setEntries, if_neg hk, List.map_cons, List.countP_cons] at ih ⊢
    omega

/-- A new row adds itself to a count over the rows. -/
lemma countP_set_of_none (p : α → Bool) {d : Dict κ α} {k : κ} {a : α} (h : d.get? k = none) :
    (d.set k a).values.countP p = d.values.countP p + [a].countP p :=
  countP_setEntries_of_none p k a d.entries h

lemma countP_setEntries_of_find (p : α → Bool) (k : κ) (a b : α) :
    ∀ l : List (κ × α), find k l = some b →
      ((setEntries k a l).map Prod.snd).countP p + [b].countP p =
        (l.map Prod.snd).countP p + [a].countP p
  | [], h => by simp [find] at h
  | (k', c) :: l, h => by
    by_cases hk : k' = k
    · subst hk
      obtain rfl : c = b := by simpa [find] using h
      simp only [setEntries, if_true, List.map_cons, List.countP_cons, List.countP_nil]
      omega
    · rw [find, if_neg hk] at h
      have ih := countP_setEntries_of_find p k a b l h
      simp only [setEntries, if_neg hk, List.map_cons, List.countP_cons] at ih ⊢
      omega

/-- A rewritten row is counted as the new one in place of the old one. -/
lemma countP_set_of_get? (p : α → Bool) {d : Dict κ α} {k : κ} {a b : α}
    (h : d.get? k = some b) :
    (d.set k a).values.countP p + [b].countP p = d.values.countP p + [a].countP p :=
  countP_setEntries_of_find p k a b d.entries h

lemma setEntries_append {k : κ} {pre : List (κ × α)} (h : k ∉ pre.map Prod.fst) (a b : α)
    (l : List (κ × α)) : setEntries k a (pre ++ (k, b) :: l) = pre ++ (k, a) :: l := by
  induction pre with
  | nil => simp [setEntries]
  | cons e pre ih =>
    rw [List.map_cons, List.mem_cons, not_or] at h
    have hk : ¬e.1 = k := fun he => h.1 he.symm
    simp [setEntries, hk, ih h.2]

end Set

/-! ### Removing and rewriting rows -/

def filter (p : κ → α → Bool) (d : Dict κ α) : Dict κ α where
  entries := d.entries.filter fun e => p e.1 e.2
  nodup := d.nodup.sublist (List.filter_sublist.map Prod.fst)

def map (f : κ → α → β) (d : Dict κ α) : Dict κ β where
  entries := d.entries.map fun e => (e.1, f e.1 e.2)
  nodup := by
    have h : (d.entries.map fun e => (e.1, f e.1 e.2)).map Prod.fst = d.entries.map Prod.fst := by
      simp
    rw [h]
    exact d.nodup

@[simp] lemma size_map (f : κ → α → β) (d : Dict κ α) : (d.map f).size = d.size := by
  simp [size, map]

lemma size_filter_le (p : κ → α → Bool) (d : Dict κ α) : (d.filter p).size ≤ d.size :=
  List.length_filter_le _ _

lemma filter_filter (p q : κ → α → Bool) (d : Dict κ α) :
    (d.filter p).filter q = d.filter fun k a => p k a && q k a :=
  ext_entries (by simp [filter, List.filter_filter, Bool.and_comm])

lemma values_map (f : κ → α → β) (d : Dict κ α) :
    (d.map f).values = d.entries.map fun e => f e.1 e.2 := by
  simp [values, map]

lemma countP_map_le {f : κ → α → α} {p : α → Bool} (d : Dict κ α)
    (h : ∀ k a, p (f k a) = true → p a = true) :
    (d.map f).values.countP p ≤ d.values.countP p := by
  rw [values_map, values, List.countP_map, List.countP_map]
  exact List.countP_mono_left fun e _ => h e.1 e.2

/-- A row that no longer counts makes the count smaller. -/
lemma countP_map_lt {f : κ → α → α} {p : α → Bool} {d : Dict κ α} {k : κ} {a : α}
    (h : ∀ k a, p (f k a) = true → p a = true) (hm : (k, a) ∈ d.entries) (ha : p a = true)
    (hf : p (f k a) = false) : (d.map f).values.countP p < d.values.countP p := by
  obtain ⟨pre, post, he⟩ := List.append_of_mem hm
  have hle : ∀ l : List (κ × α), l.countP (fun e => p (f e.1 e.2)) ≤ l.countP fun e => p e.2 :=
    fun l => List.countP_mono_left fun e _ => h e.1 e.2
  have h1 := hle pre
  have h2 := hle post
  rw [values_map, values, he, List.countP_map, List.countP_map]
  simp only [Function.comp_def, List.countP_append, List.countP_cons, ha, hf]
  simp only [Bool.false_eq_true, if_false, if_true]
  omega

section Get

variable [DecidableEq κ]

def erase (d : Dict κ α) (k : κ) : Dict κ α := d.filter fun j _ => decide (j ≠ k)

lemma find_map (f : κ → α → β) (k : κ) (l : List (κ × α)) :
    find k (l.map fun e => (e.1, f e.1 e.2)) = (find k l).map (f k) := by
  induction l with
  | nil => rfl
  | cons p l ih =>
    obtain ⟨k', b⟩ := p
    by_cases hk : k' = k
    · subst hk; simp [find]
    · simp [find, hk, ih]

@[simp] lemma get?_map (f : κ → α → β) (d : Dict κ α) (k : κ) :
    (d.map f).get? k = (d.get? k).map (f k) :=
  find_map f k d.entries

@[simp] lemma get?_filter (p : κ → α → Bool) (d : Dict κ α) (k : κ) :
    (d.filter p).get? k = (d.get? k).filter (p k) := by
  ext a
  rw [← mem_entries, Option.filter_eq_some_iff, ← mem_entries]
  simp [filter]

@[simp] lemma get?_erase (d : Dict κ α) (k j : κ) :
    (d.erase k).get? j = if j = k then none else d.get? j := by
  rw [erase, get?_filter]
  by_cases h : j = k
  · cases hd : d.get? j <;> simp [h]
  · cases hd : d.get? j <;> simp [h]

lemma get?_set_self (d : Dict κ α) (k : κ) (a : α) : (d.set k a).get? k = some a := by simp

lemma get?_set_ne {d : Dict κ α} {k j : κ} {a : α} (h : k ≠ j) : (d.set k a).get? j = d.get? j := by
  simp [h]

lemma get?_erase_ne {d : Dict κ α} {k j : κ} (h : k ≠ j) : (d.erase k).get? j = d.get? j := by
  simp [h.symm]

lemma filter_congr {p q : κ → α → Bool} {d : Dict κ α}
    (h : ∀ k a, d.get? k = some a → p k a = q k a) : d.filter p = d.filter q :=
  ext_entries (List.filter_congr fun e he => h e.1 e.2 (mem_entries.mp he))

lemma filter_eq_self {p : κ → α → Bool} {d : Dict κ α}
    (h : ∀ k a, d.get? k = some a → p k a = true) : d.filter p = d :=
  ext_entries (List.filter_eq_self.mpr fun e he => h e.1 e.2 (mem_entries.mp he))

lemma map_eq_self {f : κ → α → α} {d : Dict κ α}
    (h : ∀ k a, d.get? k = some a → f k a = a) : d.map f = d := by
  refine ext_entries ?_
  have h' : ∀ e ∈ d.entries, (fun e : κ × α => (e.1, f e.1 e.2)) e = id e := by
    intro e he
    show (e.1, f e.1 e.2) = e
    rw [h e.1 e.2 (mem_entries.mp he)]
  exact (List.map_congr_left h').trans (List.map_id _)

lemma get?_filter_some {p : κ → α → Bool} {d : Dict κ α} {k : κ} {a : α} :
    (d.filter p).get? k = some a ↔ d.get? k = some a ∧ p k a = true := by
  rw [get?_filter, Option.filter_eq_some_iff]

lemma get?_map_some {f : κ → α → β} {d : Dict κ α} {k : κ} {b : β} :
    (d.map f).get? k = some b ↔ ∃ a, d.get? k = some a ∧ f k a = b := by
  rw [get?_map, Option.map_eq_some_iff]

lemma mem_values_map {f : κ → α → β} {d : Dict κ α} {b : β} :
    b ∈ (d.map f).values ↔ ∃ k a, d.get? k = some a ∧ f k a = b := by
  simp only [mem_values, get?_map_some]

end Get

end Dict

/-! ### Sorted sets -/

/-- The elements of a list in increasing order, each once. -/
def sortedSet {α : Type*} [DecidableEq α] (le : α → α → Prop) [DecidableRel le] (l : List α) :
    List α :=
  l.dedup.insertionSort le

section SortedSet

variable {α : Type*} [DecidableEq α] (le : α → α → Prop) [DecidableRel le]

@[simp] lemma mem_sortedSet {l : List α} {a : α} : a ∈ sortedSet le l ↔ a ∈ l := by
  simp [sortedSet, (List.perm_insertionSort le l.dedup).mem_iff]

lemma nodup_sortedSet (l : List α) : (sortedSet le l).Nodup :=
  (List.perm_insertionSort le l.dedup).nodup_iff.mpr (List.nodup_dedup l)

end SortedSet

end Vauxr.Lib
