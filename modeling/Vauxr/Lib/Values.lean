import Mathlib
import Vauxr.Lib.Text
import Vauxr.Lib.Refine

/-!
Values as a program compares them: objects by their keys, whatever the order, numbers by their
value. Dictionaries laid over one another, and checks of every element.
-/

namespace Vauxr.Lib

lemma forM_eq_ok {ε α : Type} {f : α → Except ε Unit} :
    ∀ {l : List α}, l.forM f = .ok () ↔ ∀ a ∈ l, f a = .ok ()
  | [] => by simp [pure, Except.pure]
  | a :: l => by
    show (f a >>= fun _ => l.forM f) = .ok () ↔ _
    rw [bind_eq_ok, List.forall_mem_cons, ← forM_eq_ok (l := l)]
    exact ⟨fun ⟨(), ha, hl⟩ => ⟨ha, hl⟩, fun ⟨ha, hl⟩ => ⟨(), ha, hl⟩⟩

namespace Dict

variable {κ α : Type*} [DecidableEq κ]

/-- `{**d, **e}` -/
def update (d e : Dict κ α) : Dict κ α := e.entries.foldl (fun d p => d.set p.1 p.2) d

lemma get?_foldl_set {l : List (κ × α)} (h : (l.map Prod.fst).Nodup) (d : Dict κ α) (k : κ) :
    (l.foldl (fun d p => d.set p.1 p.2) d).get? k = (find k l).or (d.get? k) := by
  induction l generalizing d with
  | nil => rfl
  | cons p l ih =>
    rw [List.map_cons, List.nodup_cons] at h
    rw [List.foldl_cons, ih h.2, get?_set, find]
    by_cases hk : p.1 = k
    · have hnone : find k l = none := by
        cases hf : find k l with
        | none => rfl
        | some a => exact absurd (List.mem_map.mpr ⟨_, mem_of_find hf, hk.symm⟩) h.1
      rw [if_pos hk, if_pos hk, hnone]
      rfl
    · rw [if_neg hk, if_neg hk]

@[simp] lemma get?_update (d e : Dict κ α) (k : κ) :
    (d.update e).get? k = (e.get? k).or (d.get? k) :=
  get?_foldl_set e.nodup d k

lemma setEntries_self {k : κ} {a : α} {l : List (κ × α)} (h : find k l = some a) :
    setEntries k a l = l := by
  induction l with
  | nil => cases h
  | cons p l ih =>
    obtain ⟨k', b⟩ := p
    rw [find] at h
    by_cases hk : k' = k
    · rw [if_pos hk] at h
      cases h
      rw [setEntries, if_pos hk, hk]
    · rw [if_neg hk] at h
      rw [setEntries, if_neg hk, ih h]

lemma set_self {d : Dict κ α} {k : κ} {a : α} (h : d.get? k = some a) : d.set k a = d :=
  ext_entries (setEntries_self h)

lemma set_set (d : Dict κ α) (k : κ) (a b : α) : (d.set k a).set k b = d.set k b := by
  refine ext_entries ?_
  show setEntries k b (setEntries k a d.entries) = setEntries k b d.entries
  induction d.entries with
  | nil => simp [setEntries]
  | cons p l ih =>
    obtain ⟨k', c⟩ := p
    by_cases hk : k' = k
    · simp [setEntries, hk]
    · simp [setEntries, hk, ih]

lemma erase_set_of_none {d : Dict κ α} {k : κ} (h : d.get? k = none) (a : α) :
    (d.set k a).erase k = d := by
  refine ext_entries ?_
  show (setEntries k a d.entries).filter (fun e => decide (e.1 ≠ k)) = d.entries
  have h' : find k d.entries = none := h
  revert h'
  induction d.entries with
  | nil => simp [setEntries]
  | cons p l ih =>
    obtain ⟨k', c⟩ := p
    intro h'
    rw [find] at h'
    by_cases hk : k' = k
    · rw [if_pos hk] at h'
      cases h'
    · rw [if_neg hk] at h'
      rw [setEntries, if_neg hk, List.filter_cons, if_pos (decide_eq_true hk), ih h']

omit [DecidableEq κ] in
lemma eq_empty_of_size {d : Dict κ α} (h : d.size = 0) : d = empty :=
  ext_entries (List.eq_nil_of_length_eq_zero h)

end Dict

namespace Value

def arr? : Value → Option (List Value)
  | .arr items => some items
  | _ => none

/-- What a condition takes for true. -/
def truthy : Value → Bool
  | .null => false
  | .bool b => b
  | .int n => n ≠ 0
  | .float q => q ≠ 0
  | .str t => !t.isEmpty
  | .arr items => !items.isEmpty
  | .obj fields => !fields.isEmpty

/-- A value that may be a key of a dictionary. -/
def hashable : Value → Bool
  | .arr _ | .obj _ => false
  | _ => true

/-- The number that a value counts as in a comparison. -/
def numeric? : Value → Option ℚ
  | .bool b => some (if b then 1 else 0)
  | .int n => some n
  | .float q => some q
  | _ => none

mutual

/-- `==` -/
def equal : Value → Value → Bool
  | .null, .null => true
  | .str a, .str b => a == b
  | .arr a, .arr b => equalItems a b
  | .obj a, .obj b => a.length == b.length && equalFields a b
  | a, b =>
    match a.numeric?, b.numeric? with
    | some x, some y => x == y
    | _, _ => false

def equalItems : List Value → List Value → Bool
  | [], [] => true
  | a :: as, b :: bs => equal a b && equalItems as bs
  | _, _ => false

def equalFields : List (Text × Value) → List (Text × Value) → Bool
  | [], _ => true
  | (k, a) :: as, bs =>
    (match Dict.find k bs with
      | some b => equal a b
      | none => false) && equalFields as bs

end

lemma equal_str {t : Text} {v : Value} (h : equal (.str t) v = true) : v = .str t := by
  cases v <;> simp [equal, numeric?] at h
  rw [h]

lemma equal_obj {fields : List (Text × Value)} {v : Value} (h : equal (.obj fields) v = true) :
    ∃ fields', v = .obj fields' ∧ fields.length = fields'.length ∧
      equalFields fields fields' = true := by
  cases v <;> simp [equal, numeric?] at h
  exact ⟨_, rfl, h⟩

/-- What is under a key of the first is under it in the second. -/
lemma find_equalFields {fields fields' : List (Text × Value)} {k : Text} {a : Value}
    (h : equalFields fields fields' = true) (hf : Dict.find k fields = some a) :
    ∃ b, Dict.find k fields' = some b ∧ equal a b = true := by
  induction fields with
  | nil => cases hf
  | cons p fields ih =>
    obtain ⟨k', a'⟩ := p
    rw [equalFields, Bool.and_eq_true] at h
    rw [Dict.find] at hf
    by_cases hk : k' = k
    · subst hk
      rw [if_pos rfl] at hf
      cases hf
      cases hb : Dict.find k' fields' with
      | none => simp [hb] at h
      | some b => exact ⟨b, rfl, by simpa [hb] using h.1⟩
    · rw [if_neg hk] at hf
      exact ih h.2 hf

/-- A key of the second is one of the first, which has as many. -/
lemma find_of_equalFields {fields fields' : List (Text × Value)}
    (hn : (fields.map Prod.fst).Nodup) (hlen : fields.length = fields'.length)
    (h : equalFields fields fields' = true) {k : Text} {b : Value}
    (hf : Dict.find k fields' = some b) : ∃ a, Dict.find k fields = some a := by
  have hsub : fields.map Prod.fst ⊆ fields'.map Prod.fst := by
    intro k' hk'
    obtain ⟨⟨_, a⟩, hmem, rfl⟩ := List.mem_map.mp hk'
    obtain ⟨b', hb', -⟩ := find_equalFields h (Dict.find_of_mem hn hmem)
    exact List.mem_map.mpr ⟨_, Dict.mem_of_find hb', rfl⟩
  have hperm : (fields.map Prod.fst).Perm (fields'.map Prod.fst) := by
    refine (hn.subperm hsub).perm_of_length_le ?_
    rw [List.length_map, List.length_map, hlen]
  have hk : k ∈ fields.map Prod.fst :=
    hperm.mem_iff.mpr (List.mem_map.mpr ⟨_, Dict.mem_of_find hf, rfl⟩)
  obtain ⟨⟨_, a⟩, hmem, rfl⟩ := List.mem_map.mp hk
  exact ⟨a, Dict.find_of_mem hn hmem⟩

lemma obj?_entries (d : Dict Text Value) : (Value.obj d.entries).obj? = some d :=
  Dict.ofEntries?_entries d

lemma obj?_eq_some {v : Value} {d : Dict Text Value} (h : v.obj? = some d) :
    v = .obj d.entries := by
  cases v with
  | obj fields =>
    simp only [obj?, Dict.ofEntries?] at h
    split at h
    next =>
      cases h
      rfl
    next => cases h
  | _ => cases h

/-- Equal objects have equal values under every key. -/
lemma get?_of_equal {d e : Dict Text Value} (h : equal (.obj d.entries) (.obj e.entries) = true)
    (k : Text) : (d.get? k = none ∧ e.get? k = none) ∨
      ∃ a b, d.get? k = some a ∧ e.get? k = some b ∧ equal a b = true := by
  obtain ⟨_, hsame, hlen, hfields⟩ := equal_obj h
  cases hsame
  cases hd : d.get? k with
  | some a =>
    obtain ⟨b, hb, hab⟩ := find_equalFields hfields hd
    exact .inr ⟨a, b, rfl, hb, hab⟩
  | none =>
    refine .inl ⟨rfl, ?_⟩
    cases he : e.get? k with
    | none => rfl
    | some b =>
      obtain ⟨a, ha⟩ := find_of_equalFields d.nodup hlen hfields he
      rw [Dict.get?] at hd
      rw [hd] at ha
      cases ha

end Value

end Vauxr.Lib
