import Mathlib

/-!
A directory on a disk that can lose its power.

What a program writes is read by all others at once, and kept only once it has been flushed: until
then a file can come out of a power cut with any content, and a name with any of the files that it
led to since the directory was flushed.
-/

namespace Vauxr.Lib

/-- A file, and whether all that was written to it has reached the disk. -/
structure Inode (τ : Type) where
  content : List τ
  flushed : Bool
  deriving DecidableEq

structure Disk (κ τ : Type) where
  files : ℕ → Inode τ
  /-- The number of the next file. -/
  next : ℕ
  entry : κ → Option ℕ
  /-- What a name has led to since the directory was flushed, the latest first. -/
  older : κ → List (Option ℕ)

namespace Disk

variable {κ τ : Type}

/-- What a name can lead to after a power cut, the present entry first. -/
def entries (d : Disk κ τ) (k : κ) : List (Option ℕ) := d.entry k :: d.older k

/-- The content under a name. -/
def read (d : Disk κ τ) (k : κ) : Option (List τ) := (d.entry k).map fun i => (d.files i).content

def link [DecidableEq κ] (d : Disk κ τ) (k : κ) (i : Option ℕ) : Disk κ τ :=
  { d with
    entry := Function.update d.entry k i
    older := Function.update d.older k (d.entries k) }

def create [DecidableEq κ] (d : Disk κ τ) (k : κ) : Disk κ τ :=
  { d.link k (some d.next) with
    files := Function.update d.files d.next ⟨[], false⟩
    next := d.next + 1 }

def append (d : Disk κ τ) (i : ℕ) (s : List τ) : Disk κ τ :=
  { d with files := Function.update d.files i ⟨(d.files i).content ++ s, false⟩ }

/-- `fsync` of a file. -/
def flush (d : Disk κ τ) (i : ℕ) : Disk κ τ :=
  { d with files := Function.update d.files i { d.files i with flushed := true } }

def rename [DecidableEq κ] (d : Disk κ τ) (k k' : κ) : Disk κ τ :=
  (d.link k' (d.entry k)).link k none

def unlink [DecidableEq κ] (d : Disk κ τ) (k : κ) : Disk κ τ := d.link k none

/-- `fsync` of the directory. -/
def flushDirectory (d : Disk κ τ) : Disk κ τ := { d with older := fun _ => [] }

/-- The power is cut: each name leads to one of the files that it may lead to, those not flushed
hold anything, and whatever is on the disk then has been kept. -/
def cut (d : Disk κ τ) (left : κ → ℕ) (torn : ℕ → List τ) : Disk κ τ :=
  { d with
    files := fun i => if (d.files i).flushed then d.files i else ⟨torn i, true⟩
    entry := fun k => (d.entries k).getD (left k) (d.entry k)
    older := fun _ => [] }

/-- How many entries of a name a power cut takes back. -/
def lost (d : Disk κ τ) (left : κ → ℕ) (k : κ) : ℕ :=
  if left k < (d.entries k).length then left k else 0

lemma lost_le (d : Disk κ τ) (left : κ → ℕ) (k : κ) : d.lost left k ≤ (d.older k).length := by
  unfold lost
  split
  · next h => exact Nat.le_of_lt_succ h
  · exact Nat.zero_le _

lemma entries_lost (d : Disk κ τ) (left : κ → ℕ) (torn : ℕ → List τ) (k : κ) :
    (d.entries k)[d.lost left k]? = some ((d.cut left torn).entry k) := by
  show _ = some ((d.entries k).getD (left k) (d.entry k))
  unfold lost
  split
  · next h => simp [h]
  · next h =>
    rw [List.getD_eq_default _ _ (not_lt.mp h)]
    rfl

section Entries

variable [DecidableEq κ] {d : Disk κ τ} {k k' : κ}

@[simp] lemma entry_link (i : Option ℕ) (k k' : κ) :
    (d.link k i).entry k' = if k' = k then i else d.entry k' := Function.update_apply _ _ _ _

@[simp] lemma entries_link (i : Option ℕ) (k k' : κ) :
    (d.link k i).entries k' = if k' = k then i :: d.entries k else d.entries k' := by
  unfold entries link
  by_cases h : k' = k
  · subst h
    simp [entries]
  · simp [h]

@[simp] lemma files_link (i : Option ℕ) : (d.link k i).files = d.files := rfl

@[simp] lemma next_link (i : Option ℕ) : (d.link k i).next = d.next := rfl

lemma entries_rename (h : k' ≠ k) : (d.rename k' k).entries k = d.entry k' :: d.entries k := by
  simp [rename, h.symm]

lemma entries_create (h : k' ≠ k) : (d.create k').entries k = d.entries k := by
  show (d.link k' _).entries k = _
  simp [h.symm]

lemma entries_unlink (h : k' ≠ k) : (d.unlink k').entries k = d.entries k := by
  simp [unlink, h.symm]

end Entries

/-! ### A file that is only ever replaced as a whole -/

/-- Whatever `k` can lead to is a whole file, with the first contents of `held` in their order. -/
structure Keeps (d : Disk κ τ) (k : κ) (held : List (Option (List τ))) : Prop where
  whole : (d.entries k).map (Option.map d.files) <+:
    held.map (Option.map fun content => ⟨content, true⟩)
  lt : ∀ i, some i ∈ d.entries k → i < d.next

namespace Keeps

variable {d d' : Disk κ τ} {k k' : κ} {held : List (Option (List τ))}

/-- Nothing changes but what `k` cannot lead to. -/
lemma congr (h : Keeps d k held) (he : d'.entries k = d.entries k)
    (hf : ∀ i, some i ∈ d.entries k → d'.files i = d.files i) (hn : d.next ≤ d'.next) :
    Keeps d' k held where
  whole := by
    have hmap : (d.entries k).map (Option.map d'.files) =
        (d.entries k).map (Option.map d.files) := by
      refine List.map_congr_left fun e he => ?_
      cases e with
      | none => rfl
      | some i => exact congrArg some (hf i he)
    rw [he, hmap]
    exact h.whole
  lt i hi := (h.lt i (he ▸ hi)).trans_le hn

lemma flushDirectory (h : Keeps d k held) : Keeps d.flushDirectory k held where
  whole := (List.prefix_append [_] _).trans h.whole
  lt i hi := h.lt i (List.mem_cons.mpr (Or.inl (List.mem_singleton.mp hi)))

/-- A power cut takes back what has not been flushed, and leaves a whole file. -/
lemma cut (h : Keeps d k held) (left : κ → ℕ) (torn : ℕ → List τ) :
    Keeps (d.cut left torn) k (held.drop (d.lost left k)) := by
  have he := d.entries_lost left torn k
  have hentry : (d.cut left torn).entries k = [(d.cut left torn).entry k] := rfl
  generalize (d.cut left torn).entry k = e at he hentry
  generalize d.lost left k = n at he
  have hmem := List.mem_of_getElem? he
  obtain ⟨c, hc, hce⟩ : ∃ c, held[n]? = some c ∧
      e.map d.files = c.map fun content => ⟨content, true⟩ := by
    obtain ⟨rest, hrest⟩ := h.whole
    have hlt : n < ((d.entries k).map (Option.map d.files)).length := by
      rw [List.length_map]
      exact (List.getElem?_eq_some_iff.mp he).1
    have hget : ((d.entries k).map (Option.map d.files) ++ rest)[n]? =
        ((d.entries k).map (Option.map d.files))[n]? := List.getElem?_append_left hlt
    rw [hrest, List.getElem?_map, List.getElem?_map, he, Option.map_some] at hget
    obtain ⟨c, hc, hce⟩ := Option.map_eq_some_iff.mp hget
    exact ⟨c, hc, hce.symm⟩
  refine ⟨?_, fun i hi => h.lt i ?_⟩
  · have hkept : e.map (d.cut left torn).files = e.map d.files := by
      cases e with
      | none => rfl
      | some i =>
        cases c with
        | none => cases hce
        | some content =>
          have hf : d.files i = ⟨content, true⟩ := Option.some.inj hce
          simp [Disk.cut, hf]
    obtain ⟨hlt, hget⟩ := List.getElem?_eq_some_iff.mp hc
    rw [hentry, List.map_singleton, hkept, hce, List.drop_eq_getElem_cons hlt, hget,
      List.map_cons]
    exact List.prefix_append [_] _
  · rw [hentry, List.mem_singleton] at hi
    exact hi ▸ hmem

/-- What is read is what was put there last. -/
lemma read (h : Keeps d k held) : held.head? = some (d.read k) := by
  obtain ⟨rest, hrest⟩ := h.whole
  cases held with
  | nil => simp [entries] at hrest
  | cons c held =>
    have hc := (List.cons.inj hrest).1
    rw [List.head?_cons, Disk.read]
    congr 1
    cases he : d.entry k with
    | none =>
      rw [he] at hc
      cases c with
      | none => rfl
      | some content => cases hc
    | some i =>
      rw [he] at hc
      cases c with
      | none => cases hc
      | some content =>
        have hf : d.files i = ⟨content, true⟩ := Option.some.inj hc
        rw [Option.map_some, hf]

lemma append (h : Keeps d k held) {i : ℕ} (hi : some i ∉ d.entries k) (s : List τ) :
    Keeps (d.append i s) k held := by
  refine h.congr rfl (fun j hj => ?_) le_rfl
  exact Function.update_of_ne (fun he : j = i => hi (he ▸ hj)) _ _

lemma flush (h : Keeps d k held) {i : ℕ} (hi : some i ∉ d.entries k) :
    Keeps (d.flush i) k held := by
  refine h.congr rfl (fun j hj => ?_) le_rfl
  exact Function.update_of_ne (fun he : j = i => hi (he ▸ hj)) _ _

section Rewrites

variable [DecidableEq κ]

lemma create (h : Keeps d k held) (hk : k' ≠ k) : Keeps (d.create k') k held := by
  refine h.congr (entries_create hk) (fun i hi => ?_) (Nat.le_succ _)
  exact Function.update_of_ne (h.lt i hi).ne _ _

lemma unlink (h : Keeps d k held) (hk : k' ≠ k) : Keeps (d.unlink k') k held :=
  h.congr (entries_unlink hk) (fun _ _ => rfl) le_rfl

/-- A file that has been flushed takes the name over. -/
lemma rename (h : Keeps d k held) (hk : k' ≠ k) {i : ℕ} {content : List τ}
    (he : d.entry k' = some i) (hf : d.files i = ⟨content, true⟩) (hi : i < d.next) :
    Keeps (d.rename k' k) k (some content :: held) where
  whole := by
    rw [entries_rename hk, he, List.map_cons, List.map_cons, Option.map_some, Option.map_some,
      show (d.rename k' k).files = d.files from rfl, hf, List.prefix_cons_inj]
    exact h.whole
  lt j hj := by
    rw [entries_rename hk, he, List.mem_cons, Option.some.injEq] at hj
    rcases hj with rfl | hj
    · exact hi
    · exact h.lt j hj

end Rewrites

end Keeps

end Disk

end Vauxr.Lib
