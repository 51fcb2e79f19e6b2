import Mathlib
import Vauxr.Lib.Json

/-!
Equality of JSON values as a program compares them: objects by their keys, whatever the order,
numbers by their value.
-/

namespace Vauxr.Lib

namespace Json

/-- The number that a value counts as in a comparison. -/
def numeric? : Json → Option ℚ
  | .bool b => some (if b then 1 else 0)
  | .int n => some n
  | .float q => some q
  | _ => none

mutual

/-- `==`: objects are compared by their keys, numbers by their value. -/
def equal : Json → Json → Bool
  | .null, .null => true
  | .str a, .str b => a == b
  | .arr a, .arr b => equalItems a b
  | .obj a, .obj b => a.length == b.length && equalFields a b
  | a, b =>
    match a.numeric?, b.numeric? with
    | some x, some y => x == y
    | _, _ => false

def equalItems : List Json → List Json → Bool
  | [], [] => true
  | a :: as, b :: bs => equal a b && equalItems as bs
  | _, _ => false

def equalFields : List (String × Json) → List (String × Json) → Bool
  | [], _ => true
  | (k, a) :: as, bs =>
    (match Dict.find k bs with
      | some b => equal a b
      | none => false) && equalFields as bs

end

lemma equal_str {s : String} {j : Json} (h : equal (.str s) j = true) : j = .str s := by
  cases j <;> simp [equal, numeric?] at h
  rw [h]

lemma equal_bool {b b' : Bool} (h : equal (.bool b) (.bool b') = true) : b' = b := by
  cases b <;> cases b' <;> simp [equal, numeric?] at h <;> rfl

lemma equal_arr {items : List Json} {j : Json} (h : equal (.arr items) j = true) :
    ∃ items', j = .arr items' ∧ equalItems items items' = true := by
  cases j <;> simp [equal, numeric?] at h
  exact ⟨_, rfl, h⟩

lemma equal_obj {fields : List (String × Json)} {j : Json} (h : equal (.obj fields) j = true) :
    ∃ fields', j = .obj fields' ∧ fields.length = fields'.length ∧
      equalFields fields fields' = true := by
  cases j <;> simp [equal, numeric?] at h
  exact ⟨_, rfl, h⟩

lemma equalFields_cons {k : String} {a : Json} {as bs : List (String × Json)}
    (h : equalFields ((k, a) :: as) bs = true) :
    (∃ b, Dict.find k bs = some b ∧ equal a b = true) ∧ equalFields as bs = true := by
  rw [equalFields, Bool.and_eq_true] at h
  refine ⟨?_, h.2⟩
  cases hf : Dict.find k bs with
  | none => simp [hf] at h
  | some b => exact ⟨b, rfl, by simpa [hf] using h.1⟩

end Json

end Vauxr.Lib
