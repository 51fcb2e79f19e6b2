import Mathlib.Data.Rat.Defs
import Vauxr.Lib.Dict

/-!
JSON values as a parser hands them over: integers and fractions told apart, the fields of an
object in the order they were read.

The readers return nothing on a value of another shape, and an object is only opened when no
key occurs in it twice.
-/

namespace Vauxr.Lib

inductive Json
  | null
  | bool (b : Bool)
  | int (n : ℤ)
  | float (q : ℚ)
  | str (s : String)
  | arr (items : List Json)
  | obj (fields : List (String × Json))

namespace Json

def str? : Json → Option String
  | .str s => some s
  | _ => none

def bool? : Json → Option Bool
  | .bool b => some b
  | _ => none

def int? : Json → Option ℤ
  | .int n => some n
  | _ => none

/-- A number of either kind. -/
def number? : Json → Option ℚ
  | .int n => some n
  | .float q => some q
  | _ => none

def arr? : Json → Option (List Json)
  | .arr items => some items
  | _ => none

/-- An object as a dictionary; a repeated key is an error. -/
def obj? : Json → Option (Dict String Json)
  | .obj fields => Dict.ofEntries? fields
  | _ => none

/-- What a condition takes for true. -/
def truthy : Json → Bool
  | .null => false
  | .bool b => b
  | .int n => n != 0
  | .float q => q != 0
  | .str s => s != ""
  | .arr items => !items.isEmpty
  | .obj fields => !fields.isEmpty

/-- Whole numbers are written as integers. -/
def number (q : ℚ) : Json := if q.den = 1 then .int q.num else .float q

@[simp] lemma number?_number (q : ℚ) : (number q).number? = some q := by
  unfold number
  split
  · next h => simp [number?, Rat.den_eq_one_iff q |>.mp h]
  · rfl

/-- The keys are exactly the given ones. -/
def hasKeys (d : Dict String Json) (names : List String) : Bool :=
  d.keys.length == names.length && names.all (· ∈ d.keys)

/-- Read every element, failing on the first that does not read. -/
def readList {α : Type} (read : Json → Option α) : List Json → Option (List α)
  | [] => some []
  | j :: rest => do
    let a ← read j
    let l ← readList read rest
    return a :: l

def readEntries {α : Type} (read : Json → Option α) :
    List (String × Json) → Option (List (String × α))
  | [] => some []
  | (k, j) :: rest => do
    let a ← read j
    let l ← readEntries read rest
    return (k, a) :: l

/-- A table whose rows all read. -/
def dict? {α : Type} (read : Json → Option α) (j : Json) : Option (Dict String α) := do
  let d ← j.obj?
  let l ← readEntries read d.entries
  Dict.ofEntries? l

def ofDict {α : Type} (write : α → Json) (d : Dict String α) : Json :=
  .obj (d.entries.map fun e => (e.1, write e.2))

def list? {α : Type} (read : Json → Option α) (j : Json) : Option (List α) := do
  let items ← j.arr?
  readList read items

def ofList {α : Type} (write : α → Json) (l : List α) : Json := .arr (l.map write)

section RoundTrip

variable {α : Type} {read : Json → Option α} {write : α → Json}

lemma readList_map (h : ∀ a, read (write a) = some a) (l : List α) :
    readList read (l.map write) = some l := by
  induction l with
  | nil => rfl
  | cons a l ih => simp [readList, h, ih]

lemma list?_ofList (h : ∀ a, read (write a) = some a) (l : List α) :
    list? read (ofList write l) = some l := by
  simp [list?, ofList, arr?, readList_map h]

lemma readEntries_map (h : ∀ a, read (write a) = some a) (l : List (String × α)) :
    readEntries read (l.map fun e => (e.1, write e.2)) = some l := by
  induction l with
  | nil => rfl
  | cons e l ih => simp [readEntries, h, ih]

lemma obj?_ofDict (write : α → Json) (d : Dict String α) :
    (ofDict write d).obj? = some (d.map fun _ a => write a) :=
  Dict.ofEntries?_entries (d.map fun _ a => write a)

/-- A table reads back when its rows do. -/
lemma dict?_ofDict (h : ∀ a, read (write a) = some a) (d : Dict String α) :
    dict? read (ofDict write d) = some d := by
  have hl : readEntries read (d.map fun _ a => write a).entries = some d.entries :=
    readEntries_map h d.entries
  simp [dict?, obj?_ofDict, hl]

end RoundTrip

end Json

end Vauxr.Lib
