import Mathlib
import Vauxr.Lib.Json

/-!
Text as sequences of code points, lone surrogates included, and JSON values over it.

Stripping removes white space at both ends; a stripped text strips to itself.
-/

namespace Vauxr.Lib

abbrev CodePoint := Fin 0x110000

abbrev Text := List CodePoint

instance CodePoint.neZero : NeZero 0x110000 := ⟨by decide⟩

instance Text.lawfulBEq : LawfulBEq Text := inferInstance

/-- The text of a string. -/
def text (s : String) : Text := s.toList.map fun c => Fin.ofNat 0x110000 c.toNat

namespace Text

def isSpace (c : CodePoint) : Bool :=
  (9 ≤ c.1 && c.1 ≤ 13) || (28 ≤ c.1 && c.1 ≤ 32) || c.1 = 0x85 || c.1 = 0xa0 || c.1 = 0x1680 ||
    (0x2000 ≤ c.1 && c.1 ≤ 0x200a) || c.1 = 0x2028 || c.1 = 0x2029 || c.1 = 0x202f ||
    c.1 = 0x205f || c.1 = 0x3000

/-- Without the white space at both ends. -/
def strip (t : Text) : Text := (t.dropWhile isSpace).rdropWhile isSpace

/-- The length in UTF-16, where a code point of an upper plane takes two units. -/
def utf16Length (t : Text) : ℕ := (t.map fun c => if 0xffff < c.1 then 2 else 1).sum

lemma dropWhile_rdropWhile {p : CodePoint → Bool} {l : Text} (h : l.dropWhile p = l) :
    (l.rdropWhile p).dropWhile p = l.rdropWhile p := by
  rw [List.dropWhile_eq_self_iff] at h ⊢
  intro hl
  have hpre := List.rdropWhile_prefix p (l := l)
  have h0 : 0 < l.length := hl.trans_le hpre.length_le
  have hget : (l.rdropWhile p)[0] = l[0] := hpre.getElem hl
  rw [hget]
  exact h h0

lemma strip_strip (t : Text) : strip (strip t) = strip t := by
  unfold strip
  have hd : (t.dropWhile isSpace).dropWhile isSpace = t.dropWhile isSpace :=
    List.dropWhile_idempotent isSpace t
  rw [dropWhile_rdropWhile hd, List.rdropWhile_idempotent]

end Text

/-- JSON values over texts. -/
inductive Value
  | null
  | bool (b : Bool)
  | int (n : ℤ)
  | float (q : ℚ)
  | str (t : Text)
  | arr (items : List Value)
  | obj (fields : List (Text × Value))

namespace Value

def str? : Value → Option Text
  | .str t => some t
  | _ => none

def bool? : Value → Option Bool
  | .bool b => some b
  | _ => none

def int? : Value → Option ℤ
  | .int n => some n
  | _ => none

/-- An object as a dictionary; a repeated key is an error. -/
def obj? : Value → Option (Dict Text Value)
  | .obj fields => Dict.ofEntries? fields
  | _ => none

end Value

end Vauxr.Lib
