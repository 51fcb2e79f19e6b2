import Mathlib
import Vauxr.Lib.Text

/-!
Numbers as texts in a base of at most sixteen, without leading zeros, and the values of such texts.
-/

namespace Vauxr.Lib

instance CodePoint.lawfulBEq : LawfulBEq CodePoint where
  eq_of_beq h := of_decide_eq_true h
  rfl := decide_eq_true rfl

/-- The code point of a character. -/
def ch (c : Char) : CodePoint := Fin.ofNat 0x110000 c.toNat

def digitChar (d : ℕ) : CodePoint := Fin.ofNat 0x110000 (if d < 10 then 48 + d else 87 + d)

/-- The value of a digit, of either case. -/
def digit? (c : CodePoint) : Option ℕ :=
  if 48 ≤ c.1 ∧ c.1 ≤ 57 then some (c.1 - 48)
  else if 97 ≤ c.1 ∧ c.1 ≤ 102 then some (c.1 - 87)
  else if 65 ≤ c.1 ∧ c.1 ≤ 70 then some (c.1 - 55)
  else none

/-- A number as its digits. -/
def digits (b n : ℕ) : Text :=
  if n = 0 then [digitChar 0] else (b.digits n).reverse.map digitChar

/-- The number that a text is the digits of. -/
def number? (b : ℕ) (t : Text) : Option ℕ := (t.reverse.mapM digit?).map (Nat.ofDigits b)

def isDecimal (c : CodePoint) : Bool := decide (48 ≤ c.1 ∧ c.1 ≤ 57)

/-- A digit as `%x` writes it. -/
def isLowerHex (c : CodePoint) : Bool := isDecimal c || decide (97 ≤ c.1 ∧ c.1 ≤ 102)

section

variable {b : ℕ}

lemma digitChar_val {d : ℕ} (hd : d < 16) :
    (digitChar d).1 = if d < 10 then 48 + d else 87 + d := by
  unfold digitChar
  rw [Fin.val_ofNat, Nat.mod_eq_of_lt]
  split <;> omega

lemma digit?_digitChar {d : ℕ} (hd : d < 16) : digit? (digitChar d) = some d := by
  have hval := digitChar_val hd
  unfold digit?
  by_cases hten : d < 10
  · rw [if_pos hten] at hval
    rw [if_pos (by omega), hval]
    exact congrArg some (by omega)
  · rw [if_neg hten] at hval
    rw [if_neg (by omega), if_pos (by omega), hval]
    exact congrArg some (by omega)

lemma mapM_digit? (l : List ℕ) (hl : ∀ d ∈ l, d < 16) : (l.map digitChar).mapM digit? = some l := by
  induction l with
  | nil => rfl
  | cons d l ih =>
    rw [List.map_cons, List.mapM_cons, digit?_digitChar (hl d List.mem_cons_self),
      ih fun e he => hl e (List.mem_cons_of_mem _ he)]
    rfl

/-- **A number reads back from its digits.** -/
theorem number?_digits (hb : 1 < b) (hb16 : b ≤ 16) (n : ℕ) : number? b (digits b n) = some n := by
  unfold digits number?
  split
  next hn =>
    subst hn
    rw [List.reverse_singleton, List.mapM_cons, digit?_digitChar (by omega)]
    simp [Nat.ofDigits]
  next =>
    rw [← List.map_reverse, List.reverse_reverse, mapM_digit?]
    · rw [Option.map_some, Nat.ofDigits_digits]
    · intro d hd
      exact (Nat.digits_lt_base hb hd).trans_le hb16

lemma digits_ne_nil (b n : ℕ) : digits b n ≠ [] := by
  unfold digits
  split
  · exact List.cons_ne_nil _ _
  next hn => simpa [Nat.digits_ne_nil_iff_ne_zero] using hn

/-- Every character of the digits is a digit of the base. -/
lemma exists_digit (hb : 1 < b) {n : ℕ} {c : CodePoint} (hc : c ∈ digits b n) :
    ∃ d < b, c = digitChar d := by
  unfold digits at hc
  split at hc
  · rw [List.mem_singleton] at hc
    exact ⟨0, by omega, hc⟩
  · obtain ⟨d, hd, rfl⟩ := List.mem_map.mp hc
    exact ⟨d, Nat.digits_lt_base hb (List.mem_reverse.mp hd), rfl⟩

lemma isDecimal_of_mem {n : ℕ} {c : CodePoint} (hc : c ∈ digits 10 n) : isDecimal c = true := by
  obtain ⟨d, hd, rfl⟩ := exists_digit (by omega) hc
  have hval := digitChar_val (d := d) (by omega)
  rw [if_pos hd] at hval
  exact decide_eq_true (by omega)

lemma isLowerHex_of_mem {n : ℕ} {c : CodePoint} (hc : c ∈ digits 16 n) : isLowerHex c = true := by
  obtain ⟨d, hd, rfl⟩ := exists_digit (by omega) hc
  have hval := digitChar_val hd
  unfold isLowerHex isDecimal
  rw [Bool.or_eq_true, decide_eq_true_iff, decide_eq_true_iff]
  split at hval
  · left
    omega
  · right
    omega

/-- A number below a power of the base has at most as many digits. -/
lemma length_digits_le (hb : 1 < b) {n k : ℕ} (hk : 0 < k) (hn : n < b ^ k) :
    (digits b n).length ≤ k := by
  unfold digits
  split
  · exact hk
  · rw [List.length_map, List.length_reverse]
    exact (Nat.digits_length_le_iff hb n).mpr hn

/-- Only the digits of zero begin with a zero. -/
lemma head_digits (hb : 1 < b) (hb16 : b ≤ 16) {n : ℕ} (hn : n ≠ 0) :
    (digits b n).head? ≠ some (ch '0') := by
  have hne : b.digits n ≠ [] := Nat.digits_ne_nil_iff_ne_zero.mpr hn
  have hlast : (b.digits n).getLast hne ≠ 0 := Nat.getLast_digit_ne_zero b hn
  have hlt : (b.digits n).getLast hne < b := Nat.digits_lt_base hb (List.getLast_mem hne)
  intro hzero
  unfold digits at hzero
  rw [if_neg hn, List.head?_map, List.head?_reverse, List.getLast?_eq_some_getLast hne] at hzero
  have hchar : digitChar ((b.digits n).getLast hne) = ch '0' := Option.some.inj hzero
  have hval := digitChar_val (hlt.trans_le hb16)
  rw [hchar] at hval
  have hzeroVal : (ch '0').1 = 48 := rfl
  rw [hzeroVal] at hval
  split at hval
  · omega
  · omega

end

end Vauxr.Lib
