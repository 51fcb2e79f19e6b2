import Mathlib
import Vauxr.Lib.Values

/-!
A value that is written as JSON and read again. A code point outside of ASCII is written as one or
two escapes, and the escapes of a high and a low surrogate are read as one code point, also where
they stood for two. A text in which no high surrogate comes directly before a low one is read back
as it is; what was read back is such a text.
-/

namespace Vauxr.Lib

namespace Text

def highSurrogate (c : CodePoint) : Bool := 0xd800 ≤ c.1 && c.1 ≤ 0xdbff

def lowSurrogate (c : CodePoint) : Bool := 0xdc00 ≤ c.1 && c.1 ≤ 0xdfff

/-- The code point of a high and a low surrogate. -/
def joined (a b : CodePoint) : CodePoint :=
  Fin.ofNat 0x110000 (0x10000 + (a.1 - 0xd800) * 0x400 + (b.1 - 0xdc00))

def readBack : Text → Text
  | a :: b :: t =>
    if highSurrogate a && lowSurrogate b then joined a b :: readBack t else a :: readBack (b :: t)
  | t => t

/-- Reading changes nothing. -/
def Plain (t : Text) : Prop := t.readBack = t

instance (t : Text) : Decidable t.Plain := inferInstanceAs (Decidable (t.readBack = t))

lemma joined_val {a b : CodePoint} (ha : highSurrogate a = true) (hb : lowSurrogate b = true) :
    0xffff < (joined a b).1 := by
  simp only [highSurrogate, lowSurrogate, Bool.and_eq_true, decide_eq_true_eq] at ha hb
  unfold joined
  rw [Fin.val_ofNat, Nat.mod_eq_of_lt (by omega)]
  omega

/-- What was joined is no surrogate. -/
lemma not_surrogate_joined {a b : CodePoint} (ha : highSurrogate a = true)
    (hb : lowSurrogate b = true) :
    highSurrogate (joined a b) = false ∧ lowSurrogate (joined a b) = false := by
  have hval := joined_val ha hb
  simp only [highSurrogate, lowSurrogate, Bool.and_eq_false_iff, decide_eq_false_iff_not]
  omega

lemma readBack_pair {a b : CodePoint} (t : Text)
    (h : (highSurrogate a && lowSurrogate b) = true) :
    readBack (a :: b :: t) = joined a b :: readBack t := by
  rw [readBack, if_pos h]

lemma readBack_cons {a b : CodePoint} (t : Text)
    (h : (highSurrogate a && lowSurrogate b) = false) :
    readBack (a :: b :: t) = a :: readBack (b :: t) := by
  rw [readBack, if_neg (by rw [h]; decide)]

/-- A text that is not read back as it is has become shorter. -/
lemma readBack_length (t : Text) : t.Plain ∨ t.readBack.length < t.length := by
  induction t using readBack.induct with
  | case1 a b t h ih =>
    right
    rw [readBack_pair t h]
    rcases ih with ih | ih
    · rw [ih]
      simp
    · simp only [List.length_cons]
      omega
  | case2 a b t h ih =>
    rw [Bool.not_eq_true] at h
    unfold Plain
    rw [readBack_cons t h]
    rcases ih with ih | ih
    · exact .inl (congrArg (a :: ·) ih)
    · right
      simpa using ih
  | case3 t h =>
    left
    unfold Plain
    rw [readBack]
    exact h

/-- No high surrogate comes directly before a low one. -/
def Apart (a b : CodePoint) : Prop := (highSurrogate a && lowSurrogate b) = false

lemma plain_iff (t : Text) : t.Plain ↔ t.IsChain Apart := by
  induction t using readBack.induct with
  | case1 a b t h ih =>
    refine iff_of_false (fun hplain => ?_) fun hchain => ?_
    · have hlength := congrArg List.length hplain
      rw [readBack_pair t h] at hlength
      rcases readBack_length t with hsame | hless
      · rw [hsame] at hlength
        simp at hlength
      · simp only [List.length_cons] at hlength
        omega
    · rw [List.isChain_cons_cons] at hchain
      rw [hchain.1] at h
      cases h
  | case2 a b t h ih =>
    rw [Bool.not_eq_true] at h
    unfold Plain
    rw [readBack_cons t h, List.isChain_cons_cons, ← ih]
    exact ⟨fun hplain => ⟨h, List.tail_eq_of_cons_eq hplain⟩,
      fun hchain => congrArg (a :: ·) hchain.2⟩
  | case3 t h =>
    refine iff_of_true ?_ ?_
    · unfold Plain
      rw [readBack]
      exact h
    · cases t with
      | nil => exact List.isChain_nil
      | cons a t =>
        cases t with
        | nil => exact List.isChain_singleton a
        | cons b t => exact absurd rfl (h a b t)

/-- The first of what is read is the first, or no surrogate. -/
lemma head_readBack {t : Text} {c : CodePoint} (h : c ∈ t.readBack.head?)
    (hc : lowSurrogate c = true) : c ∈ t.head? := by
  induction t using readBack.induct with
  | case1 a b t hab ih =>
    rw [readBack_pair t hab, List.head?_cons, Option.mem_some] at h
    rw [Bool.and_eq_true] at hab
    rw [← h, (not_surrogate_joined hab.1 hab.2).2] at hc
    cases hc
  | case2 a b t hab ih =>
    rw [Bool.not_eq_true] at hab
    rwa [readBack_cons t hab] at h
  | case3 t ht =>
    rwa [readBack] at h
    exact ht

/-- What was read back is read back as it is. -/
lemma plain_readBack (t : Text) : t.readBack.Plain := by
  rw [plain_iff]
  induction t using readBack.induct with
  | case1 a b t h ih =>
    rw [readBack_pair t h, List.isChain_cons]
    rw [Bool.and_eq_true] at h
    refine ⟨fun c _ => ?_, ih⟩
    unfold Apart
    rw [(not_surrogate_joined h.1 h.2).1]
    rfl
  | case2 a b t h ih =>
    rw [Bool.not_eq_true] at h
    rw [readBack_cons t h, List.isChain_cons]
    refine ⟨fun c hc => ?_, ih⟩
    cases hlow : lowSurrogate c
    · unfold Apart
      rw [hlow, Bool.and_false]
    · have hfirst := head_readBack hc hlow
      rw [List.head?_cons, Option.mem_some] at hfirst
      exact hfirst ▸ h
  | case3 t h =>
    have hplain : t.Plain := by
      unfold Plain
      rw [readBack]
      exact h
    rw [hplain]
    exact (plain_iff t).mp hplain

lemma Plain.part {t t' : Text} (h : t.Plain) (ht : t' <:+: t) : t'.Plain := by
  obtain ⟨before, later, rfl⟩ := ht
  exact (plain_iff t').mpr ((plain_iff _).mp h).left_of_append.right_of_append

lemma Plain.strip {t : Text} (h : t.Plain) : t.strip.Plain :=
  h.part ((List.rdropWhile_prefix _ _).isInfix.trans (List.dropWhile_suffix _).isInfix)

lemma strip_length (t : Text) : t.strip.length ≤ t.length :=
  ((List.rdropWhile_prefix _ _).length_le).trans (List.dropWhile_suffix _).length_le

/-- A text that stands after reading and stripping was read back as it is. -/
lemma plain_of_strip {t : Text} (h : t.readBack.strip = t) : t.Plain := by
  rcases readBack_length t with hplain | hless
  · exact hplain
  · have hlength := strip_length t.readBack
    rw [h] at hlength
    omega

end Text

/-- A string has no surrogates. -/
lemma plain_text (s : String) : (text s).Plain := by
  have hnone : ∀ a ∈ text s, Text.highSurrogate a = false := by
    intro a ha
    obtain ⟨c, -, rfl⟩ := List.mem_map.mp ha
    have hvalid : c.toNat < 0xd800 ∨ 0xdfff < c.toNat ∧ c.toNat < 0x110000 := c.valid
    have hval : (Fin.ofNat 0x110000 c.toNat).1 = c.toNat := by
      rw [Fin.val_ofNat, Nat.mod_eq_of_lt (by omega)]
    simp only [Text.highSurrogate, hval, Bool.and_eq_false_iff, decide_eq_false_iff_not]
    omega
  rw [Text.plain_iff]
  refine (List.pairwise_of_forall_mem_list fun a ha b _ => ?_).isChain
  unfold Text.Apart
  rw [hnone a ha]
  rfl

@[simp] lemma readBack_text (s : String) : (text s).readBack = text s := plain_text s

namespace Value

mutual

/-- What `json.loads` makes of what `json.dump` writes. -/
def readBack : Value → Value
  | .str t => .str t.readBack
  | .arr items => .arr (readBackItems items)
  | .obj fields => .obj (readBackFields fields)
  | .null => .null
  | .bool b => .bool b
  | .int n => .int n
  | .float q => .float q

def readBackItems : List Value → List Value
  | [] => []
  | v :: items => readBack v :: readBackItems items

def readBackFields : List (Text × Value) → List (Text × Value)
  | [] => []
  | (k, v) :: fields => (k.readBack, readBack v) :: readBackFields fields

end

def Plain (v : Value) : Prop := v.readBack = v

mutual

/-- What was read back is read back as it is. -/
lemma plain_readBack : ∀ v : Value, v.readBack.Plain
  | .str t => congrArg Value.str (Text.plain_readBack t)
  | .arr items => congrArg Value.arr (plain_readBackItems items)
  | .obj fields => congrArg Value.obj (plain_readBackFields fields)
  | .null | .bool _ | .int _ | .float _ => rfl

lemma plain_readBackItems : ∀ items : List Value,
    readBackItems (readBackItems items) = readBackItems items
  | [] => rfl
  | v :: items => congrArg₂ List.cons (plain_readBack v) (plain_readBackItems items)

lemma plain_readBackFields : ∀ fields : List (Text × Value),
    readBackFields (readBackFields fields) = readBackFields fields
  | [] => rfl
  | (k, v) :: fields => congrArg₂ List.cons
    (Prod.ext (Text.plain_readBack k) (plain_readBack v)) (plain_readBackFields fields)

end

lemma readBackFields_eq (fields : List (Text × Value)) :
    readBackFields fields = fields.map fun e => (e.1.readBack, e.2.readBack) := by
  induction fields with
  | nil => rfl
  | cons e fields ih =>
    obtain ⟨k, v⟩ := e
    rw [readBackFields, ih]
    rfl

lemma plain_str {t : Text} : (Value.str t).Plain ↔ t.Plain := by
  simp only [Plain, readBack, Value.str.injEq, Text.Plain]

lemma plain_obj {fields : List (Text × Value)} :
    (Value.obj fields).Plain ↔ ∀ k v, (k, v) ∈ fields → k.Plain ∧ v.Plain := by
  simp only [Plain, readBack, Value.obj.injEq, readBackFields_eq]
  induction fields with
  | nil => simp
  | cons e fields ih =>
    obtain ⟨k, v⟩ := e
    rw [List.map_cons, List.cons.injEq, ih, Prod.mk.injEq]
    constructor
    · rintro ⟨hfirst, hrest⟩ k' v' hmem
      rcases List.mem_cons.mp hmem with heq | hmem
      · cases heq
        exact hfirst
      · exact hrest k' v' hmem
    · intro hall
      exact ⟨hall k v List.mem_cons_self, fun k' v' hmem =>
        hall k' v' (List.mem_cons_of_mem _ hmem)⟩

/-- An object is read back with the same keys. -/
lemma obj?_readBack {v : Value} {d : Dict Text Value} (h : v.obj? = some d)
    (hkeys : ∀ k ∈ d.keys, k.Plain) :
    v.readBack.obj? = some (d.map fun _ v => v.readBack) := by
  have hfields : readBackFields d.entries = (d.map fun _ v => v.readBack).entries := by
    rw [readBackFields_eq]
    refine List.map_congr_left fun e he => ?_
    rw [(hkeys e.1 (List.mem_map_of_mem he) : e.1.readBack = e.1)]
  rw [obj?_eq_some h, readBack, hfields, obj?_entries]

end Value

/-- The keys and values of an object that is read back as it is. -/
def Dict.Plain (d : Dict Text Value) : Prop := ∀ k v, d.get? k = some v → k.Plain ∧ v.Plain

namespace Dict.Plain

variable {d : Dict Text Value} {k : Text} {v : Value}

lemma obj_iff : (Value.obj d.entries).Plain ↔ d.Plain := by
  rw [Value.plain_obj]
  exact forall₂_congr fun k v => by rw [Dict.mem_entries]

lemma of_obj (h : v.Plain) (hd : v.obj? = some d) : d.Plain := by
  rw [Value.obj?_eq_some hd] at h
  exact obj_iff.mp h

lemma set (h : d.Plain) (hk : k.Plain) (hv : v.Plain) : (d.set k v).Plain := by
  intro k' v' hget
  rw [Dict.get?_set] at hget
  split at hget
  next heq =>
    cases hget
    exact ⟨heq ▸ hk, hv⟩
  next => exact h k' v' hget

lemma erase (h : d.Plain) : (d.erase k).Plain := by
  intro k' v' hget
  rw [Dict.get?_erase] at hget
  split at hget
  · cases hget
  · exact h k' v' hget

end Dict.Plain

end Vauxr.Lib
