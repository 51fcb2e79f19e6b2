import Mathlib
import Vauxr.Lib.Digits

/-!
Internet addresses as texts: what the `ipaddress` module of Python 3.12 reads and writes.

An address is written in one way only, and what is written reads back as the same address.
-/

namespace Vauxr.Lib

/-- `partition`: what stands before the first separator, whether there is one, and what stands
behind it. -/
def partition (sep : CodePoint) (t : Text) : Text × Bool × Text :=
  (t.takeWhile (· ≠ sep), sep ∈ t, (t.dropWhile (· ≠ sep)).tail)

def join (sep : CodePoint) (parts : List Text) : Text := [sep].intercalate parts

lemma partition_of_not_mem {sep : CodePoint} {t : Text} (h : sep ∉ t) :
    partition sep t = (t, false, []) := by
  have hne : ∀ c ∈ t, (decide (c ≠ sep)) = true := by
    intro c hc
    rw [decide_eq_true_iff]
    rintro rfl
    exact h hc
  unfold partition
  rw [List.takeWhile_eq_self_iff.mpr hne, List.dropWhile_eq_nil_iff.mpr hne, decide_eq_false h]
  rfl

lemma partition_append {sep : CodePoint} {t : Text} (h : sep ∉ t) (rest : Text) :
    partition sep (t ++ sep :: rest) = (t, true, rest) := by
  have hne : ∀ c ∈ t, (decide (c ≠ sep)) = true := by
    intro c hc
    rw [decide_eq_true_iff]
    rintro rfl
    exact h hc
  unfold partition
  rw [List.takeWhile_append_of_pos hne, List.dropWhile_append_of_pos hne]
  simp

lemma mem_join {sep c : CodePoint} {parts : List Text} (h : c ∈ join sep parts) :
    c = sep ∨ ∃ p ∈ parts, c ∈ p := by
  unfold join at h
  induction parts with
  | nil => cases h
  | cons p parts ih =>
    cases parts with
    | nil =>
      rw [List.intercalate_singleton] at h
      exact .inr ⟨p, List.mem_cons_self, h⟩
    | cons q parts =>
      rw [List.intercalate_cons_cons, List.append_assoc, List.mem_append, List.singleton_append,
        List.mem_cons] at h
      rcases h with h | h | h
      · exact .inr ⟨p, List.mem_cons_self, h⟩
      · exact .inl h
      · rcases ih h with h | ⟨p', hp', hc⟩
        · exact .inl h
        · exact .inr ⟨p', List.mem_cons_of_mem _ hp', hc⟩

lemma not_mem_join {sep c : CodePoint} {parts : List Text} (hne : c ≠ sep)
    (hparts : ∀ p ∈ parts, c ∉ p) : c ∉ join sep parts := by
  intro h
  rcases mem_join h with h | ⟨p, hp, hc⟩
  · exact hne h
  · exact hparts p hp hc

/-! ### Addresses -/

/-- An address of version 4, or one of version 6 with what stands behind its percent sign. -/
inductive Address
  | four (octets : {l : List (Fin 256) // l.length = 4})
  | six (hextets : {l : List (Fin 65536) // l.length = 8}) (scope : Option Text)

/-- `_parse_octet`. -/
def octet? (t : Text) : Option (Fin 256) :=
  if t ≠ [] ∧ t.all isDecimal ∧ t.length ≤ 3 ∧ (t ≠ [ch '0'] → t.head? ≠ some (ch '0')) then
    (number? 10 t).bind fun n => if h : n < 256 then some ⟨n, h⟩ else none
  else none

def octets? (t : Text) : Option {l : List (Fin 256) // l.length = 4} :=
  ((t.splitOn (ch '.')).mapM octet?).bind fun l => if h : l.length = 4 then some ⟨l, h⟩ else none

/-- `_parse_hextet`. -/
def hextet? (t : Text) : Option (Fin 65536) :=
  if t ≠ [] ∧ t.length ≤ 4 then
    (number? 16 t).bind fun n => if h : n < 65536 then some ⟨n, h⟩ else none
  else none

/-- A last part in dotted decimal stands for two hextets. -/
def expandFour (parts : List Text) : Option (List Text) :=
  if ch '.' ∈ parts.getLastD [] then
    (octets? (parts.getLastD [])).map fun octets =>
      match octets.1 with
      | [a, b, c, d] =>
        parts.dropLast ++ [digits 16 (a.1 * 256 + b.1), digits 16 (c.1 * 256 + d.1)]
      | _ => parts
  else some parts

/-- The parts before and behind the one empty part between the ends, if there is one; an end may
be empty only next to it. -/
def skip (parts : List Text) : Option (List Text × Option (List Text)) :=
  let first := parts.headD []
  let last := parts.getLastD []
  let inner := parts.tail.dropLast
  match inner.dropWhile (· ≠ []) with
  | [] => some (parts, none)
  | _ :: after =>
    let before := inner.takeWhile (· ≠ [])
    if [] ∈ after ∨ first = [] ∧ before ≠ [] ∨ last = [] ∧ after ≠ [] then none
    else
      some (if first = [] then [] else first :: before,
        some (if last = [] then [] else after ++ [last]))

/-- `_ip_int_from_string` of version 6, as hextets. -/
def hextets? (t : Text) : Option {l : List (Fin 65536) // l.length = 8} :=
  let parts := t.splitOn (ch ':')
  if parts.length < 3 then none
  else
    (expandFour parts).bind fun parts =>
      if 9 < parts.length then none
      else
        (skip parts).bind fun halves =>
          let high := halves.1
          let low := halves.2.getD []
          if halves.2.isSome ∧ 8 ≤ high.length + low.length then none
          else
            (high.mapM hextet?).bind fun high => (low.mapM hextet?).bind fun low =>
              let zeros := if halves.2.isSome then 8 - (high.length + low.length) else 0
              let l := high ++ List.replicate zeros 0 ++ low
              if h : l.length = 8 then some ⟨l, h⟩ else none

/-- `_split_scope_id`. -/
def scope? (t : Text) : Option (Text × Option Text) :=
  match partition (ch '%') t with
  | (addr, false, _) => some (addr, none)
  | (addr, true, scope) => if scope = [] ∨ ch '%' ∈ scope then none else some (addr, some scope)

/-- `ip_address` of a text. -/
def ipAddress (t : Text) : Option Address :=
  if ch '/' ∈ t then none
  else
    match octets? t with
    | some octets => some (.four octets)
    | none => (scope? t).bind fun split => (hextets? split.1).map fun l => .six l split.2

/-! ### How addresses are written -/

/-- The longest run of zeros and where it begins, as `_compress_hextets` finds them: `index` is
behind the hextets that have been seen, and `run` zeros stand right before it. -/
def longest : List (Fin 65536) → (index run start length : ℕ) → ℕ × ℕ
  | [], _, _, start, length => (start, length)
  | h :: rest, index, run, start, length =>
    if h = 0 then
      if length < run + 1 then longest rest (index + 1) (run + 1) (index - run) (run + 1)
      else longest rest (index + 1) (run + 1) start length
    else longest rest (index + 1) 0 start length

def hex (h : Fin 65536) : Text := digits 16 h.1

/-- `_compress_hextets`. -/
def compress (l : List (Fin 65536)) : List Text :=
  let (start, length) := longest l 0 0 0 0
  if 1 < length then
    (if start = 0 then [[]] else []) ++ (l.take start).map hex ++ [[]] ++
      (l.drop (start + length)).map hex ++ (if start + length = l.length then [[]] else [])
  else l.map hex

/-- `str` of an address. -/
def Address.str : Address → Text
  | .four octets => join (ch '.') (octets.1.map fun o => digits 10 o.1)
  | .six l none => join (ch ':') (compress l.1)
  | .six l (some scope) => join (ch ':') (compress l.1) ++ ch '%' :: scope

/-! ### What is written reads back -/

lemma mapM_map {α β : Type} {read : β → Option α} {write : α → β}
    (h : ∀ a, read (write a) = some a) (l : List α) : (l.map write).mapM read = some l := by
  induction l with
  | nil => rfl
  | cons a l ih =>
    rw [List.map_cons, List.mapM_cons, h, ih]
    rfl

lemma octet?_digits (o : Fin 256) : octet? (digits 10 o.1) = some o := by
  have hlen : (digits 10 o.1).length ≤ 3 :=
    length_digits_le (by omega) (by omega) (by have := o.2; omega)
  have hhead : digits 10 o.1 ≠ [ch '0'] → (digits 10 o.1).head? ≠ some (ch '0') := by
    intro hne
    refine head_digits (by omega) (by omega) ?_
    rintro hzero
    rw [hzero] at hne
    exact hne rfl
  have hall : (digits 10 o.1).all isDecimal = true := by
    rw [List.all_eq_true]
    exact fun c hc => isDecimal_of_mem hc
  unfold octet?
  rw [if_pos ⟨digits_ne_nil _ _, hall, hlen, hhead⟩, number?_digits (by omega) (by omega)]
  simp

lemma hextet?_hex (h : Fin 65536) : hextet? (hex h) = some h := by
  have hlen : (hex h).length ≤ 4 :=
    length_digits_le (by omega) (by omega) (by have := h.2; omega)
  unfold hextet?
  rw [if_pos ⟨digits_ne_nil _ _, hlen⟩, hex, number?_digits (by omega) (by omega)]
  simp

lemma not_mem_digits {n : ℕ} {c : CodePoint} (hc : isDecimal c = false) : c ∉ digits 10 n := by
  intro hmem
  rw [isDecimal_of_mem hmem] at hc
  cases hc

lemma octets?_join (octets : {l : List (Fin 256) // l.length = 4}) :
    octets? (join (ch '.') (octets.1.map fun o => digits 10 o.1)) = some octets := by
  obtain ⟨l, hl⟩ := octets
  have hsplit : (join (ch '.') (l.map fun o => digits 10 o.1)).splitOn (ch '.') =
      l.map fun o => digits 10 o.1 := by
    refine List.splitOn_intercalate _ ?_ ?_
    · intro part hpart
      obtain ⟨o, -, rfl⟩ := List.mem_map.mp hpart
      exact not_mem_digits (by decide)
    · intro hnil
      rw [List.map_eq_nil_iff.mp hnil] at hl
      cases hl
  unfold octets?
  dsimp only
  rw [hsplit, mapM_map octet?_digits]
  simp [hl]

/-- The run that is found lies within the hextets, and is one of zeros. -/
lemma longest_spec {l : List (Fin 65536)} :
    ∀ (rest : List (Fin 65536)) (index run start length : ℕ), l.drop index = rest →
      index ≤ l.length → run ≤ index → start + length ≤ index →
      (∀ i, index - run ≤ i → i < index → l[i]? = some 0) →
      (∀ i, start ≤ i → i < start + length → l[i]? = some 0) →
      (longest rest index run start length).1 + (longest rest index run start length).2 ≤
          l.length ∧
        ∀ i, (longest rest index run start length).1 ≤ i →
          i < (longest rest index run start length).1 + (longest rest index run start length).2 →
          l[i]? = some 0
  | [], index, run, start, length, _, hindex, _, hend, _, hzeros => ⟨hend.trans hindex, hzeros⟩
  | h :: rest, index, run, start, length, hdrop, hindex, hrun, hend, hrunZeros, hzeros => by
    have hget : l[index]? = some h := by
      rw [← List.head?_drop, hdrop]
      rfl
    have hlt : index + 1 ≤ l.length := (List.getElem?_eq_some_iff.mp hget).1
    have hrest : l.drop (index + 1) = rest := by
      rw [← List.drop_drop, hdrop]
      rfl
    simp only [longest]
    split
    next hzero =>
      have hrunZeros' : ∀ i, index + 1 - (run + 1) ≤ i → i < index + 1 → l[i]? = some 0 := by
        intro i h₁ h₂
        rcases Nat.lt_or_ge i index with hi | hi
        · exact hrunZeros i (by omega) hi
        · rw [show i = index by omega, hget, hzero]
      split
      · refine longest_spec rest _ _ _ _ hrest hlt (by omega) (by omega) hrunZeros' ?_
        intro i h₁ h₂
        exact hrunZeros' i (by omega) (by omega)
      · exact longest_spec rest _ _ _ _ hrest hlt (by omega) (by omega) hrunZeros' hzeros
    next =>
      exact longest_spec rest _ _ _ _ hrest hlt (by omega) (by omega)
        (fun i h₁ h₂ => by omega) hzeros

/-- A run of zeros between what stands before and behind it. -/
lemma eq_append_zeros {l : List (Fin 65536)} {start length : ℕ} (hend : start + length ≤ l.length)
    (hzeros : ∀ i, start ≤ i → i < start + length → l[i]? = some 0) :
    l = l.take start ++ List.replicate length 0 ++ l.drop (start + length) := by
  have hmid : (l.drop start).take length = List.replicate length 0 := by
    refine List.eq_replicate_iff.mpr ⟨?_, fun b hb => ?_⟩
    · rw [List.length_take, List.length_drop]
      omega
    · obtain ⟨i, hi⟩ := List.mem_iff_getElem?.mp hb
      rw [List.getElem?_take] at hi
      split at hi
      next hlt =>
        rw [List.getElem?_drop, hzeros _ (by omega) (by omega)] at hi
        exact (Option.some.inj hi).symm
      next => cases hi
  calc l = l.take start ++ l.drop start := (List.take_append_drop start l).symm
    _ = l.take start ++ ((l.drop start).take length ++ (l.drop start).drop length) := by
      rw [List.take_append_drop length (l.drop start)]
    _ = l.take start ++ List.replicate length 0 ++ l.drop (start + length) := by
      rw [hmid, List.drop_drop, List.append_assoc]

lemma skip_plain {parts : List Text} (h : ∀ p ∈ parts, p ≠ []) :
    skip parts = some (parts, none) := by
  have hinner : parts.tail.dropLast.dropWhile (· ≠ []) = [] := by
    rw [List.dropWhile_eq_nil_iff]
    intro p hp
    exact decide_eq_true (h p (List.mem_of_mem_tail (List.mem_of_mem_dropLast hp)))
  unfold skip
  simp only [hinner]

lemma dropWhile_append_empty {before : List Text} (h : ∀ p ∈ before, p ≠ []) (rest : List Text) :
    (before ++ [] :: rest).dropWhile (· ≠ []) = [] :: rest ∧
      (before ++ [] :: rest).takeWhile (· ≠ []) = before := by
  have hne : ∀ p ∈ before, (decide (p ≠ [])) = true := fun p hp => decide_eq_true (h p hp)
  rw [List.dropWhile_append_of_pos hne, List.takeWhile_append_of_pos hne]
  simp

/-- The one empty part between the ends. -/
lemma skip_between {first last : Text} {before after : List Text} (hbefore : ∀ p ∈ before, p ≠ [])
    (hafter : ∀ p ∈ after, p ≠ []) (hfirst : first = [] → before = [])
    (hlast : last = [] → after = []) :
    skip (first :: (before ++ [] :: after ++ [last])) =
      some (if first = [] then [] else first :: before,
        some (if last = [] then [] else after ++ [last])) := by
  have hinner : (first :: (before ++ [] :: after ++ [last])).tail.dropLast =
      before ++ [] :: after := by
    rw [List.tail_cons, List.dropLast_concat]
  have hget : (first :: (before ++ [] :: after ++ [last])).getLastD [] = last := by
    rw [← List.cons_append, List.getLastD_concat]
  obtain ⟨hdrop, htake⟩ := dropWhile_append_empty hbefore after
  have hgood : ¬ ([] ∈ after ∨ first = [] ∧ before ≠ [] ∨ last = [] ∧ after ≠ []) := by
    rintro (h | ⟨h, hne⟩ | ⟨h, hne⟩)
    · exact hafter [] h rfl
    · exact hne (hfirst h)
    · exact hne (hlast h)
  unfold skip
  simp only [hinner, hget, hdrop, htake, List.headD_cons, if_neg hgood]

/-- The parts of an address with a run left out, and its two halves. -/
lemma skip_halves {before after : List Text} (hbefore : ∀ p ∈ before, p ≠ [])
    (hafter : ∀ p ∈ after, p ≠ []) :
    skip ((if before = [] then [[]] else []) ++ before ++ [[]] ++ after ++
      (if after = [] then [[]] else [])) = some (before, some after) := by
  have hnil : ∀ p ∈ ([] : List Text), p ≠ [] := nofun
  rcases List.eq_nil_or_concat after with rfl | ⟨init, last, rfl⟩
  · cases before with
    | nil => decide
    | cons first before =>
      have hfirst : first ≠ [] := hbefore first List.mem_cons_self
      have hrest : ∀ p ∈ before, p ≠ [] := fun p hp => hbefore p (List.mem_cons_of_mem _ hp)
      have h := @skip_between first [] before [] hrest hnil (fun h => absurd h hfirst) fun _ => rfl
      simpa [hfirst] using h
  · rw [List.concat_eq_append] at hafter ⊢
    have hlast : last ≠ [] := hafter last (by simp)
    have hinit : ∀ p ∈ init, p ≠ [] := fun p hp => hafter p (by simp [hp])
    cases before with
    | nil =>
      have h := @skip_between [] last [] init hnil hinit (fun _ => rfl) fun h => absurd h hlast
      simpa [hlast] using h
    | cons first before =>
      have hfirst : first ≠ [] := hbefore first List.mem_cons_self
      have hrest : ∀ p ∈ before, p ≠ [] := fun p hp => hbefore p (List.mem_cons_of_mem _ hp)
      have h := skip_between hrest hinit (fun h => absurd h hfirst) fun h => absurd h hlast
      simpa [hfirst, hlast] using h

lemma hex_ne_nil (h : Fin 65536) : hex h ≠ [] := digits_ne_nil _ _

lemma ne_nil_of_mem_hex {l : List (Fin 65536)} : ∀ p ∈ l.map hex, p ≠ [] := by
  intro p hp
  obtain ⟨h, -, rfl⟩ := List.mem_map.mp hp
  exact hex_ne_nil h

/-- What the parts of an address are, and what they come to. -/
lemma compress_cases (l : List (Fin 65536)) :
    compress l = l.map hex ∨ ∃ before after n, 1 < n ∧ l = before ++ List.replicate n 0 ++ after ∧
      compress l = (if before.map hex = [] then [[]] else []) ++ before.map hex ++ [[]] ++
        after.map hex ++ (if after.map hex = [] then [[]] else []) := by
  obtain ⟨hend, hzeros⟩ := longest_spec (l := l) l 0 0 0 0 rfl (by omega) (by omega) (by omega)
    (fun i h₁ h₂ => by omega) (fun i h₁ h₂ => by omega)
  generalize hr : longest l 0 0 0 0 = r at hend hzeros
  obtain ⟨start, length⟩ := r
  unfold compress
  rw [hr]
  dsimp only at hend hzeros ⊢
  split
  next hlong =>
    right
    refine ⟨l.take start, l.drop (start + length), length, hlong, eq_append_zeros hend hzeros, ?_⟩
    have hbefore : (l.take start).map hex = [] ↔ start = 0 := by
      rw [List.map_eq_nil_iff, List.take_eq_nil_iff]
      constructor
      · rintro (h | h)
        · exact h
        · rw [h, List.length_nil] at hend
          omega
      · exact .inl
    have hafter : (l.drop (start + length)).map hex = [] ↔ start + length = l.length := by
      rw [List.map_eq_nil_iff, List.drop_eq_nil_iff]
      omega
    simp only [hbefore, hafter]
  next => exact .inl rfl

lemma isLowerHex_of_mem_compress {l : List (Fin 65536)} {p : Text} (hp : p ∈ compress l)
    {c : CodePoint} (hc : c ∈ p) : isLowerHex c = true := by
  have hhex : ∀ {l' : List (Fin 65536)}, p ∈ l'.map hex → isLowerHex c = true := by
    intro l' hp
    obtain ⟨h, -, rfl⟩ := List.mem_map.mp hp
    exact isLowerHex_of_mem hc
  have hempty : ∀ {q : Prop} [Decidable q], p ∈ (if q then [[]] else ([] : List Text)) → False := by
    intro q _ hp
    split at hp
    · rw [List.mem_singleton.mp hp] at hc
      cases hc
    · cases hp
  rcases compress_cases l with h | ⟨before, after, n, -, -, h⟩
  · rw [h] at hp
    exact hhex hp
  · rw [h] at hp
    simp only [List.mem_append] at hp
    rcases hp with (((hp | hp) | hp) | hp) | hp
    · exact (hempty hp).elim
    · exact hhex hp
    · rw [List.mem_singleton.mp hp] at hc
      cases hc
    · exact hhex hp
    · exact (hempty hp).elim

/-- The number of the parts of an address. -/
lemma length_compress {l : List (Fin 65536)} (hl : l.length = 8) :
    3 ≤ (compress l).length ∧ (compress l).length ≤ 9 := by
  rcases compress_cases l with h | ⟨before, after, n, hn, hsplit, h⟩
  · rw [h, List.length_map]
    omega
  · have hlen : before.length + n + after.length = 8 := by
      rw [← hl, hsplit, List.length_append, List.length_append, List.length_replicate]
    have hbefore : before.map hex = [] ↔ before.length = 0 := by
      rw [List.map_eq_nil_iff, List.length_eq_zero_iff]
    have hafter : after.map hex = [] ↔ after.length = 0 := by
      rw [List.map_eq_nil_iff, List.length_eq_zero_iff]
    rw [h]
    simp only [List.length_append, List.length_map, List.length_singleton, hbefore, hafter]
    split <;> split <;> simp only [List.length_singleton, List.length_nil] <;> omega

lemma expandFour_of_not_mem {parts : List Text} (h : ∀ p ∈ parts, ch '.' ∉ p) :
    expandFour parts = some parts := by
  have hlast : ch '.' ∉ parts.getLastD [] := by
    rcases List.eq_nil_or_concat parts with rfl | ⟨init, last, rfl⟩
    · simp
    · rw [List.concat_eq_append] at h ⊢
      rw [List.getLastD_concat]
      exact h last (by simp)
  unfold expandFour
  rw [if_neg hlast]

lemma splitOn_compress {l : List (Fin 65536)} (hl : l.length = 8) :
    (join (ch ':') (compress l)).splitOn (ch ':') = compress l := by
  refine List.splitOn_intercalate _ ?_ ?_
  · intro p hp hc
    have hbad := isLowerHex_of_mem_compress hp hc
    exact absurd hbad (by decide)
  · intro hnil
    have hlen := (length_compress hl).1
    rw [hnil] at hlen
    simp at hlen

lemma hextets?_join (hextets : {l : List (Fin 65536) // l.length = 8}) :
    hextets? (join (ch ':') (compress hextets.1)) = some hextets := by
  obtain ⟨l, hl⟩ := hextets
  obtain ⟨hmin, hmax⟩ := length_compress hl
  have hexpand : expandFour (compress l) = some (compress l) := by
    refine expandFour_of_not_mem fun p hp hc => ?_
    have hbad := isLowerHex_of_mem_compress hp hc
    exact absurd hbad (by decide)
  unfold hextets?
  simp only [splitOn_compress hl, if_neg (not_lt.mpr hmin), hexpand, Option.bind_some,
    if_neg (not_lt.mpr hmax)]
  rcases compress_cases l with h | ⟨before, after, n, hn, hsplit, h⟩
  · rw [h, skip_plain ne_nil_of_mem_hex]
    simp only [Option.bind_some, Option.isSome_none, Bool.false_eq_true, false_and, if_false,
      mapM_map hextet?_hex, Option.getD_none, List.mapM_nil, Option.pure_def]
    simp [hl]
  · have hlen : before.length + n + after.length = 8 := by
      rw [← hl, hsplit, List.length_append, List.length_append, List.length_replicate]
    have hfew : ¬ (8 ≤ before.length + after.length) := by omega
    have hzeros : 8 - (before.length + after.length) = n := by omega
    rw [h, skip_halves ne_nil_of_mem_hex ne_nil_of_mem_hex]
    simp only [Option.bind_some, Option.isSome_some, true_and, Option.getD_some, List.length_map,
      if_neg hfew, mapM_map hextet?_hex, if_true, hzeros, ← hsplit, hl, dif_pos]

/-- **An address without a scope reads back from its text.** -/
theorem ipAddress_str (a : Address) (h : ∀ l scope, a ≠ .six l (some scope)) :
    ipAddress a.str = some a := by
  cases a with
  | four octets =>
    have hslash : ch '/' ∉ join (ch '.') (octets.1.map fun o => digits 10 o.1) := by
      refine not_mem_join (by decide) fun p hp => ?_
      obtain ⟨o, -, rfl⟩ := List.mem_map.mp hp
      exact not_mem_digits (by decide)
    unfold ipAddress Address.str
    dsimp only
    rw [if_neg hslash, octets?_join]
  | six l scope =>
    cases scope with
    | some scope => exact absurd rfl (h l scope)
    | none =>
      have hnot : ∀ {c : CodePoint}, c ≠ ch ':' → isLowerHex c = false →
          c ∉ join (ch ':') (compress l.1) := by
        intro c hne hc
        refine not_mem_join hne fun p hp hmem => ?_
        rw [isLowerHex_of_mem_compress hp hmem] at hc
        cases hc
      have hfour : octets? (join (ch ':') (compress l.1)) = none := by
        have hone : (join (ch ':') (compress l.1)).splitOn (ch '.') =
            [join (ch ':') (compress l.1)] :=
          List.splitOn_eq_singleton (hnot (by decide) (by decide))
        unfold octets?
        rw [hone, List.mapM_cons]
        cases octet? (join (ch ':') (compress l.1)) with
        | none => rfl
        | some o => rfl
      have hscope : scope? (join (ch ':') (compress l.1)) =
          some (join (ch ':') (compress l.1), none) := by
        unfold scope?
        rw [partition_of_not_mem (hnot (by decide) (by decide))]
      unfold ipAddress Address.str
      dsimp only
      rw [if_neg (hnot (by decide) (by decide)), hfour, hscope]
      simp only [Option.bind_some, hextets?_join, Option.map_some]

example : (Address.six ⟨[0x2001, 0xdb8, 0, 0, 0, 0, 0, 1], rfl⟩ none).str = text "2001:db8::1" := by
  decide +kernel

end Vauxr.Lib
