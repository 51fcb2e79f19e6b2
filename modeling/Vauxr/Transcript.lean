import Mathlib
import Vauxr.Enrollment
import Vauxr.Sample

/-!
What an enrollment signature and a stored code hash are bound to.

A compact JSON array of texts and integers reads back from the bytes it is written as, whatever
follows it; so the transcript determines the action and every binding field, and the bytes a code
is hashed with determine the code besides.
-/

namespace Vauxr

open Lib

/-! ### Characters -/

def readHex (a b c d : Char) : ℕ :=
  4096 * hexDigit a + 256 * hexDigit b + 16 * hexDigit c + hexDigit d

/-- The character that a short escape stands for. -/
def unescape (c : Char) : Char :=
  if c = 'n' then '\n'
  else if c = 'r' then '\r'
  else if c = 't' then '\t'
  else if c = 'b' then Char.ofNat 8
  else if c = 'f' then Char.ofNat 12
  else c

/-- The first character of the inside of a JSON string, and what comes after it. -/
def readChar : List Char → Option (Char × List Char)
  | '\\' :: 'u' :: a :: b :: c :: d :: rest =>
    let n := readHex a b c d
    if 55296 ≤ n && n < 56320 then
      match rest with
      | '\\' :: 'u' :: e :: f :: g :: h :: rest =>
        some (Char.ofNat (65536 + (n - 55296) * 1024 + (readHex e f g h - 56320)), rest)
      | _ => none
    else some (Char.ofNat n, rest)
  | '\\' :: c :: rest => some (unescape c, rest)
  | c :: rest => some (c, rest)
  | [] => none

lemma hexDigit_hexChar {n : ℕ} (h : n < 16) : hexDigit (hexChar n) = n := by
  revert n
  decide

lemma readHex_hexChar {n : ℕ} (h : n < 65536) : readHex (hexChar (n / 4096 % 16))
    (hexChar (n / 256 % 16)) (hexChar (n / 16 % 16)) (hexChar (n % 16)) = n := by
  have hd : ∀ m, hexDigit (hexChar (m % 16)) = m % 16 := fun m =>
    hexDigit_hexChar (Nat.mod_lt m (by omega))
  simp only [readHex, hd]
  omega

lemma readChar_unicodeEscape {n : ℕ} {rest : List Char} (h : n < 65536)
    (hn : ¬(55296 ≤ n ∧ n < 56320)) :
    readChar (unicodeEscape n ++ rest) = some (Char.ofNat n, rest) := by
  simp only [unicodeEscape, List.cons_append, List.nil_append, readChar, readHex_hexChar h]
  rw [if_neg (by simpa using hn)]

lemma readChar_surrogates {n m : ℕ} {rest : List Char} (hn : n < 1024) (hm : m < 1024) :
    readChar (unicodeEscape (55296 + n) ++ (unicodeEscape (56320 + m) ++ rest)) =
      some (Char.ofNat (65536 + n * 1024 + m), rest) := by
  have h₁ := readHex_hexChar (n := 55296 + n) (by omega)
  have h₂ := readHex_hexChar (n := 56320 + m) (by omega)
  simp only [unicodeEscape, List.cons_append, List.nil_append, readChar, h₁, h₂]
  rw [if_pos (by simp only [Bool.and_eq_true, decide_eq_true_eq]; omega)]
  have e : 65536 + (55296 + n - 55296) * 1024 + (56320 + m - 56320) = 65536 + n * 1024 + m := by
    omega
  rw [e]

/-- **A character reads back**, whatever follows it. -/
theorem readChar_jsonChar (c : Char) (rest : List Char) :
    readChar (jsonChar c ++ rest) = some (c, rest) := by
  have hv : c.toNat < 55296 ∨ 57343 < c.toNat ∧ c.toNat < 1114112 := c.valid
  have hc : Char.ofNat c.toNat = c := Char.ofNat_toNat c
  rw [jsonChar]
  by_cases h₁ : c = '"'
  · subst h₁
    rfl
  by_cases h₂ : c = '\\'
  · subst h₂
    rfl
  by_cases h₃ : c = '\n'
  · subst h₃
    rfl
  by_cases h₄ : c = '\r'
  · subst h₄
    rfl
  by_cases h₅ : c = '\t'
  · subst h₅
    rfl
  by_cases h₆ : c.toNat = 8
  · rw [← hc, h₆]
    rfl
  by_cases h₇ : c.toNat = 12
  · rw [← hc, h₇]
    rfl
  rw [if_neg h₁, if_neg h₂, if_neg h₃, if_neg h₄, if_neg h₅, if_neg h₆, if_neg h₇]
  by_cases h₈ : (32 ≤ c.toNat && c.toNat ≤ 126) = true
  · rw [if_pos h₈]
    simp [readChar, h₂]
  rw [if_neg h₈]
  by_cases h₉ : c.toNat < 65536
  · rw [if_pos h₉, readChar_unicodeEscape h₉ (by omega), hc]
  · rw [if_neg h₉, List.append_assoc,
      readChar_surrogates (by omega) (Nat.mod_lt _ (by omega))]
    have e : 65536 + (c.toNat - 65536) / 1024 * 1024 + (c.toNat - 65536) % 1024 = c.toNat := by
      omega
    rw [e, hc]

/-- No character is written with a quote in front. -/
lemma jsonChar_ne_quote (c : Char) (rest rest' : List Char) :
    jsonChar c ++ rest ≠ '"' :: rest' := by
  intro h
  have hr : readChar ('"' :: rest') = some ('"', rest') := rfl
  rw [← h, readChar_jsonChar, Option.some.injEq, Prod.mk.injEq] at hr
  rw [hr.1] at h
  have hh : some '\\' = some '"' := congrArg List.head? h
  simp at hh

/-! ### Texts and integers -/

/-- A JSON string is told from whatever is written after it. -/
lemma flatMap_jsonChar_inj {l l' rest rest' : List Char}
    (h : l.flatMap jsonChar ++ '"' :: rest = l'.flatMap jsonChar ++ '"' :: rest') :
    l = l' ∧ rest = rest' := by
  induction l generalizing l' with
  | nil =>
    cases l' with
    | nil => simpa using h
    | cons c' l' =>
      simp only [List.flatMap_nil, List.nil_append, List.flatMap_cons, List.append_assoc] at h
      exact absurd h.symm (jsonChar_ne_quote c' _ _)
  | cons c l ih =>
    cases l' with
    | nil =>
      simp only [List.flatMap_nil, List.nil_append, List.flatMap_cons, List.append_assoc] at h
      exact absurd h (jsonChar_ne_quote c _ _)
    | cons c' l' =>
      simp only [List.flatMap_cons, List.append_assoc] at h
      have hr := congrArg readChar h
      rw [readChar_jsonChar, readChar_jsonChar] at hr
      simp only [Option.some.injEq, Prod.mk.injEq] at hr
      obtain ⟨hl, hrest⟩ := ih hr.2
      exact ⟨by rw [hr.1, hl], hrest⟩

/-- What follows an item of an array. -/
def Stop (c : Char) : Prop := c = ',' ∨ c = ']'

lemma Stop.not_numeral {c : Char} (h : Stop c) : c.isDigit = false ∧ c ≠ '-' := by
  rcases h with rfl | rfl <;> decide

lemma mem_repr {n : ℤ} {c : Char} (h : c ∈ n.repr.toList) : c.isDigit = true ∨ c = '-' := by
  have hd : ∀ m : ℕ, c ∈ m.repr.toList → c.isDigit = true := by
    intro m hm
    rw [Nat.toList_repr] at hm
    exact Nat.isDigit_of_mem_toDigits (by omega) le_rfl hm
  rw [Int.repr_eq_if] at h
  split at h
  · exact Or.inl (hd _ h)
  · rw [String.toList_append, List.mem_append] at h
    rcases h with h | h
    · exact Or.inr (by simpa using h)
    · exact Or.inl (hd _ h)

/-- Two lists that stop at the first letter outside of a class stop at the same place. -/
lemma append_cons_inj {P : Char → Prop} {l l' rest rest' : List Char} {d d' : Char}
    (hl : ∀ c ∈ l, P c) (hl' : ∀ c ∈ l', P c) (hd : ¬P d) (hd' : ¬P d')
    (h : l ++ d :: rest = l' ++ d' :: rest') : l = l' ∧ d = d' ∧ rest = rest' := by
  induction l generalizing l' with
  | nil =>
    cases l' with
    | nil => simpa using h
    | cons c' l' =>
      have : d = c' := by simpa using congrArg List.head? h
      exact absurd (this ▸ hl' c' List.mem_cons_self) hd
  | cons c l ih =>
    cases l' with
    | nil =>
      have : c = d' := by simpa using congrArg List.head? h
      exact absurd (this ▸ hl c List.mem_cons_self) hd'
    | cons c' l' =>
      simp only [List.cons_append, List.cons.injEq] at h
      obtain ⟨he, hrest⟩ := ih (fun x hx => hl x (List.mem_cons_of_mem _ hx))
        (fun x hx => hl' x (List.mem_cons_of_mem _ hx)) h.2
      exact ⟨by rw [h.1, he], hrest⟩

/-! ### Arrays -/

inductive Scalar
  | str (s : String)
  | int (n : ℤ)

namespace Scalar

def write : Scalar → String
  | .str s => jsonString s
  | .int n => toString n

lemma toList_write_str (s : String) (rest : List Char) :
    (write (.str s)).toList ++ rest = '"' :: (s.toList.flatMap jsonChar ++ '"' :: rest) := by
  simp [write, jsonString]

lemma write_int_ne_quote (n : ℤ) (rest rest' : List Char) (hr : rest.head? ≠ some '"') :
    (write (.int n)).toList ++ rest ≠ '"' :: rest' := by
  intro h
  cases hl : n.repr.toList with
  | nil =>
    simp only [write, Int.toString_eq_repr, hl, List.nil_append] at h
    exact hr (by rw [h]; rfl)
  | cons c l =>
    simp only [write, Int.toString_eq_repr, hl, List.cons_append, List.cons.injEq] at h
    have hc := mem_repr (n := n) (c := c) (by rw [hl]; exact List.mem_cons_self)
    rw [h.1] at hc
    revert hc
    decide

/-- **An item reads back** in front of what can follow it. -/
theorem write_inj {x y : Scalar} {d d' : Char} {rest rest' : List Char} (hd : Stop d)
    (hd' : Stop d') (h : x.write.toList ++ d :: rest = y.write.toList ++ d' :: rest') :
    x = y ∧ d = d' ∧ rest = rest' := by
  have hq : ∀ {c : Char} {l : List Char}, Stop c → (c :: l).head? ≠ some '"' := by
    rintro c l (rfl | rfl) <;> simp
  cases x with
  | str s =>
    rw [toList_write_str] at h
    cases y with
    | str s' =>
      rw [toList_write_str, List.cons.injEq] at h
      obtain ⟨hs, hrest⟩ := flatMap_jsonChar_inj h.2
      rw [List.cons.injEq] at hrest
      exact ⟨by rw [String.toList_inj.mp hs], hrest⟩
    | int n => exact absurd h.symm (write_int_ne_quote n _ _ (hq hd'))
  | int n =>
    cases y with
    | str s =>
      rw [toList_write_str] at h
      exact absurd h (write_int_ne_quote n _ _ (hq hd))
    | int n' =>
      have hP : ∀ {c : Char}, Stop c → ¬(c.isDigit = true ∨ c = '-') := fun hs => by
        simp [hs.not_numeral]
      obtain ⟨hn, hrest⟩ := append_cons_inj (fun c => mem_repr) (fun c => mem_repr) (hP hd)
        (hP hd') h
      exact ⟨by rw [Int.repr_injective (String.toList_inj.mp hn)], hrest⟩

/-- The items after the first, each behind its comma, and what follows the array. -/
def writeTail (rest : List Char) : List Scalar → List Char
  | [] => ']' :: rest
  | x :: l => ',' :: (x.write.toList ++ writeTail rest l)

lemma intercalate_write (x : Scalar) (l : List Scalar) (rest : List Char) :
    (",".intercalate ((x :: l).map write)).toList ++ ']' :: rest =
      x.write.toList ++ writeTail rest l := by
  induction l generalizing x with
  | nil => simp [writeTail]
  | cons y l ih =>
    have hy := ih y
    rw [List.map_cons] at hy
    rw [List.map_cons, List.map_cons, String.intercalate_cons_cons, String.toList_append,
      String.toList_append, List.append_assoc, List.append_assoc, hy]
    rfl

lemma toList_jsonArray (x : Scalar) (l : List Scalar) (rest : List Char) :
    (jsonArray ((x :: l).map write)).toList ++ rest =
      '[' :: (x.write.toList ++ writeTail rest l) := by
  rw [← intercalate_write]
  simp [jsonArray]

lemma writeTail_eq (rest : List Char) (l : List Scalar) :
    ∃ d t, Stop d ∧ writeTail rest l = d :: t := by
  cases l with
  | nil => exact ⟨']', rest, Or.inr rfl, rfl⟩
  | cons x l => exact ⟨',', _, Or.inl rfl, rfl⟩

lemma write_append_writeTail_inj {x y : Scalar} {l l' : List Scalar} {rest rest' : List Char}
    (h : x.write.toList ++ writeTail rest l = y.write.toList ++ writeTail rest' l') :
    x = y ∧ writeTail rest l = writeTail rest' l' := by
  obtain ⟨d, t, hd, ht⟩ := writeTail_eq rest l
  obtain ⟨d', t', hd', ht'⟩ := writeTail_eq rest' l'
  rw [ht, ht'] at h ⊢
  obtain ⟨hx, he, htail⟩ := write_inj hd hd' h
  exact ⟨hx, by rw [he, htail]⟩

lemma writeTail_inj {l l' : List Scalar} {rest rest' : List Char}
    (h : writeTail rest l = writeTail rest' l') : l = l' ∧ rest = rest' := by
  induction l generalizing l' with
  | nil =>
    cases l' with
    | nil => exact ⟨rfl, by simpa [writeTail] using h⟩
    | cons y l' => simp [writeTail] at h
  | cons x l ih =>
    cases l' with
    | nil => simp [writeTail] at h
    | cons y l' =>
      simp only [writeTail, List.cons.injEq, true_and] at h
      obtain ⟨hx, hl⟩ := write_append_writeTail_inj h
      obtain ⟨he, hrest⟩ := ih hl
      exact ⟨by rw [hx, he], hrest⟩

/-- **An array reads back** in front of anything. -/
theorem jsonArray_inj {x y : Scalar} {l l' : List Scalar} {s s' : String}
    (h : jsonArray ((x :: l).map write) ++ s = jsonArray ((y :: l').map write) ++ s') :
    x :: l = y :: l' ∧ s = s' := by
  have ht := congrArg String.toList h
  rw [String.toList_append, String.toList_append, toList_jsonArray, toList_jsonArray,
    List.cons.injEq] at ht
  obtain ⟨hx, htail⟩ := write_append_writeTail_inj ht.2
  obtain ⟨hl, hs⟩ := writeTail_inj htail
  exact ⟨by rw [hx, hl], String.toList_inj.mp hs⟩

end Scalar

/-! ### Transcripts -/

lemma toList_loop_eq (bs : ByteArray) (i : ℕ) (r : List UInt8) :
    ByteArray.toList.loop bs i r = r.reverse ++ bs.data.toList.drop i := by
  have hsize : bs.data.toList.length = bs.size := Array.length_toList
  induction hn : bs.size - i generalizing i r with
  | zero =>
    rw [ByteArray.toList.loop, if_neg (by omega), List.drop_eq_nil_of_le (by omega),
      List.append_nil]
  | succ n ih =>
    have hi : i < bs.data.toList.length := by omega
    have hget : bs.get! i = bs.data.toList[i] := getElem!_pos bs.data i (by simpa using hi)
    rw [ByteArray.toList.loop, if_pos (by omega), ih _ _ (by omega), List.drop_eq_getElem_cons hi,
      hget, List.reverse_cons, List.append_assoc, List.singleton_append]

lemma utf8_eq (s : String) : utf8 s = s.toByteArray.data.toList := toList_loop_eq s.toByteArray 0 []

lemma utf8_append (s t : String) : utf8 (s ++ t) = utf8 s ++ utf8 t := by
  simp [utf8_eq]

lemma utf8_inj {s t : String} (h : utf8 s = utf8 t) : s = t := by
  rw [utf8_eq, utf8_eq] at h
  exact String.toByteArray_inj.mp (ByteArray.ext (Array.toList_inj.mp h))

namespace Enrollment

/-- The eleven `BINDING` fields of a row, in their order. -/
structure Binding where
  version : ℤ
  requestId : String
  serverId : String
  origin : String
  kind : String
  publicKey : String
  deviceId : String
  nonce : String
  expiresAt : ℤ
  ownerGeneration : String
  displayName : String

def Binding.scalars (b : Binding) (action : String) : List Scalar :=
  [.str action, .int b.version, .str b.requestId, .str b.serverId, .str b.origin, .str b.kind,
    .str b.publicKey, .str b.deviceId, .str b.nonce, .int b.expiresAt, .str b.ownerGeneration,
    .str b.displayName]

def Binding.text (b : Binding) (action : String) : String :=
  jsonArray ((Scalar.str "vauxr-enrollment" :: b.scalars action).map Scalar.write)

def Binding.transcript (b : Binding) (action : String) : List UInt8 := utf8 (b.text action)

/-- What is hashed for a code. -/
def Binding.preimage (b : Binding) (code : String) : List UInt8 :=
  b.transcript "code" ++ utf8 "\n" ++ utf8 code

/-- The version of every row is 1. -/
def Row.binding (row : Row) : Binding where
  version := 1
  requestId := row.requestId
  serverId := row.serverId
  origin := row.origin
  kind := row.kind.value
  publicKey := row.publicKey
  deviceId := row.deviceId
  nonce := row.nonce
  expiresAt := row.expiresAt
  ownerGeneration := row.ownerGeneration
  displayName := row.displayName

lemma transcript_eq (row : Row) (action : String) :
    transcript row action = row.binding.transcript action := rfl

lemma codeDigest_eq (c : Ctx) (row : Row) (code : String) :
    codeDigest c row code = c.digest (row.binding.preimage code) := rfl

lemma Binding.text_append_inj {b b' : Binding} {action action' s s' : String}
    (h : b.text action ++ s = b'.text action' ++ s') : action = action' ∧ b = b' ∧ s = s' := by
  obtain ⟨hl, hs⟩ := Scalar.jsonArray_inj h
  obtain ⟨version, requestId, serverId, origin, kind, publicKey, deviceId, nonce, expiresAt,
    ownerGeneration, displayName⟩ := b
  simp only [scalars, List.cons.injEq, Scalar.str.injEq, Scalar.int.injEq, true_and,
    and_true] at hl
  obtain ⟨rfl, rfl, rfl, rfl, rfl, rfl, rfl, rfl, rfl, rfl, rfl, rfl⟩ := hl
  exact ⟨rfl, rfl, hs⟩

/-- The transcript determines the action and every binding field. -/
theorem Binding.transcript_inj {b b' : Binding} {action action' : String}
    (h : b.transcript action = b'.transcript action') : action = action' ∧ b = b' := by
  have ht : b.text action ++ "" = b'.text action' ++ "" := by rw [utf8_inj h]
  obtain ⟨ha, hb, -⟩ := Binding.text_append_inj ht
  exact ⟨ha, hb⟩

/-- So do the bytes a code is hashed with, and they determine the code. -/
theorem Binding.preimage_inj {b b' : Binding} {code code' : String}
    (h : b.preimage code = b'.preimage code') : b = b' ∧ code = code' := by
  simp only [preimage, transcript, ← utf8_append] at h
  have ht := utf8_inj h
  rw [String.append_assoc, String.append_assoc] at ht
  obtain ⟨-, hb, hs⟩ := Binding.text_append_inj ht
  have hl := congrArg String.toList hs
  simp only [String.toList_append, List.append_cancel_left_eq] at hl
  exact ⟨hb, String.toList_inj.mp hl⟩

end Enrollment

/-- Under the keys `K`, a signature verifies over one message of `S` at most. Ed25519 has that of
keys that were generated, but not of the points of small order, which verify anything. -/
def Platform.SignsOnce (p : Platform) (K : Set String) (S : Set (List UInt8)) : Prop :=
  ∀ key ∈ K, ∀ key' ∈ K, ∀ signature, ∀ m ∈ S, ∀ m' ∈ S, p.ed25519 key signature m = true →
    p.ed25519 key' signature m' = true → m = m'

namespace Enrollment

/-- **Transcripts are binding.** The transcript is injective in the action and the eleven binding
fields, and the bytes hashed for a code are injective in the binding and the code. Where
signatures of the keys `K` and SHA-256 tell the messages of `S` apart, a signature over one request
and action verifies as no other, and a stored hash matches only its own request and code. -/
theorem transcript_binding (c : Ctx) {K : Set String} {S : Set (List UInt8)}
    (sign : c.platform.SignsOnce K S) (hash : Set.InjOn c.platform.sha256 S) :
    (∀ b b' : Binding, ∀ action action', b.transcript action = b'.transcript action' →
      action = action' ∧ b = b') ∧
    (∀ row row' action action' signature, row.publicKey ∈ K → row'.publicKey ∈ K →
      transcript row action ∈ S → transcript row' action' ∈ S →
      signed c row action signature = true → signed c row' action' signature = true →
      action = action' ∧ row.binding = row'.binding) ∧
    (∀ b b' : Binding, ∀ code code', b.preimage code = b'.preimage code' →
      b = b' ∧ code = code') ∧
    ∀ row row' code code', row.binding.preimage code ∈ S → row'.binding.preimage code' ∈ S →
      row.codeHash = codeDigest c row' code' → codeMatches c row (.str code) = true →
      row.binding = row'.binding ∧ code = code' := by
  refine ⟨fun _ _ _ _ => Binding.transcript_inj, ?_, fun _ _ _ _ => Binding.preimage_inj, ?_⟩
  · intro row row' action action' signature hK hK' hS hS' h h'
    unfold signed at h h'
    cases hs : Request.hexField signature 128 with
    | none => simp [hs] at h
    | some text =>
      simp only [hs, Option.any_some] at h h'
      have hm : transcript row action = transcript row' action' :=
        sign _ hK _ hK' text _ hS _ hS' h h'
      exact Binding.transcript_inj hm
  · intro row row' code code' hS hS' hrow hmatch
    simp only [codeMatches, Json.str?, Option.any_some, Bool.and_eq_true, beq_iff_eq, hrow,
      codeDigest_eq] at hmatch
    exact Binding.preimage_inj (hash hS hS' (Subtype.ext hmatch.2))

end Enrollment

/-! ### A signed request -/

namespace Sample

def signedRow : Enrollment.Row where
  requestId := "aaaaaaaaaaaaaaaaaaaaaaaaaaaaaaaa"
  serverId := "bbbbbbbbbbbbbbbbbbbbbbbbbbbbbbbb"
  origin := "http://vauxr.local"
  kind := .physical
  publicKey := "d75a980182b10ab7d54bfed3c964073a0ee172f3daa62325af021a68f707511a"
  deviceId := "dev_21fe31df"
  nonce := "cccccccccccccccccccccccccccccccccccccccccccccccccccccccccccccccc"
  expiresAt := 1300
  ownerGeneration := "eeeeeeeeeeeeeeeeeeeeeeeeeeeeeeee"
  displayName := "Kitchen"
  state := .ready
  attempts := 0
  codeHash := "ab3495cc5712248132507e08068ce6d3f396af5cc5575934412d9f78378da2ba"
  initiator := none
  approver := none

def signature : String :=
  "1259da7a884c0ee199f745adba5b725252d086ca0548eda299162dbb629bdd4f" ++
    "38a682f9be58bd5f3ad55c8ebf583a2fbcc550397f4ddddc0d668290afa0720f"

def proved : List UInt8 := signedRow.binding.transcript "prove"

def coded (code : String) : List UInt8 := signedRow.binding.preimage code

/-- The neutral point, encoded; as a key it is 64 hex digits like any other. -/
def weakKey : String := "0100000000000000000000000000000000000000000000000000000000000000"

/-- The neutral point and the scalar zero. -/
def weakSignature : String :=
  weakKey ++ "0000000000000000000000000000000000000000000000000000000000000000"

/-- SHA-256 and Ed25519 as they are on the messages of `signedRow`, and Ed25519 as it is on the
neutral point. -/
def signing : Platform where
  __ := platform
  sha256 := fun bytes =>
    if bytes = proved then
      ⟨"ea7996618ed3b67a056d0bab15dc39d952f8b4426644771acb1a211fbe0dd2bb", by decide⟩
    else if bytes = coded "0421" then
      ⟨"ab3495cc5712248132507e08068ce6d3f396af5cc5575934412d9f78378da2ba", by decide⟩
    else if bytes = coded "0422" then
      ⟨"7ee71d4d42d73fe860c6bb7c605e7913fb796fa7f46bce365ff2126e1416ff57", by decide⟩
    else hexWord 64 (checksum bytes)
  ed25519 := fun key text bytes =>
    key == signedRow.publicKey && text == signature && decide (bytes = proved) ||
      key == weakKey && text == weakSignature

def signingCtx : Ctx := { ctx 0 1000 with platform := signing }

def messages : Set (List UInt8) := {proved, coded "0421", coded "0422"}

/-- The keys that were generated. -/
def generated : Set String := {signedRow.publicKey}

lemma signsOnce : signing.SignsOnce generated messages := by
  have hne : (signedRow.publicKey == weakKey) = false := by decide +kernel
  rintro key rfl key' rfl text m _ m' _ h h'
  simp only [signing, hne, Bool.false_and, Bool.or_false, Bool.and_eq_true,
    decide_eq_true_eq] at h h'
  rw [h.2, h'.2]

lemma coded_ne_proved (code : String) : coded code ≠ proved := by
  intro h
  simp only [coded, proved, Enrollment.Binding.preimage, Enrollment.Binding.transcript,
    ← utf8_append] at h
  have ht : signedRow.binding.text "code" ++ ("\n" ++ code) =
      signedRow.binding.text "prove" ++ "" := by
    rw [← String.append_assoc, utf8_inj h, String.append_empty]
  have ha := (Enrollment.Binding.text_append_inj ht).1
  revert ha
  decide

lemma coded_ne : coded "0422" ≠ coded "0421" := by
  intro h
  have hc := (Enrollment.Binding.preimage_inj h).2
  revert hc
  decide

lemma sha256_proved : (signing.sha256 proved).1 =
    "ea7996618ed3b67a056d0bab15dc39d952f8b4426644771acb1a211fbe0dd2bb" := by
  simp [signing]

lemma sha256_coded : (signing.sha256 (coded "0421")).1 =
    "ab3495cc5712248132507e08068ce6d3f396af5cc5575934412d9f78378da2ba" := by
  simp [signing, coded_ne_proved]

lemma sha256_coded' : (signing.sha256 (coded "0422")).1 =
    "7ee71d4d42d73fe860c6bb7c605e7913fb796fa7f46bce365ff2126e1416ff57" := by
  simp [signing, coded_ne_proved, coded_ne]

lemma injOn_sha256 : Set.InjOn signing.sha256 messages := by
  rintro x (rfl | rfl | rfl) y (rfl | rfl | rfl) h
  any_goals rfl
  all_goals
    have hv := congrArg Subtype.val h
    simp [sha256_proved, sha256_coded, sha256_coded'] at hv

lemma digest_signingCtx (bytes : List UInt8) :
    signingCtx.digest bytes = (signing.sha256 bytes).1 := rfl

lemma coded_eq (code : String) : signedRow.binding.preimage code = coded code := rfl

lemma coded_mem : coded "0421" ∈ messages ∧ coded "0422" ∈ messages := by
  simp [messages]

/-- A row that is accepted with the neutral point as its key. -/
def weakRow : Enrollment.Row := { signedRow with publicKey := weakKey }

end Sample

namespace Enrollment

/-- The signature of `signedRow` proves that request alone, and the code `0422` does not match the
hash that is stored for `0421`. -/
theorem transcript_binding_sample :
    (∀ row action, row.publicKey ∈ Sample.generated → transcript row action ∈ Sample.messages →
      signed Sample.signingCtx row action (.str Sample.signature) = true →
      action = "prove" ∧ row.binding = Sample.signedRow.binding) ∧
    codeMatches Sample.signingCtx Sample.signedRow (.str "0422") = false := by
  obtain ⟨-, hsign, -, hcode⟩ := transcript_binding Sample.signingCtx Sample.signsOnce
    Sample.injOn_sha256
  constructor
  · intro row action hkey hmem hsigned
    have hproved : signed Sample.signingCtx Sample.signedRow "prove" (.str Sample.signature) =
        true := by
      have hfield : Request.hexField (.str Sample.signature) 128 = some Sample.signature := by
        decide +kernel
      have hmessage : transcript Sample.signedRow "prove" = Sample.proved := rfl
      rw [signed, hfield, Option.any_some, hmessage]
      simp [Sample.signingCtx, Sample.signing]
    exact hsign row Sample.signedRow action "prove" _ hkey rfl hmem (Or.inl rfl) hsigned hproved
  · have hrow : Sample.signedRow.codeHash =
        codeDigest Sample.signingCtx Sample.signedRow "0421" := by
      rw [codeDigest_eq, Sample.digest_signingCtx, Sample.coded_eq, Sample.sha256_coded]
      rfl
    rw [← Bool.not_eq_true]
    intro h
    have hc : "0422" = "0421" :=
      (hcode Sample.signedRow Sample.signedRow _ _ Sample.coded_mem.2 Sample.coded_mem.1 hrow h).2
    revert hc
    decide

/-- Under the neutral point, which a request may name as its key, one signature verifies as every
request and action. -/
theorem weak_key_verifies :
    validateRow Sample.weakRow.serverId Sample.weakRow.requestId Sample.weakRow = true ∧
    ¬ ∀ row row' action action' signature,
      signed Sample.signingCtx row action signature = true →
      signed Sample.signingCtx row' action' signature = true →
      action = action' ∧ row.binding = row'.binding := by
  refine ⟨by decide +kernel, fun h => ?_⟩
  have hsigned (action : String) :
      signed Sample.signingCtx Sample.weakRow action (.str Sample.weakSignature) = true := by
    have hfield : Request.hexField (.str Sample.weakSignature) 128 = some Sample.weakSignature := by
      decide +kernel
    have hkey : Sample.weakRow.publicKey = Sample.weakKey := rfl
    rw [signed, hfield, Option.any_some, hkey]
    simp [Sample.signingCtx, Sample.signing]
  have hactions := (h _ _ _ _ _ (hsigned "prove") (hsigned "redeem")).1
  revert hactions
  decide

end Enrollment

end Vauxr
