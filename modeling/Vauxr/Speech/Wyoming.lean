import Mathlib
import Vauxr.Lib.Text

/-!
Wyoming events on a byte stream (`speech/wyoming_protocol.py`), and the loops that feed the parser
what the network brings (`speech/wyoming_tts.py`, `speech/wyoming_stt.py`, `speech/store.py`).

The buffer stands for the bytes from the offset of the parser on. What the standard library makes of
a line, and of a text that stands for a number, is a parameter.
-/

namespace Vauxr.Speech.Wyoming

open Lib

abbrev Bytes := List UInt8

def newline : UInt8 := 10

/-- A JSON number with a fraction or an exponent, as the library reads it. -/
inductive Float
  | finite (q : ℚ)
  | infinity (negative : Bool)
  | nan
  deriving DecidableEq

inductive Value
  | null
  | bool (b : Bool)
  | int (n : ℤ)
  | float (x : Float)
  | str (t : Text)
  | arr (items : List Value)
  | obj (fields : List (Text × Value))

namespace Value

def truthy : Value → Bool
  | .null => false
  | .bool b => b
  | .int n => n ≠ 0
  | .float x => x ≠ .finite 0
  | .str t => !t.isEmpty
  | .arr items => !items.isEmpty
  | .obj fields => !fields.isEmpty

/-- `fields.get(key)`. -/
def get (fields : List (Text × Value)) (key : Text) : Option Value :=
  (fields.find? (·.1 = key)).map Prod.snd

end Value

/-- What reading a text as JSON comes to: `JSONDecodeError` or `UnicodeDecodeError`, another
exception (the limits on digits and on nesting), or a value. -/
inductive Loaded
  | malformed
  | raised
  | value (v : Value)

/-- `json.loads(line.decode("utf-8"))`, and `int` of a text, which may raise. -/
structure Library where
  loads : Bytes → Loaded
  intOfText : Text → Option ℤ

/-- `int(x)`; nothing where it raises. -/
def Library.int (lib : Library) : Value → Option ℤ
  | .bool b => some (if b then 1 else 0)
  | .int n => some n
  | .float (.finite q) => some (q.num.tdiv q.den)
  | .float _ => none
  | .str t => lib.intOfText t
  | .null | .arr _ | .obj _ => none

/-- `int(parsed.get(key) or 0)`. -/
def Library.length (lib : Library) (fields : List (Text × Value)) (key : Text) : Option ℤ :=
  match Value.get fields key with
  | some v => if v.truthy then lib.int v else some 0
  | none => some 0

structure Event where
  type : Value
  data : Value
  payload : Option Bytes

/-- What a call of the parser comes to: the events, the remainder, and whether it has cut data or a
payload off the buffer that was longer than the buffer. -/
structure Parsed where
  events : List Event
  rest : Bytes
  overrun : Bool

/-- The first line, and what follows it. -/
def splitLine : Bytes → Option (Bytes × Bytes)
  | [] => none
  | b :: buf => if b = newline then some ([], buf) else (splitLine buf).map fun p => (b :: p.1, p.2)

/-- The header of an event: its fields, and the lengths of its data and its payload. -/
structure Header where
  fields : List (Text × Value)
  dataLen : ℤ
  payloadLen : ℤ

namespace Header

/-- `total_trailing`. -/
def total (h : Header) : ℤ := h.dataLen + h.payloadLen

/-- The bytes that are cut off. -/
def size (h : Header) : ℕ := h.dataLen.toNat + h.payloadLen.toNat

/-- `parsed.get("data") or {}`. -/
def data (h : Header) : Value :=
  match Value.get h.fields (text "data") with
  | some v => if v.truthy then v else .obj []
  | none => .obj []

def type (h : Header) : Value := (Value.get h.fields (text "type")).getD (.str [])

/-- More bytes are needed. -/
def waits (h : Header) (rest : Bytes) : Bool := 0 < h.total && rest.length < h.total

end Header

/-- What becomes of a line. -/
inductive Line
  | skip
  | raised
  | header (h : Header)

def Library.readLine (lib : Library) (line : Bytes) : Line :=
  match lib.loads line with
  | .malformed => .skip
  | .raised => .raised
  | .value (.obj fields) =>
    match lib.length fields (text "data_length"), lib.length fields (text "payload_length") with
    | some dataLen, some payloadLen => .header ⟨fields, dataLen, payloadLen⟩
    | _, _ => .raised
  | .value _ => .skip

/-- The event of a header, with its data and its payload cut off what follows; nothing where the
data raises. -/
def Library.event (lib : Library) (h : Header) (rest : Bytes) : Option Event :=
  let payload := if 0 < h.payloadLen then some ((rest.drop h.dataLen.toNat).take h.payloadLen.toNat)
    else none
  if 0 < h.dataLen then
    match lib.loads (rest.take h.dataLen.toNat) with
    | .malformed => some ⟨h.type, h.data, payload⟩
    | .raised => none
    | .value v => some ⟨h.type, v, payload⟩
  else some ⟨h.type, h.data, payload⟩

/-- `parse_wyoming_events`; nothing where it raises. The fuel is the length of the buffer. -/
def Library.parseLoop (lib : Library) : ℕ → Bytes → Option Parsed
  | 0, buf => some ⟨[], buf, false⟩
  | fuel + 1, buf =>
    match splitLine buf with
    | none => some ⟨[], buf, false⟩
    | some (line, rest) =>
      match lib.readLine line with
      | .skip => lib.parseLoop fuel rest
      | .raised => none
      | .header h =>
        if h.waits rest then some ⟨[], buf, false⟩
        else
          match lib.event h rest with
          | none => none
          | some e =>
            (lib.parseLoop fuel (rest.drop h.size)).map fun p =>
              ⟨e :: p.events, p.rest, p.overrun || rest.length < h.size⟩

def Library.parse (lib : Library) (buf : Bytes) : Option Parsed := lib.parseLoop buf.length buf

/-- The loop over the chunks that come in, each behind the remainder. -/
def Library.feed (lib : Library) : Bytes → List Bytes → Option Parsed
  | buf, [] => some ⟨[], buf, false⟩
  | buf, chunk :: chunks =>
    match lib.parse (buf ++ chunk) with
    | none => none
    | some p =>
      (lib.feed p.rest chunks).map fun q =>
        ⟨p.events ++ q.events, q.rest, p.overrun || q.overrun⟩

/-! ### The parser without its fuel -/

section

variable {lib : Library}

lemma splitLine_spec {buf line rest : Bytes} (h : splitLine buf = some (line, rest)) :
    buf = line ++ newline :: rest ∧ newline ∉ line := by
  induction buf generalizing line with
  | nil => cases h
  | cons b buf ih =>
    unfold splitLine at h
    split at h
    next hb =>
      cases h
      exact ⟨by rw [hb, List.nil_append], List.not_mem_nil⟩
    next hb =>
      obtain ⟨⟨line', rest'⟩, hp, he⟩ := Option.map_eq_some_iff.mp h
      cases he
      obtain ⟨rfl, hno⟩ := ih hp
      exact ⟨rfl, by simp [Ne.symm hb, hno]⟩

lemma splitLine_append {line : Bytes} (h : newline ∉ line) (rest : Bytes) :
    splitLine (line ++ newline :: rest) = some (line, rest) := by
  induction line with
  | nil => simp [splitLine]
  | cons b line ih =>
    simp only [List.mem_cons, not_or] at h
    rw [List.cons_append, splitLine, if_neg (Ne.symm h.1), ih h.2]
    rfl

lemma splitLine_length {buf line rest : Bytes} (h : splitLine buf = some (line, rest)) :
    rest.length < buf.length := by
  obtain ⟨rfl, -⟩ := splitLine_spec h
  simp only [List.length_append, List.length_cons]
  omega

lemma splitLine_more {buf line rest : Bytes} (h : splitLine buf = some (line, rest)) (c : Bytes) :
    splitLine (buf ++ c) = some (line, rest ++ c) := by
  obtain ⟨rfl, hno⟩ := splitLine_spec h
  rw [List.append_assoc, List.cons_append]
  exact splitLine_append hno _

lemma parseLoop_fuel {n : ℕ} {buf : Bytes} (h : buf.length ≤ n) :
    lib.parseLoop n buf = lib.parse buf := by
  have key : ∀ k, ∀ buf : Bytes, buf.length ≤ k → ∀ n, buf.length ≤ n →
      lib.parseLoop n buf = lib.parseLoop buf.length buf := by
    intro k
    induction k with
    | zero =>
      intro buf hk n _
      rw [List.eq_nil_of_length_eq_zero (Nat.le_zero.mp hk)]
      cases n <;> rfl
    | succ k ih =>
      intro buf hk n hn
      cases hbuf : buf with
      | nil => cases n <;> rfl
      | cons b t =>
        rw [← hbuf]
        have hlen : buf.length = t.length + 1 := by rw [hbuf, List.length_cons]
        obtain ⟨m, rfl⟩ : ∃ m, n = m + 1 := ⟨n - 1, by omega⟩
        rw [hlen]
        unfold Library.parseLoop
        split
        next => rfl
        next line rest hsplit =>
          have hrest := splitLine_length hsplit
          have hsame : ∀ r : Bytes, r.length ≤ rest.length →
              lib.parseLoop m r = lib.parseLoop t.length r := by
            intro r hr
            rw [ih r (by omega) m (by omega), ih r (by omega) t.length (by omega)]
          have hdrop : ∀ k, (rest.drop k).length ≤ rest.length := by
            intro k
            rw [List.length_drop]
            omega
          split
          · exact hsame rest le_rfl
          · rfl
          · split
            · rfl
            · split
              · rfl
              · rw [hsame _ (hdrop _)]
  exact key buf.length buf le_rfl n h

/-- One turn of the parser's loop. -/
lemma parse_eq (buf : Bytes) :
    lib.parse buf =
      match splitLine buf with
      | none => some ⟨[], buf, false⟩
      | some (line, rest) =>
        match lib.readLine line with
        | .skip => lib.parse rest
        | .raised => none
        | .header h =>
          if h.waits rest then some ⟨[], buf, false⟩
          else
            match lib.event h rest with
            | none => none
            | some e =>
              (lib.parse (rest.drop h.size)).map fun p =>
                ⟨e :: p.events, p.rest, p.overrun || rest.length < h.size⟩ := by
  cases hbuf : buf with
  | nil => rfl
  | cons b t =>
    rw [← hbuf]
    have hlen : buf.length = t.length + 1 := by rw [hbuf, List.length_cons]
    unfold Library.parse
    rw [hlen, Library.parseLoop]
    split
    next => rfl
    next line rest hsplit =>
      have hrest := splitLine_length hsplit
      have hdrop : ∀ k, (rest.drop k).length ≤ t.length := by
        intro k
        rw [List.length_drop]
        omega
      split
      · exact parseLoop_fuel (by omega)
      · rfl
      · split
        · rfl
        · split
          · rfl
          · rw [parseLoop_fuel (hdrop _)]
            rfl

/-! ### Streams that are read the same however they are cut -/

/-- Not one length above zero and the other below. -/
def Header.SameSign (h : Header) : Prop :=
  ¬ (h.dataLen < 0 ∧ 0 < h.payloadLen) ∧ ¬ (h.payloadLen < 0 ∧ 0 < h.dataLen)

variable (lib) in
/-- Every header that the parser comes to in the stream, with all its bytes there, has lengths that
convert and are not of mixed sign, and no line or data raises. -/
inductive Fit : Bytes → Prop
  | short {buf : Bytes} (hsplit : splitLine buf = none) : Fit buf
  | skip {buf line rest : Bytes} (hsplit : splitLine buf = some (line, rest))
      (hline : lib.readLine line = .skip) (hrest : Fit rest) : Fit buf
  | waits {buf line rest : Bytes} {h : Header} (hsplit : splitLine buf = some (line, rest))
      (hline : lib.readLine line = .header h) (hwaits : h.waits rest = true) : Fit buf
  | event {buf line rest : Bytes} {h : Header} {e : Event}
      (hsplit : splitLine buf = some (line, rest)) (hline : lib.readLine line = .header h)
      (hwaits : h.waits rest = false) (hsign : h.SameSign) (hevent : lib.event h rest = some e)
      (hrest : Fit (rest.drop h.size)) : Fit buf

lemma Header.size_le_of_sameSign {h : Header} {rest : Bytes} (hsign : h.SameSign)
    (hwaits : h.waits rest = false) : h.size ≤ rest.length := by
  unfold Header.waits Header.total at hwaits
  unfold Header.SameSign at hsign
  unfold Header.size
  simp only [Bool.and_eq_false_iff, decide_eq_false_iff_not] at hwaits
  omega

lemma Header.waits_append {h : Header} {rest : Bytes} (hwaits : h.waits rest = false) (c : Bytes) :
    h.waits (rest ++ c) = false := by
  unfold Header.waits at hwaits ⊢
  simp only [Bool.and_eq_false_iff, decide_eq_false_iff_not, List.length_append] at hwaits ⊢
  omega

/-- An event is the same with more bytes behind it. -/
lemma event_append {h : Header} {rest : Bytes} (hle : h.size ≤ rest.length) (c : Bytes) :
    lib.event h (rest ++ c) = lib.event h rest := by
  unfold Header.size at hle
  have htake : (rest ++ c).take h.dataLen.toNat = rest.take h.dataLen.toNat :=
    List.take_append_of_le_length (by omega)
  have hdrop : ((rest ++ c).drop h.dataLen.toNat).take h.payloadLen.toNat =
      (rest.drop h.dataLen.toNat).take h.payloadLen.toNat := by
    rw [List.drop_append_of_le_length (by omega), List.take_append_of_le_length]
    rw [List.length_drop]
    omega
  unfold Library.event
  rw [htake, hdrop]

/-- What is parsed of the front of a stream that fits, and what is left to parse with the rest. -/
lemma Fit.front {b c : Bytes} (h : Fit lib (b ++ c)) :
    ∃ p, lib.parse b = some p ∧ p.overrun = false ∧ Fit lib (p.rest ++ c) ∧
      lib.parse p.rest = some ⟨[], p.rest, false⟩ ∧
      lib.parse (b ++ c) = (lib.parse (p.rest ++ c)).map fun q =>
        ⟨p.events ++ q.events, q.rest, q.overrun⟩ := by
  have key : ∀ n, ∀ b : Bytes, b.length ≤ n → Fit lib (b ++ c) →
      ∃ p, lib.parse b = some p ∧ p.overrun = false ∧ Fit lib (p.rest ++ c) ∧
        lib.parse p.rest = some ⟨[], p.rest, false⟩ ∧
        lib.parse (b ++ c) = (lib.parse (p.rest ++ c)).map fun q =>
          ⟨p.events ++ q.events, q.rest, q.overrun⟩ := by
    intro n
    induction n with
    | zero =>
      intro b hb h
      rw [List.eq_nil_of_length_eq_zero (Nat.le_zero.mp hb)] at h ⊢
      exact ⟨⟨[], [], false⟩, rfl, rfl, h, rfl, by simp⟩
    | succ n ih =>
      intro b hb h
      have hstay : lib.parse b = some ⟨[], b, false⟩ →
          ∃ p, lib.parse b = some p ∧ p.overrun = false ∧ Fit lib (p.rest ++ c) ∧
            lib.parse p.rest = some ⟨[], p.rest, false⟩ ∧
            lib.parse (b ++ c) = (lib.parse (p.rest ++ c)).map fun q =>
              ⟨p.events ++ q.events, q.rest, q.overrun⟩ :=
        fun hb => ⟨⟨[], b, false⟩, hb, rfl, h, hb, by simp⟩
      cases hsplit : splitLine b with
      | none =>
        refine hstay ?_
        rw [parse_eq, hsplit]
      | some lr =>
        obtain ⟨line, rest⟩ := lr
        have hmore := splitLine_more hsplit c
        have hlen := splitLine_length hsplit
        cases hline : lib.readLine line with
        | skip =>
          have hrest : Fit lib (rest ++ c) := by
            cases h with
            | short h' =>
              rw [hmore] at h'
              cases h'
            | skip h' _ hr =>
              rw [hmore] at h'
              cases h'
              exact hr
            | waits h' hl _ =>
              rw [hmore] at h'
              cases h'
              rw [hline] at hl
              cases hl
            | event h' hl _ _ _ _ =>
              rw [hmore] at h'
              cases h'
              rw [hline] at hl
              cases hl
          obtain ⟨p, hp, hover, hfit, hstuck, hboth⟩ := ih rest (by omega) hrest
          refine ⟨p, ?_, hover, hfit, hstuck, ?_⟩
          · rw [parse_eq, hsplit]
            simp only [hline, hp]
          · rw [parse_eq (b ++ c), hmore]
            simp only [hline, hboth]
        | raised =>
          cases h with
          | short h' =>
            rw [hmore] at h'
            cases h'
          | skip h' hl _ | waits h' hl _ | event h' hl _ _ _ _ =>
            rw [hmore] at h'
            cases h'
            rw [hline] at hl
            cases hl
        | header hd =>
          cases hwaits : hd.waits rest with
          | true =>
            refine hstay ?_
            rw [parse_eq, hsplit]
            simp only [hline, hwaits, if_true]
          | false =>
            have hwaits' := Header.waits_append hwaits c
            obtain ⟨hsign, e, hevent, hrest⟩ : hd.SameSign ∧ ∃ e,
                lib.event hd (rest ++ c) = some e ∧ Fit lib ((rest ++ c).drop hd.size) := by
              cases h with
              | short h' =>
                rw [hmore] at h'
                cases h'
              | skip h' hl _ =>
                rw [hmore] at h'
                cases h'
                rw [hline] at hl
                cases hl
              | waits h' hl hw =>
                rw [hmore] at h'
                cases h'
                rw [hline] at hl
                cases hl
                rw [hwaits'] at hw
                cases hw
              | event h' hl _ hs he hr =>
                rw [hmore] at h'
                cases h'
                rw [hline] at hl
                cases hl
                exact ⟨hs, _, he, hr⟩
            have hle := Header.size_le_of_sameSign hsign hwaits
            rw [event_append hle] at hevent
            rw [List.drop_append_of_le_length hle] at hrest
            have hshort : (rest.drop hd.size).length ≤ n := by
              rw [List.length_drop]
              omega
            obtain ⟨p, hp, hover, hfit, hstuck, hboth⟩ := ih _ hshort hrest
            have hover' : decide (rest.length < hd.size) = false :=
              decide_eq_false (Nat.not_lt.mpr hle)
            have hover'' : decide ((rest ++ c).length < hd.size) = false := by
              refine decide_eq_false (Nat.not_lt.mpr (hle.trans ?_))
              rw [List.length_append]
              omega
            refine ⟨⟨e :: p.events, p.rest, false⟩, ?_, rfl, hfit, hstuck, ?_⟩
            · rw [parse_eq, hsplit]
              simp only [hline, hwaits, Bool.false_eq_true, if_false, hevent, hp, Option.map_some,
                hover, hover', Bool.or_self]
            · rw [parse_eq (b ++ c), hmore]
              simp only [hline, hwaits', Bool.false_eq_true, if_false, event_append hle, hevent,
                List.drop_append_of_le_length hle, hboth, Option.map_map]
              congr 1
              funext q
              simp only [Function.comp, hover'', Bool.or_false, List.cons_append]
  exact key b.length b le_rfl h

/-- The loop over the chunks comes to what one call on the whole stream does. -/
lemma Fit.feed {buf : Bytes} {chunks : List Bytes}
    (hstuck : lib.parse buf = some ⟨[], buf, false⟩) (h : Fit lib (buf ++ chunks.flatten)) :
    ∃ p, lib.feed buf chunks = some p ∧ lib.parse (buf ++ chunks.flatten) = some p ∧
      p.overrun = false := by
  induction chunks generalizing buf with
  | nil =>
    refine ⟨⟨[], buf, false⟩, rfl, ?_, rfl⟩
    rw [List.flatten_nil, List.append_nil]
    exact hstuck
  | cons chunk chunks ih =>
    rw [List.flatten_cons, ← List.append_assoc] at h ⊢
    obtain ⟨p, hp, hover, hfit, hstuck', hboth⟩ := h.front
    obtain ⟨q, hq, hparse, hover'⟩ := ih hstuck' hfit
    refine ⟨⟨p.events ++ q.events, q.rest, q.overrun⟩, ?_, ?_, hover'⟩
    · rw [Library.feed, hp]
      simp only [hq, Option.map_some, hover, Bool.false_or]
    · rw [hboth, hparse]
      rfl

/-- A call that neither raises nor takes more than there is. -/
def Clean (o : Option Parsed) : Prop := ∃ p, o = some p ∧ p.overrun = false

/-- A stream of which every front is read cleanly fits. -/
lemma fit_of_clean {s : Bytes} (h : ∀ b, b <+: s → Clean (lib.parse b)) : Fit lib s := by
  have key : ∀ n, ∀ s : Bytes, s.length ≤ n → (∀ b, b <+: s → Clean (lib.parse b)) →
      Fit lib s := by
    intro n
    induction n with
    | zero =>
      intro s hs _
      rw [List.eq_nil_of_length_eq_zero (Nat.le_zero.mp hs)]
      exact .short rfl
    | succ n ih =>
      intro s hs h
      cases hsplit : splitLine s with
      | none => exact .short hsplit
      | some lr =>
        obtain ⟨line, rest⟩ := lr
        obtain ⟨hline', hno⟩ := splitLine_spec hsplit
        have hlen := splitLine_length hsplit
        -- a front that ends behind the line
        have hfront : ∀ r, r <+: rest → line ++ newline :: r <+: s := by
          intro r hr
          rw [hline']
          exact (List.prefix_append_right_inj line).mpr ((List.prefix_cons_inj newline).mpr hr)
        cases hline : lib.readLine line with
        | skip =>
          refine .skip hsplit hline (ih rest (by omega) fun b hb => ?_)
          have hclean := h _ (hfront b hb)
          rw [parse_eq, splitLine_append hno] at hclean
          simpa only [hline] using hclean
        | raised =>
          obtain ⟨p, hp, -⟩ := h s List.prefix_rfl
          rw [parse_eq, hsplit] at hp
          simp only [hline, reduceCtorEq] at hp
        | header hd =>
          cases hwaits : hd.waits rest with
          | true => exact .waits hsplit hline hwaits
          | false =>
            have hsign : hd.SameSign := by
              by_contra hmixed
              -- the front that has as many bytes as the sum of the lengths
              have htotal : hd.total.toNat ≤ rest.length := by
                unfold Header.waits at hwaits
                simp only [Bool.and_eq_false_iff, decide_eq_false_iff_not] at hwaits
                omega
              have hk : (rest.take hd.total.toNat).length = hd.total.toNat := by
                rw [List.length_take]
                omega
              have hgo : hd.waits (rest.take hd.total.toNat) = false := by
                unfold Header.waits
                simp only [Bool.and_eq_false_iff, decide_eq_false_iff_not, hk]
                omega
              have hover : (rest.take hd.total.toNat).length < hd.size := by
                rw [hk]
                unfold Header.SameSign at hmixed
                unfold Header.size Header.total
                omega
              obtain ⟨p, hp, hno'⟩ := h _ (hfront _ (List.take_prefix hd.total.toNat rest))
              rw [parse_eq, splitLine_append hno] at hp
              simp only [hline, hgo, Bool.false_eq_true, if_false] at hp
              split at hp
              next => cases hp
              next =>
                obtain ⟨q, -, rfl⟩ := Option.map_eq_some_iff.mp hp
                simp only [Bool.or_eq_false_iff, decide_eq_false_iff_not] at hno'
                exact hno'.2 hover
            have hle := Header.size_le_of_sameSign hsign hwaits
            cases hevent : lib.event hd rest with
            | none =>
              obtain ⟨p, hp, -⟩ := h s List.prefix_rfl
              rw [parse_eq, hsplit] at hp
              simp only [hline, hwaits, Bool.false_eq_true, if_false, hevent, reduceCtorEq] at hp
            | some e =>
              refine .event hsplit hline hwaits hsign hevent (ih _ ?_ fun b hb => ?_)
              · rw [List.length_drop]
                omega
              · have hpre : rest.take hd.size ++ b <+: rest := by
                  conv_rhs => rw [← List.take_append_drop hd.size rest]
                  exact (List.prefix_append_right_inj _).mpr hb
                have hsize : (rest.take hd.size).length = hd.size := by
                  rw [List.length_take]
                  omega
                have hgo : hd.waits (rest.take hd.size ++ b) = false := by
                  refine Header.waits_append ?_ b
                  unfold Header.waits Header.total
                  unfold Header.SameSign at hsign
                  simp only [Bool.and_eq_false_iff, decide_eq_false_iff_not, hsize]
                  unfold Header.size
                  omega
                have hsame : lib.event hd (rest.take hd.size ++ b) = some e := by
                  rw [event_append hsize.ge, ← hevent]
                  conv_rhs => rw [← List.take_append_drop hd.size rest]
                  rw [event_append hsize.ge]
                have hdrop : (rest.take hd.size ++ b).drop hd.size = b := by
                  rw [List.drop_append_of_le_length hsize.ge,
                    List.drop_eq_nil_of_le hsize.le, List.nil_append]
                obtain ⟨p, hp, hno'⟩ := h _ (hfront _ hpre)
                rw [parse_eq, splitLine_append hno] at hp
                simp only [hline, hgo, Bool.false_eq_true, if_false, hsame, hdrop] at hp
                obtain ⟨q, hq, rfl⟩ := Option.map_eq_some_iff.mp hp
                refine ⟨q, hq, ?_⟩
                simp only [Bool.or_eq_false_iff] at hno'
                exact hno'.1
  exact key s.length s le_rfl h

variable (lib) in
/-- However the stream is cut into chunks, the loop over them never raises, never takes bytes that
have not come yet, and comes to what one call on the whole stream does. -/
def Incremental (stream : Bytes) : Prop :=
  ∀ chunks : List Bytes, chunks.flatten = stream →
    ∃ p, lib.feed [] chunks = some p ∧ lib.parse stream = some p ∧ p.overrun = false

/-- **Parsing is incremental on the streams that fit, and on no others.** Lines that are not headers
are skipped one by one on every stream. -/
theorem incremental_iff_fit (lib : Library) (stream : Bytes) :
    (Incremental lib stream ↔ Fit lib stream) ∧
      ∀ line, newline ∉ line → lib.readLine line = .skip →
        lib.parse (line ++ newline :: stream) = lib.parse stream := by
  refine ⟨⟨fun h => fit_of_clean fun b hb => ?_, fun h chunks hchunks => ?_⟩,
    fun line hno hline => ?_⟩
  · obtain ⟨c, rfl⟩ := hb
    obtain ⟨p, hp, -, hover⟩ := h [b, c] (by simp)
    rw [Library.feed, List.nil_append] at hp
    cases hparse : lib.parse b with
    | none =>
      rw [hparse] at hp
      cases hp
    | some q =>
      rw [hparse] at hp
      obtain ⟨r, -, rfl⟩ := Option.map_eq_some_iff.mp hp
      refine ⟨q, rfl, ?_⟩
      simp only [Bool.or_eq_false_iff] at hover
      exact hover.1
  · subst hchunks
    exact @Fit.feed lib [] _ rfl h
  · rw [parse_eq, splitLine_append hno]
    simp only [hline]

end

/-- The bytes of a text in ASCII. -/
def ascii (s : String) : Bytes := s.toList.map fun c => UInt8.ofNat c.toNat

/-- The library on the one line that the sample is about; `int("abc")` raises. -/
def oneLine (line : String) (fields : List (Text × Value)) : Library where
  loads b := if b = ascii line then .value (.obj fields) else .malformed
  intOfText _ := none

/-- A length that is no number ends the loop, and a length below zero has a payload cut off before
it is there. -/
theorem lengths_not_checked :
    ¬ Incremental (oneLine "\x7b\"data_length\":\"abc\"\x7d"
        [(text "data_length", .str (text "abc"))])
        (ascii "\x7b\"data_length\":\"abc\"\x7d\n") ∧
      ¬ Incremental (oneLine "\x7b\"data_length\":-2,\"payload_length\":4\x7d"
        [(text "data_length", .int (-2)), (text "payload_length", .int 4)])
        (ascii "\x7b\"data_length\":-2,\"payload_length\":4\x7d\nabcd") := by
  constructor
  · intro h
    obtain ⟨p, -, hp, -⟩ := h [_] (List.flatten_singleton)
    have hraised : (oneLine "\x7b\"data_length\":\"abc\"\x7d"
        [(text "data_length", .str (text "abc"))]).parse
          (ascii "\x7b\"data_length\":\"abc\"\x7d\n") = none := rfl
    rw [hraised] at hp
    cases hp
  · intro h
    obtain ⟨p, hp, -, hover⟩ := h [ascii "\x7b\"data_length\":-2,\"payload_length\":4\x7d\nab",
      ascii "cd"] rfl
    have hcut : ((oneLine "\x7b\"data_length\":-2,\"payload_length\":4\x7d"
        [(text "data_length", .int (-2)), (text "payload_length", .int 4)]).feed []
          [ascii "\x7b\"data_length\":-2,\"payload_length\":4\x7d\nab", ascii "cd"]).map
            Parsed.overrun = some true := rfl
    rw [hp, Option.map_some, hover] at hcut
    cases hcut

end Vauxr.Speech.Wyoming
