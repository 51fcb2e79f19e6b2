import Mathlib
import Vauxr.Speech.Wyoming

/-!
What is written as Wyoming events is read as the same events (`encode_event` of
`speech/wyoming_protocol.py`).

The JSON library is a parameter here as well: all that is asked of it is that it reads back the
headers that it has written, and writes each of them on one line.
-/

namespace Vauxr.Speech.Wyoming

open Lib

/-- A `WyomingEvent` to be written. -/
structure WyomingEvent where
  type : Text
  data : List (Text × Value)
  payload : Option Bytes

namespace WyomingEvent

/-- The payload, unless it is empty. -/
def body (e : WyomingEvent) : Option Bytes := e.payload.filter fun p => 0 < p.length

/-- The object of the line. -/
def header (e : WyomingEvent) : List (Text × Value) :=
  [(text "type", .str e.type), (text "data", .obj e.data)] ++
    match e.body with
    | some p => [(text "payload_length", .int p.length)]
    | none => []

/-- What the event reads back as. -/
def event (e : WyomingEvent) : Event := ⟨.str e.type, .obj e.data, e.body⟩

end WyomingEvent

/-- `json.dumps`, beside the reader. -/
structure Writer extends Library where
  dumps : List (Text × Value) → Bytes

namespace Writer

/-- `encode_event`. -/
def encodeEvent (w : Writer) (e : WyomingEvent) : Bytes :=
  w.dumps e.header ++ newline :: e.body.getD []

/-- What is sent for several events. -/
def encodeAll (w : Writer) (events : List WyomingEvent) : Bytes :=
  (events.map w.encodeEvent).flatten

/-- The library reads the header of an event as it has written it, on a line of its own. -/
structure ReadsBack (w : Writer) (e : WyomingEvent) : Prop where
  line : newline ∉ w.dumps e.header
  loads : w.loads (w.dumps e.header) = .value (.obj e.header)

end Writer

variable {w : Writer} {e : WyomingEvent} {events : List WyomingEvent}

/-! ### One event -/

lemma get_cons (k key : Text) (v : Value) (fields : List (Text × Value)) :
    Value.get ((k, v) :: fields) key = if k = key then some v else Value.get fields key := by
  unfold Value.get
  by_cases h : k = key <;> simp [h]

lemma body_cases (e : WyomingEvent) : e.body = none ∨ ∃ p, e.body = some p ∧ 0 < p.length := by
  unfold WyomingEvent.body
  cases e.payload with
  | none => exact Or.inl rfl
  | some p =>
    cases p with
    | nil => exact Or.inl rfl
    | cons b p => exact Or.inr ⟨b :: p, rfl, Nat.succ_pos _⟩

/-- The header as the parser takes it. -/
def WyomingEvent.taken (e : WyomingEvent) : Header where
  fields := e.header
  dataLen := 0
  payloadLen := (e.body.getD []).length

lemma length_data (lib : Library) (e : WyomingEvent) :
    lib.length e.header (text "data_length") = some 0 := by
  have h1 : text "type" ≠ text "data_length" := by decide
  have h2 : text "data" ≠ text "data_length" := by decide
  have h3 : text "payload_length" ≠ text "data_length" := by decide
  have hget : Value.get e.header (text "data_length") = none := by
    rcases body_cases e with hb | ⟨p, hb, -⟩ <;>
      simp [WyomingEvent.header, hb, h1, h2, h3, Value.get]
  rw [Library.length, hget]

lemma length_payload (lib : Library) (e : WyomingEvent) :
    lib.length e.header (text "payload_length") = some ((e.body.getD []).length : ℤ) := by
  have h1 : text "type" ≠ text "payload_length" := by decide
  have h2 : text "data" ≠ text "payload_length" := by decide
  rcases body_cases e with hb | ⟨p, hb, hp⟩
  · have hget : Value.get e.header (text "payload_length") = none := by
      simp [WyomingEvent.header, hb, h1, h2, Value.get]
    rw [Library.length, hget, hb]
    rfl
  · have hget : Value.get e.header (text "payload_length") = some (.int p.length) := by
      simp [WyomingEvent.header, hb, get_cons, h1, h2]
    have htruthy : (Value.int p.length).truthy = true :=
      decide_eq_true (Int.natCast_ne_zero.mpr hp.ne')
    rw [Library.length, hget, hb]
    simp only [htruthy, if_true]
    rfl

lemma taken_type (e : WyomingEvent) : e.taken.type = .str e.type := by
  simp [Header.type, WyomingEvent.taken, WyomingEvent.header, get_cons]

lemma taken_data (e : WyomingEvent) : e.taken.data = .obj e.data := by
  have h1 : text "type" ≠ text "data" := by decide
  have hget : Value.get e.taken.fields (text "data") = some (.obj e.data) := by
    simp [WyomingEvent.taken, WyomingEvent.header, get_cons, h1]
  rw [Header.data, hget]
  cases e.data <;> rfl

lemma readLine_header {lib : Library} {line : Bytes}
    (h : lib.loads line = .value (.obj e.header)) : lib.readLine line = .header e.taken := by
  rw [Library.readLine, h]
  simp only [length_data, length_payload]
  rfl

lemma taken_size (e : WyomingEvent) : e.taken.size = (e.body.getD []).length :=
  (Nat.zero_add _).trans (Int.toNat_natCast _)

lemma taken_sameSign (e : WyomingEvent) : e.taken.SameSign :=
  ⟨fun h => absurd h.1 (lt_irrefl _), fun h => absurd h.2 (lt_irrefl _)⟩

lemma taken_waits (e : WyomingEvent) (rest : Bytes) :
    e.taken.waits (e.body.getD [] ++ rest) = false := by
  have htotal : e.taken.total = (e.body.getD []).length := zero_add _
  rw [Header.waits, htotal]
  simp

/-- The event is there as soon as its payload is. -/
lemma taken_event (lib : Library) (e : WyomingEvent) (rest : Bytes) :
    lib.event e.taken (e.body.getD [] ++ rest) = some e.event := by
  have hpayload : (if 0 < e.taken.payloadLen then
      some (((e.body.getD [] ++ rest).drop e.taken.dataLen.toNat).take e.taken.payloadLen.toNat)
      else none) = e.body := by
    rcases body_cases e with hb | ⟨p, hb, hp⟩
    · simp [WyomingEvent.taken, hb]
    · simp [WyomingEvent.taken, hb, hp]
  rw [Library.event]
  simp only [hpayload, taken_type, taken_data]
  rfl

/-! ### All events -/

lemma encodeAll_cons : w.encodeAll (e :: events) =
    w.dumps e.header ++ newline :: (e.body.getD [] ++ w.encodeAll events) := by
  simp [Writer.encodeAll, Writer.encodeEvent]

lemma drop_body (e : WyomingEvent) (rest : Bytes) :
    (e.body.getD [] ++ rest).drop e.taken.size = rest := by
  rw [taken_size, List.drop_left]

/-- **What is written fits**, and one call reads it. -/
lemma parse_encodeAll (h : ∀ e ∈ events, w.ReadsBack e) :
    Fit w.toLibrary (w.encodeAll events) ∧
      w.parse (w.encodeAll events) = some ⟨events.map WyomingEvent.event, [], false⟩ := by
  induction events with
  | nil => exact ⟨.short rfl, rfl⟩
  | cons e events ih =>
    obtain ⟨he, hevents⟩ := List.forall_mem_cons.mp h
    obtain ⟨hfit, hparse⟩ := ih hevents
    have hsplit : splitLine (w.encodeAll (e :: events)) =
        some (w.dumps e.header, e.body.getD [] ++ w.encodeAll events) := by
      rw [encodeAll_cons]
      exact splitLine_append he.line _
    have hline := readLine_header he.loads
    have hwaits := taken_waits e (w.encodeAll events)
    have hevent := taken_event w.toLibrary e (w.encodeAll events)
    have hdrop := drop_body e (w.encodeAll events)
    constructor
    · exact .event hsplit hline hwaits (taken_sameSign e) hevent (hdrop.symm ▸ hfit)
    · have hover :
          decide ((e.body.getD [] ++ w.encodeAll events).length < e.taken.size) = false := by
        rw [taken_size]
        simp
      rw [parse_eq, hsplit]
      simp only [hline, hwaits, hevent, hdrop, hparse, hover, Bool.false_eq_true, if_false,
        Option.map_some, Bool.or_self]
      rfl

/-- The loop on some chunks, and then on more. -/
lemma feed_append (lib : Library) (buf : Bytes) (chunks chunks' : List Bytes) :
    lib.feed buf (chunks ++ chunks') =
      (lib.feed buf chunks).bind fun p => (lib.feed p.rest chunks').map fun q =>
        ⟨p.events ++ q.events, q.rest, p.overrun || q.overrun⟩ := by
  induction chunks generalizing buf with
  | nil => simp [Library.feed]
  | cons chunk chunks ih =>
    rw [List.cons_append, Library.feed, Library.feed]
    cases lib.parse (buf ++ chunk) with
    | none => rfl
    | some p =>
      simp only [ih]
      cases lib.feed p.rest chunks with
      | none => rfl
      | some q => simp [Function.comp_def, Bool.or_assoc]

/-- **Events survive the wire**: however what is written for them is cut into chunks, feeding the
chunks to the parser gives the events in order and leaves nothing over; and while chunks are still
to come, the parser has given the first of the events and nothing else. -/
theorem feed_encodeAll (w : Writer) (events : List WyomingEvent)
    (h : ∀ e ∈ events, w.ReadsBack e) (chunks chunks' : List Bytes)
    (hcut : (chunks ++ chunks').flatten = w.encodeAll events) :
    w.feed [] (chunks ++ chunks') = some ⟨events.map WyomingEvent.event, [], false⟩ ∧
      ∃ p, w.feed [] chunks = some p ∧ p.events <+: events.map WyomingEvent.event := by
  obtain ⟨hfit, hparse⟩ := parse_encodeAll h
  have hall : w.feed [] (chunks ++ chunks') =
      some ⟨events.map WyomingEvent.event, [], false⟩ := by
    have hstream : Fit w.toLibrary ([] ++ (chunks ++ chunks').flatten) := by
      rwa [List.nil_append, hcut]
    obtain ⟨p, hfeed, hp, -⟩ := hstream.feed rfl
    rw [hfeed, ← hp, List.nil_append, hcut, hparse]
  refine ⟨hall, ?_⟩
  rw [feed_append] at hall
  obtain ⟨p, hp, hrest⟩ := Option.bind_eq_some_iff.mp hall
  obtain ⟨q, -, hq⟩ := Option.map_eq_some_iff.mp hrest
  have hevents : p.events ++ q.events = events.map WyomingEvent.event := congrArg Parsed.events hq
  exact ⟨p, hp, hevents ▸ List.prefix_append _ _⟩

/-- An audio chunk whose payload has a line break in it. -/
def chunkEvent : WyomingEvent where
  type := text "audio-chunk"
  data := [(text "rate", .int 16000)]
  payload := some [0, newline, 7]

def chunkLine : Bytes :=
  ascii "\x7b\"type\":\"audio-chunk\",\"data\":\x7b\"rate\":16000\x7d" ++
    ascii ",\"payload_length\":3\x7d"

/-- The library on the header of that event. -/
def chunkWriter : Writer where
  loads b := if b = chunkLine then .value (.obj chunkEvent.header) else .malformed
  intOfText _ := none
  dumps _ := chunkLine

/-- Two events, cut within the header of the second. -/
theorem feed_two_chunks :
    let stream := chunkWriter.encodeAll [chunkEvent, chunkEvent]
    chunkWriter.feed [] ([stream.take 80] ++ [stream.drop 80]) =
        some ⟨[chunkEvent.event, chunkEvent.event], [], false⟩ ∧
      ∃ p, chunkWriter.feed [] [stream.take 80] = some p ∧
        p.events <+: [chunkEvent.event, chunkEvent.event] := by
  have hreads : chunkWriter.ReadsBack chunkEvent := ⟨by decide, rfl⟩
  refine feed_encodeAll chunkWriter [chunkEvent, chunkEvent] ?_ _ _ ?_
  · simp [hreads]
  · simp

end Vauxr.Speech.Wyoming
