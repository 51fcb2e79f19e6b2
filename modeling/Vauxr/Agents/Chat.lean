import Mathlib
import Vauxr.Agents.ChatCall
import Vauxr.Lib.Rank
import Vauxr.Lib.Run

/-!
The requests of the OpenClaw client (`agents/openclaw.py`): `chat`, the reader of a socket, and the
teardown of a connection, over the table of pending requests and the table of chat listeners.

A step lasts from one point of suspension to the next. Any number of readers may be there: a new
connection is opened while the reader of an old one is still leaving.
-/

namespace Vauxr.OpenClaw

open Lib

/-- Whom an entry of `_pending` belongs to: a call of `chat`, or a handshake. -/
inductive Holder
  | chat (k : ℕ) | connect (h : ℕ)
  deriving DecidableEq

/-- `_await_connect`: its task is made behind the connect request, looks its entry up, and waits
for the future that it finds there. -/
inductive Awaiting
  | unsent | starting
  | response (holder : Holder)
  | over

structure Handshake where
  id : ℕ
  response : Future
  phase : Awaiting

/-- The reader of a socket is made, waits for a message, sends a connect request, is behind its loop
and calls the disconnect handlers, or is over. -/
inductive Reading
  | made | listening
  | replying (h : ℕ)
  | leaving | ended
  deriving DecidableEq

/-- A reader; `cancelled` is whether it has been cancelled and has not seen it yet. -/
structure Listener where
  phase : Reading
  cancelled : Bool
  deriving DecidableEq

/-- The client. `current` is `_reader_task`, `teardowns` counts the teardowns under way; `log` lists
the chat events that readers have taken, and `cuts` counts how often the tables were cleared. -/
structure Gateway where
  connected : Bool
  ws : Bool
  reqId : ℕ
  calls : List Call
  pending : Dict ℕ Holder
  chats : Dict Key ℕ
  readers : List Listener
  handshakes : List Handshake
  teardowns : ℕ
  log : List (String × Event)
  cuts : ℕ

/-- `leave` is the end of the loop of a reader, by its socket or by an exception; `broken` is the
end of a reader in the middle of what is behind the loop, by a handler that raises or by its
cancellation. -/
inductive Step
  | chat
  | sent (k : ℕ) (ok : Bool)
  | wake (k : ℕ)
  | opened
  | begin (i : ℕ)
  | received (i : ℕ) (frame : Json)
  | replied (i : ℕ) (ok : Bool)
  | awaitConnect (h : ℕ)
  | leave (i : ℕ)
  | exit (i : ℕ)
  | broken (i : ℕ)
  | teardown
  | tornDown

namespace Gateway

def start : Gateway := ⟨false, false, 0, [], Dict.empty, Dict.empty, [], [], 0, [], 0⟩

/-- The number of the next request. -/
def nextReqId (s : Gateway) : ℕ := (s.reqId + 1) % 100000

/-- `chat` up to its first suspension; where the client is not connected it raises at once. -/
def chat (s : Gateway) : Gateway :=
  if s.connected ∧ s.ws then
    { s with
      reqId := s.nextReqId
      pending := s.pending.set s.nextReqId (.chat s.calls.length)
      calls := s.calls ++ [Call.start s.nextReqId s.cuts] }
  else s

/-- The reader answers a challenge with a connect request. -/
def challenge (s : Gateway) (i : ℕ) : Gateway :=
  { s with
    reqId := s.nextReqId
    pending := s.pending.set s.nextReqId (.connect s.handshakes.length)
    handshakes := s.handshakes ++ [⟨s.nextReqId, .waiting, .unsent⟩]
    readers := s.readers.modify i fun r => { r with phase := .replying s.handshakes.length } }

/-- What a response makes of a handshake, whose payload is not looked at here. -/
def accept (reply : Reply) (h : Handshake) : Handshake :=
  match reply with
  | .refused shown => { h with response := .failed (.refused shown) }
  | _ => { h with response := .done }

/-- `_install_listener`, for the listener of the call `k`. -/
def installListener (chats : Dict Key ℕ) (k : ℕ) : Reply → Dict Key ℕ
  | .run key => chats.set key k
  | _ => chats

/-- The response to the request with the number `id`. -/
def respond (s : Gateway) (id : ℕ) (reply : Reply) : Gateway :=
  match s.pending.get? id with
  | none => s
  | some (.connect h) =>
    { s with pending := s.pending.erase id, handshakes := s.handshakes.modify h (accept reply) }
  | some (.chat k) =>
    { s with
      pending := s.pending.erase id
      calls := s.calls.modify k (Call.respond reply)
      chats := installListener s.chats k reply }

/-- The loop of a reader ends. -/
def leave (s : Gateway) (i : ℕ) : Gateway :=
  { s with
    connected := false
    readers := s.readers.modify i fun _ => ⟨.leaving, false⟩ }

/-- An event takes its run off the table of listeners. -/
def Ends : Event → Bool
  | .final => true
  | .error _ => true
  | .aborted => true
  | _ => false

/-- A chat event; one that is malformed ends the reader when somebody listens to its run. -/
def hear (s : Gateway) (i : ℕ) (run : String) (event : Event) : Gateway :=
  let s := { s with log := s.log ++ [(run, event)] }
  match s.chats.get? (.text run) with
  | none => s
  | some k =>
    let s :=
      { s with
        calls := s.calls.modify k (Call.hear event)
        chats := if Ends event then s.chats.erase (.text run) else s.chats }
    match event with
    | .malformed => s.leave i
    | _ => s

/-- `_handle_message` up to its first suspension. -/
def handle (s : Gateway) (i : ℕ) : Message → Gateway
  | .challenge _ => s.challenge i
  | .response id reply => s.respond id reply
  | .chat run event => s.hear i run event
  | .ignored => s

/-- Every pending request and every chat is rejected, and the tables are cleared. -/
def reject (s : Gateway) : Gateway :=
  { s with
    calls := s.calls.mapIdx fun k c =>
      c.cut (.chat k ∈ s.pending.values) (k ∈ s.chats.values)
    handshakes := s.handshakes.mapIdx fun h c =>
      if .connect h ∈ s.pending.values then
        { c with response := c.response.settle (.failed .disconnected) }
      else c
    pending := Dict.empty
    chats := Dict.empty
    cuts := s.cuts + 1 }

/-- The future of an entry of `_pending`. -/
def future (s : Gateway) : Holder → Option Future
  | .chat k => s.calls[k]?.map Call.response
  | .connect h => s.handshakes[h]?.map Handshake.response

/-- The task of a handshake is resumed; a task that does not find its entry is over. -/
def awaitConnect (s : Gateway) (h : ℕ) : Gateway :=
  match s.handshakes[h]? with
  | none => s
  | some c =>
    let moved (phase : Awaiting) : Gateway :=
      { s with handshakes := s.handshakes.set h { c with phase } }
    match c.phase with
    | .starting =>
      match s.pending.get? c.id with
      | some holder => moved (.response holder)
      | none => moved .over
    | .response holder =>
      match s.future holder with
      | some .done => { moved .over with connected := true }
      | some (.failed _) => moved .over
      | _ => s
    | _ => s

/-- The connect request of a reader is sent, or `send_str` raises. -/
def replied (s : Gateway) (i : ℕ) (ok : Bool) : Gateway :=
  match s.readers[i]? with
  | some ⟨.replying h, cancelled⟩ =>
    if ok && !cancelled then
      { s with
        readers := s.readers.set i ⟨.listening, false⟩
        handshakes := s.handshakes.modify h fun c => { c with phase := .starting } }
    else s.leave i
  | _ => s

/-- The loop of a reader is left where it waits. -/
def left (s : Gateway) (i : ℕ) : Gateway :=
  match s.readers[i]? with
  | some ⟨.listening, _⟩ => s.leave i
  | some ⟨.replying _, _⟩ => s.leave i
  | _ => s

def step (s : Gateway) : Step → Gateway
  | .chat => s.chat
  | .sent k ok => { s with calls := s.calls.modify k (Call.sent ok) }
  | .wake k => { s with calls := s.calls.modify k Call.wake }
  | .opened => { s with ws := true, readers := s.readers ++ [⟨.made, false⟩] }
  | .begin i =>
    match s.readers[i]? with
    | some ⟨.made, cancelled⟩ =>
      { s with readers := s.readers.set i ⟨if cancelled then .ended else .listening, false⟩ }
    | _ => s
  | .received i frame =>
    if s.readers[i]? = some ⟨.listening, false⟩ then s.handle i (Message.read frame) else s
  | .replied i ok => s.replied i ok
  | .awaitConnect h => s.awaitConnect h
  | .leave i => s.left i
  | .exit i =>
    match s.readers[i]? with
    | some ⟨.leaving, _⟩ => { s.reject with readers := s.readers.set i ⟨.ended, false⟩ }
    | _ => s
  | .broken i =>
    match s.readers[i]? with
    | some ⟨.leaving, _⟩ => { s with readers := s.readers.set i ⟨.ended, false⟩ }
    | _ => s
  | .teardown =>
    { s with
      connected := false
      teardowns := s.teardowns + 1
      readers := s.readers.modify (s.readers.length - 1) fun r =>
        { r with cancelled := r.phase ≠ .ended } }
  | .tornDown =>
    if 0 < s.teardowns then { s.reject with ws := false, teardowns := s.teardowns - 1 } else s

/-! ### What is asked of a run -/

/-- A reader that will clear the tables at its end, or a teardown that will. -/
def Served (s : Gateway) : Prop :=
  (∃ (i : ℕ) (r : Listener), s.readers[i]? = some r ∧ r.phase ≠ .ended ∧ r.cancelled = false) ∨
    0 < s.teardowns

/-- The call is there, and its futures are not done. -/
def Suspended (s : Gateway) (k : ℕ) : Prop := ∃ c : Call, s.calls[k]? = some c ∧ c.outcome = none

/-- The call has returned, or raised. -/
def Over (s : Gateway) (k : ℕ) : Prop :=
  ∃ (c : Call) (o : Outcome), s.calls[k]? = some c ∧ c.phase = .ended o

/-- No pending request and no listener is there, and no call whose futures are not done. -/
structure Cleared (s : Gateway) : Prop where
  pending : ∀ id, s.pending.get? id = none
  chats : ∀ key, s.chats.get? key = none
  calls : ∀ c ∈ s.calls, c.outcome ≠ none

/-- What is claimed of the client. -/
structure Settled (s : Gateway) : Prop where
  calls : ∀ c ∈ s.calls, c.Right s.log s.cuts
  cleared : ¬ s.Served → s.Cleared

/-- A step that clears the tables: the end of a reader behind its loop, or of a teardown. -/
def Clears (s : Gateway) : Step → Prop
  | .exit i => ∃ cancelled, s.readers[i]? = some ⟨.leaving, cancelled⟩
  | .tornDown => 0 < s.teardowns
  | _ => False

/-- The gateway names a run that is the run of no other call, before any event of it. -/
def Orderly (s : Gateway) : Step → Prop
  | .received _ frame => ∀ id key k, Message.read frame = .response id (.run key) →
      s.pending.get? id = some (.chat k) →
      (∀ e ∈ s.log, key ≠ .text e.1) ∧ ∀ c ∈ s.calls, c.reply ≠ some (.run key)
  | _ => True

/-- The number of the next request is not that of a call that waits for its response. -/
def Free (s : Gateway) : Prop := ∀ k, s.pending.get? s.nextReqId ≠ some (.chat k)

/-- What must not happen: a request under the number of a call that waits, a call that is let in
when nothing is left to clear the tables, and a disconnect handler that raises. -/
def Regular (s : Gateway) : Step → Prop
  | .chat => s.connected = true ∧ s.ws = true → s.Free ∧ s.Served
  | .received i frame => s.readers[i]? = some ⟨.listening, false⟩ →
      ∀ nonce, Message.read frame = .challenge nonce → s.Free
  | .broken i => s.readers[i]? ≠ some ⟨.leaving, false⟩
  | _ => True

/-- How the tables and the calls stand to each other: a call that waits for its response is among
the pending, one that waits for the end of its run is among the chats, and no other is. -/
structure Books (s : Gateway) : Prop where
  call : ∀ (k : ℕ) (c : Call), s.calls[k]? = some c → c.Inv s.log s.cuts
  held : ∀ id k, s.pending.get? id = some (.chat k) →
    ∃ c, s.calls[k]? = some c ∧ c.id = id ∧ c.response = .waiting
  waits : ∀ (k : ℕ) (c : Call), s.calls[k]? = some c → c.response = .waiting →
    s.pending.get? c.id = some (.chat k)
  listed : ∀ key k, s.chats.get? key = some k →
    ∃ c, s.calls[k]? = some c ∧ c.reply = some (.run key) ∧ c.response = .done ∧ c.run = .waiting
  listens : ∀ (k : ℕ) (c : Call), s.calls[k]? = some c → c.response = .done → c.run = .waiting →
    ∃ key, c.reply = some (.run key) ∧ s.chats.get? key = some k

/-- One of the tables has an entry. -/
def Owing (s : Gateway) : Prop :=
  (∃ id holder, s.pending.get? id = some holder) ∨ ∃ key k, s.chats.get? key = some k

structure Inv (s : Gateway) : Prop where
  books : s.Books
  served : s.Owing → s.Served

variable {s : Gateway}

/-- Where the tables are empty, no call waits. -/
lemma Books.cleared (h : s.Books) (hpending : ∀ id, s.pending.get? id = none)
    (hchats : ∀ key, s.chats.get? key = none) : s.Cleared := by
  refine ⟨hpending, hchats, fun c hc hopen => ?_⟩
  obtain ⟨k, hk⟩ := List.mem_iff_getElem?.mp hc
  cases hresponse : c.response with
  | waiting =>
    have hin := h.waits k c hk hresponse
    rw [hpending] at hin
    cases hin
  | failed e => simp [Call.outcome, hresponse] at hopen
  | done =>
    cases hrun : c.run with
    | waiting =>
      obtain ⟨key, -, hin⟩ := h.listens k c hk hresponse hrun
      rw [hchats] at hin
      cases hin
    | done => simp [Call.outcome, hresponse, hrun] at hopen
    | failed e => simp [Call.outcome, hresponse, hrun] at hopen

/-- What is claimed follows from the invariant. -/
lemma Inv.settled (h : s.Inv) : s.Settled where
  calls c hc := by
    obtain ⟨k, hk⟩ := List.mem_iff_getElem?.mp hc
    exact (h.books.call k c hk).right
  cleared hunserved := by
    refine h.books.cleared (fun id => ?_) fun key => ?_
    · cases hid : s.pending.get? id with
      | none => rfl
      | some holder => exact absurd (h.served (.inl ⟨id, holder, hid⟩)) hunserved
    · cases hkey : s.chats.get? key with
      | none => rfl
      | some k => exact absurd (h.served (.inr ⟨key, k, hkey⟩)) hunserved

/-! ### The tables and the calls -/

lemma get_modify {f : Call → Call} {k j : ℕ} {c' : Call}
    (h : (s.calls.modify k f)[j]? = some c') :
    ∃ c, s.calls[j]? = some c ∧ c' = if k = j then f c else c := by
  rw [List.getElem?_modify] at h
  cases hc : s.calls[j]? with
  | none =>
    rw [hc] at h
    cases h
  | some c =>
    rw [hc] at h
    exact ⟨c, rfl, (Option.some.inj h).symm⟩

lemma modify_get {f : Call → Call} {j : ℕ} {c : Call} (h : s.calls[j]? = some c) (k : ℕ) :
    (s.calls.modify k f)[j]? = some (if k = j then f c else c) := by
  rw [List.getElem?_modify, h]
  rfl

/-- What the task of a call does by itself changes neither its futures nor its place. -/
lemma Books.own (h : s.Books) {f : Call → Call} (k : ℕ)
    (hf : ∀ c, (f c).id = c.id ∧ (f c).response = c.response ∧ (f c).run = c.run ∧
      (f c).reply = c.reply)
    (hinv : ∀ c, c.Inv s.log s.cuts → (f c).Inv s.log s.cuts) :
    Books { s with calls := s.calls.modify k f } := by
  have hsame : ∀ (j : ℕ) (c : Call), (if k = j then f c else c).id = c.id ∧
      (if k = j then f c else c).response = c.response ∧
      (if k = j then f c else c).run = c.run ∧ (if k = j then f c else c).reply = c.reply := by
    intro j c
    split
    · exact hf c
    · exact ⟨rfl, rfl, rfl, rfl⟩
  refine ⟨fun j c' hc' => ?_, fun id j hid => ?_, fun j c' hc' hw => ?_, fun key j hkey => ?_,
    fun j c' hc' hd hr => ?_⟩
  · obtain ⟨c, hc, rfl⟩ := get_modify hc'
    split
    · exact hinv c (h.call j c hc)
    · exact h.call j c hc
  · obtain ⟨c, hc, hid', hw⟩ := h.held id j hid
    obtain ⟨h₁, h₂, -, -⟩ := hsame j c
    exact ⟨_, modify_get hc k, h₁.trans hid', h₂.trans hw⟩
  · obtain ⟨c, hc, rfl⟩ := get_modify hc'
    obtain ⟨h₁, h₂, -, -⟩ := hsame j c
    rw [h₁]
    exact h.waits j c hc (h₂.symm.trans hw)
  · obtain ⟨c, hc, hreply, hd, hr⟩ := h.listed key j hkey
    obtain ⟨-, h₂, h₃, h₄⟩ := hsame j c
    exact ⟨_, modify_get hc k, h₄.trans hreply, h₂.trans hd, h₃.trans hr⟩
  · obtain ⟨c, hc, rfl⟩ := get_modify hc'
    obtain ⟨-, h₂, h₃, h₄⟩ := hsame j c
    obtain ⟨key, hreply, hkey⟩ := h.listens j c hc (h₂.symm.trans hd) (h₃.symm.trans hr)
    exact ⟨key, h₄.trans hreply, hkey⟩

/-- A call begins, under a number that no call waits under. -/
lemma Books.chat (h : s.Books) (hfree : s.Free) :
    Books { s with
      reqId := s.nextReqId
      pending := s.pending.set s.nextReqId (.chat s.calls.length)
      calls := s.calls ++ [Call.start s.nextReqId s.cuts] } := by
  have hold : ∀ {j : ℕ} {c : Call}, s.calls[j]? = some c →
      (s.calls ++ [Call.start s.nextReqId s.cuts])[j]? = some c := by
    intro j c hj
    rw [List.getElem?_append_left (List.getElem?_eq_some_iff.mp hj).1]
    exact hj
  have hnew : ∀ {j : ℕ} {c : Call}, (s.calls ++ [Call.start s.nextReqId s.cuts])[j]? = some c →
      s.calls[j]? = some c ∨ j = s.calls.length ∧ c = Call.start s.nextReqId s.cuts := by
    intro j c hj
    rcases Nat.lt_or_ge j s.calls.length with hlt | hge
    · rw [List.getElem?_append_left hlt] at hj
      exact .inl hj
    · rw [List.getElem?_append_right hge] at hj
      cases hjk : j - s.calls.length with
      | zero =>
        rw [hjk] at hj
        exact .inr ⟨by omega, (Option.some.inj hj).symm⟩
      | succ m =>
        rw [hjk] at hj
        cases hj
  refine ⟨fun j c hc => ?_, fun id j hid => ?_, fun j c hc hw => ?_, fun key j hkey => ?_,
    fun j c hc hd hr => ?_⟩
  · rcases hnew hc with hc | ⟨-, rfl⟩
    · exact h.call j c hc
    · exact Call.Inv.start _ _ _
  · rw [Dict.get?_set] at hid
    split at hid
    next heq =>
      cases hid
      exact ⟨_, List.getElem?_concat_length, heq, rfl⟩
    next =>
      obtain ⟨c, hc, hrest⟩ := h.held id j hid
      exact ⟨c, hold hc, hrest⟩
  · rw [Dict.get?_set]
    rcases hnew hc with hc | ⟨rfl, rfl⟩
    · have hin := h.waits j c hc hw
      have hne : s.nextReqId ≠ c.id := by
        intro heq
        rw [← heq] at hin
        exact hfree j hin
      rw [if_neg hne]
      exact hin
    · exact if_pos rfl
  · obtain ⟨c, hc, hrest⟩ := h.listed key j hkey
    exact ⟨c, hold hc, hrest⟩
  · rcases hnew hc with hc | ⟨-, rfl⟩
    · exact h.listens j c hc hd hr
    · cases hd

/-- A connect request, under a number that no call waits under. -/
lemma Books.challenge (h : s.Books) (hfree : s.Free) (i : ℕ) : (s.challenge i).Books := by
  refine ⟨h.call, fun id j hid => ?_, fun j c hc hw => ?_, h.listed, h.listens⟩
  · have hid' : (s.pending.set s.nextReqId (.connect s.handshakes.length)).get? id =
        some (.chat j) := hid
    rw [Dict.get?_set] at hid'
    split at hid'
    · cases hid'
    · exact h.held id j hid'
  · change (s.pending.set s.nextReqId (.connect s.handshakes.length)).get? c.id = _
    have hin := h.waits j c hc hw
    have hne : s.nextReqId ≠ c.id := by
      intro heq
      rw [← heq] at hin
      exact hfree j hin
    rw [Dict.get?_set, if_neg hne]
    exact hin

/-- A response to a handshake leaves the calls. -/
lemma Books.connect (h : s.Books) {id n : ℕ} (hid : s.pending.get? id = some (.connect n)) :
    Books { s with pending := s.pending.erase id } := by
  refine ⟨h.call, fun id' j hid' => ?_, fun j c hc hw => ?_, h.listed, h.listens⟩
  · rw [Dict.get?_erase] at hid'
    split at hid'
    · cases hid'
    · exact h.held id' j hid'
  · have hin := h.waits j c hc hw
    rw [Dict.get?_erase, if_neg]
    · exact hin
    · intro heq
      rw [heq, hid] at hin
      cases hin

/-- The listeners behind a response. -/
lemma get_listeners {reply : Reply} {key : Key} {j k : ℕ}
    (h : (installListener s.chats k reply).get? key = some j) :
    s.chats.get? key = some j ∨ reply = .run key ∧ j = k := by
  cases reply with
  | run own =>
    have hset : (s.chats.set own k).get? key = some j := h
    rw [Dict.get?_set] at hset
    split at hset
    next heq =>
      cases hset
      exact .inr ⟨by rw [heq], rfl⟩
    next => exact .inl hset
  | refused shown => exact .inl h
  | noRunId => exact .inl h
  | unhashable => exact .inl h

/-- A response to a call that waits for it, that names no run of another call. -/
lemma Books.respond (h : s.Books) {id k : ℕ} (hid : s.pending.get? id = some (.chat k))
    {reply : Reply}
    (hfresh : ∀ key, reply = .run key →
      (∀ e ∈ s.log, key ≠ .text e.1) ∧ ∀ c ∈ s.calls, c.reply ≠ some (.run key)) :
    (s.respond id reply).Books := by
  obtain ⟨own, hown, hownid, hwaiting⟩ := h.held id k hid
  have hrun : own.run = .waiting := ((h.call k own hown).waits hwaiting).2
  have hother : ∀ {j : ℕ} {c : Call}, s.calls[j]? = some c → c.response ≠ .waiting → k ≠ j := by
    rintro j c hc hne rfl
    rw [hown] at hc
    cases hc
    exact hne hwaiting
  have hstep : s.respond id reply = { s with
      pending := s.pending.erase id
      calls := s.calls.modify k (Call.respond reply)
      chats := installListener s.chats k reply } := by
    simp only [Gateway.respond, hid]
  rw [hstep]
  refine ⟨fun j c' hc' => ?_, fun id' j hid' => ?_, fun j c' hc' hw => ?_, fun key j hkey => ?_,
    fun j c' hc' hd hr => ?_⟩
  · obtain ⟨c, hc, rfl⟩ := get_modify hc'
    split
    next hkj =>
      subst hkj
      rw [hown] at hc
      cases hc
      refine (h.call k own hown).respond hwaiting fun run hreply e he heq => ?_
      exact (hfresh _ hreply).1 e he (by rw [heq])
    next => exact h.call j c hc
  · rw [Dict.get?_erase] at hid'
    split at hid'
    · cases hid'
    next hne =>
      obtain ⟨c, hc, hcid, hw⟩ := h.held id' j hid'
      have hkj : k ≠ j := by
        rintro rfl
        rw [hown] at hc
        cases hc
        exact hne (hcid.symm.trans hownid)
      refine ⟨c, ?_, hcid, hw⟩
      have hget := modify_get hc (f := Call.respond reply) k
      rwa [if_neg hkj] at hget
  · obtain ⟨c, hc, rfl⟩ := get_modify hc'
    split at hw
    next => cases reply <;> cases hw
    next hkj =>
      rw [if_neg hkj]
      have hin := h.waits j c hc hw
      have hne : c.id ≠ id := by
        intro heq
        rw [heq, hid] at hin
        cases hin
        exact hkj rfl
      rw [Dict.get?_erase, if_neg hne]
      exact hin
  · rcases get_listeners hkey with hkey | ⟨rfl, rfl⟩
    · obtain ⟨c, hc, hreply, hd, hr⟩ := h.listed key j hkey
      have hkj : k ≠ j := hother hc (by simp [hd])
      refine ⟨c, ?_, hreply, hd, hr⟩
      have hget := modify_get hc (f := Call.respond reply) k
      rwa [if_neg hkj] at hget
    · refine ⟨own.respond (.run key), ?_, rfl, rfl, hrun⟩
      have hget := modify_get hown (f := Call.respond (.run key)) j
      rwa [if_pos rfl] at hget
  · obtain ⟨c, hc, rfl⟩ := get_modify hc'
    by_cases hkj : k = j
    · rw [if_pos hkj] at hd hr ⊢
      cases reply with
      | run key => exact ⟨key, rfl, by simp [installListener, hkj]⟩
      | refused shown => cases hd
      | noRunId => cases hr
      | unhashable => cases hd
    · rw [if_neg hkj] at hd hr ⊢
      obtain ⟨key, hreply, hkey⟩ := h.listens j c hc hd hr
      refine ⟨key, hreply, ?_⟩
      cases reply with
      | run named =>
        have hne : named ≠ key := by
          rintro rfl
          exact (hfresh named rfl).2 c (List.mem_of_getElem? hc) hreply
        have hget : (s.chats.set named k).get? key = s.chats.get? key := Dict.get?_set_ne hne
        exact hget.trans hkey
      | refused shown => exact hkey
      | noRunId => exact hkey
      | unhashable => exact hkey

lemma hear_kept (event : Event) (c : Call) :
    (c.hear event).id = c.id ∧ (c.hear event).response = c.response ∧
      (c.hear event).reply = c.reply := by
  cases event with
  | delta text =>
    simp only [Call.hear]
    split <;> exact ⟨rfl, rfl, rfl⟩
  | _ => exact ⟨rfl, rfl, rfl⟩

/-- A call that waits for the end of its run waits no more behind an event that is the end. -/
lemma hear_run {event : Event} {c : Call} (h : c.run = .waiting) :
    (c.hear event).run = .waiting ↔ Ends event = false := by
  cases event with
  | delta text =>
    simp only [Call.hear]
    split <;> simp [h, Ends]
  | _ => simp [Call.hear, h, Future.settle, Ends]

/-- A call whose listener is not in the table under a run does not listen to it. -/
lemma Books.unheard (h : s.Books) {run : String} {j : ℕ} {c : Call} (hc : s.calls[j]? = some c)
    (hnot : s.chats.get? (.text run) ≠ some j) (event : Event) :
    c.Inv (s.log ++ [(run, event)]) s.cuts := by
  refine (h.call j c hc).unheard (fun hreply hopen => ?_) event
  cases hresponse : c.response with
  | waiting =>
    rw [((h.call j c hc).waits hresponse).1] at hreply
    cases hreply
  | failed e => simp [Call.outcome, hresponse] at hopen
  | done =>
    cases hrun : c.run with
    | waiting =>
      obtain ⟨key, hkey, hin⟩ := h.listens j c hc hresponse hrun
      rw [hreply] at hkey
      cases hkey
      exact hnot hin
    | done => simp [Call.outcome, hresponse, hrun] at hopen
    | failed e => simp [Call.outcome, hresponse, hrun] at hopen

/-- A chat event goes to the listener of its run. -/
lemma Books.heard (h : s.Books) {run : String} {k : ℕ} (hk : s.chats.get? (.text run) = some k)
    (event : Event) :
    Books { s with
      log := s.log ++ [(run, event)]
      calls := s.calls.modify k (Call.hear event)
      chats := if Ends event then s.chats.erase (.text run) else s.chats } := by
  obtain ⟨own, hown, hreply, hdone, hrun⟩ := h.listed _ k hk
  have hlistener : ∀ {key : Key} {j : ℕ},
      (if Ends event then s.chats.erase (.text run) else s.chats).get? key = some j →
      s.chats.get? key = some j ∧ (key = .text run → Ends event = false) := by
    intro key j hj
    split at hj
    next =>
      rw [Dict.get?_erase] at hj
      split at hj
      · cases hj
      next hne => exact ⟨hj, fun heq => absurd heq hne⟩
    next hends => exact ⟨hj, fun _ => by simpa using hends⟩
  refine ⟨fun j c' hc' => ?_, fun id j hid => ?_, fun j c' hc' hw => ?_, fun key j hkey => ?_,
    fun j c' hc' hd hr => ?_⟩
  · obtain ⟨c, hc, rfl⟩ := get_modify hc'
    by_cases hkj : k = j
    · subst hkj
      rw [hown] at hc
      cases hc
      rw [if_pos rfl]
      exact (h.call k own hown).hear hreply hdone hrun event
    · rw [if_neg hkj]
      refine h.unheard hc ?_ event
      rw [hk]
      exact fun heq => hkj (Option.some.inj heq)
  · obtain ⟨c, hc, hcid, hw⟩ := h.held id j hid
    have hkj : k ≠ j := by
      rintro rfl
      rw [hown] at hc
      cases hc
      rw [hdone] at hw
      cases hw
    refine ⟨c, ?_, hcid, hw⟩
    have hget := modify_get hc (f := Call.hear event) k
    rwa [if_neg hkj] at hget
  · obtain ⟨c, hc, rfl⟩ := get_modify hc'
    obtain ⟨hid, hresponse, -⟩ := hear_kept event c
    split at hw
    next hkj =>
      rw [if_pos hkj, hid]
      exact h.waits j c hc (hresponse.symm.trans hw)
    next hkj =>
      rw [if_neg hkj]
      exact h.waits j c hc hw
  · obtain ⟨hin, hends⟩ := hlistener hkey
    obtain ⟨c, hc, hcreply, hd, hr⟩ := h.listed key j hin
    refine ⟨_, modify_get hc k, ?_⟩
    obtain ⟨-, hresponse, hsame⟩ := hear_kept event c
    split
    next hkj =>
      have hkey : key = .text run := by
        subst hkj
        rw [hown] at hc
        cases hc
        rw [hreply] at hcreply
        cases hcreply
        rfl
      exact ⟨hsame.trans hcreply, hresponse.trans hd, (hear_run hr).mpr (hends hkey)⟩
    next => exact ⟨hcreply, hd, hr⟩
  · obtain ⟨c, hc, rfl⟩ := get_modify hc'
    obtain ⟨-, hresponse, hsame⟩ := hear_kept event c
    by_cases hkj : k = j
    · rw [if_pos hkj] at hd hr ⊢
      subst hkj
      rw [hown] at hc
      cases hc
      refine ⟨.text run, hsame.trans hreply, ?_⟩
      have hstays : (if Ends event then s.chats.erase (.text run) else s.chats) = s.chats := by
        rw [(hear_run hrun).mp hr]
        rfl
      rw [hstays]
      exact hk
    · rw [if_neg hkj] at hd hr ⊢
      obtain ⟨key, hcreply, hin⟩ := h.listens j c hc hd hr
      have hne : key ≠ .text run := by
        rintro rfl
        rw [hk] at hin
        cases hin
        exact hkj rfl
      refine ⟨key, hcreply, ?_⟩
      split
      · rw [Dict.get?_erase, if_neg hne]
        exact hin
      · exact hin

/-- A chat event of a run that nobody listens to. -/
lemma Books.missed (h : s.Books) {run : String} (hnone : s.chats.get? (.text run) = none)
    (event : Event) : Books { s with log := s.log ++ [(run, event)] } := by
  refine ⟨fun j c hc => ?_, h.held, h.waits, h.listed, h.listens⟩
  refine h.unheard hc ?_ event
  rw [hnone]
  nofun

lemma get_reject {k : ℕ} {c' : Call} (h : s.reject.calls[k]? = some c') :
    ∃ c, s.calls[k]? = some c ∧
      c' = c.cut (.chat k ∈ s.pending.values) (k ∈ s.chats.values) := by
  have hmap : (s.calls.mapIdx fun k c =>
      c.cut (.chat k ∈ s.pending.values) (k ∈ s.chats.values))[k]? = some c' := h
  rw [List.getElem?_mapIdx] at hmap
  cases hc : s.calls[k]? with
  | none =>
    rw [hc] at hmap
    cases hmap
  | some c =>
    rw [hc] at hmap
    exact ⟨c, rfl, (Option.some.inj hmap).symm⟩

/-- Behind a rejection no call waits for anything. -/
lemma Books.reject (h : s.Books) : s.reject.Books := by
  refine ⟨fun j c' hc' => ?_, fun _ _ => nofun, fun j c' hc' hw => ?_, fun _ _ => nofun,
    fun j c' hc' hd hr => ?_⟩
  · obtain ⟨c, hc, rfl⟩ := get_reject hc'
    refine (h.call j c hc).cut _ fun hin => ?_
    obtain ⟨key, hkey⟩ := Dict.mem_values.mp (of_decide_eq_true hin)
    obtain ⟨c₁, hc₁, -, hd, -⟩ := h.listed key j hkey
    rw [hc] at hc₁
    cases hc₁
    exact hd
  · obtain ⟨c, hc, rfl⟩ := get_reject hc'
    exfalso
    cases hresponse : c.response with
    | waiting =>
      have hin := Dict.get?_mem_values (h.waits j c hc hresponse)
      simp [Call.cut, hin, hresponse, Future.settle] at hw
    | done => simp [Call.cut, hresponse, Future.settle] at hw
    | failed e => simp [Call.cut, hresponse, Future.settle] at hw
  · obtain ⟨c, hc, rfl⟩ := get_reject hc'
    exfalso
    cases hresponse : c.response with
    | waiting =>
      have hin := Dict.get?_mem_values (h.waits j c hc hresponse)
      simp [Call.cut, hin, hresponse, Future.settle] at hd
    | failed e => simp [Call.cut, hresponse, Future.settle] at hd
    | done =>
      cases hrun : c.run with
      | waiting =>
        obtain ⟨key, -, hkey⟩ := h.listens j c hc hresponse hrun
        have hin := Dict.get?_mem_values hkey
        simp [Call.cut, hin, hrun, Future.settle] at hr
      | done => simp [Call.cut, hrun, Future.settle] at hr
      | failed e => simp [Call.cut, hrun, Future.settle] at hr

/-! ### Who clears the tables -/

/-- A reader that would not have cleared the tables can end. -/
lemma Served.set (h : s.Served) {i : ℕ} {old : Listener} (hold : s.readers[i]? = some old)
    (r : Listener)
    (hr : old.phase ≠ .ended → old.cancelled = false → r.phase ≠ .ended ∧ r.cancelled = false) :
    (∃ (j : ℕ) (r' : Listener), (s.readers.set i r)[j]? = some r' ∧ r'.phase ≠ .ended ∧
      r'.cancelled = false) ∨ 0 < s.teardowns := by
  rcases h with ⟨j, own, hj, hphase, hcancelled⟩ | h
  · left
    by_cases hij : i = j
    · subst hij
      rw [hold] at hj
      cases hj
      obtain ⟨h₁, h₂⟩ := hr hphase hcancelled
      refine ⟨i, r, ?_, h₁, h₂⟩
      rw [List.getElem?_set_self (List.getElem?_eq_some_iff.mp hold).1]
    · refine ⟨j, own, ?_, hphase, hcancelled⟩
      rw [List.getElem?_set_ne hij]
      exact hj
  · exact .inr h

/-- A reader that leaves its loop will clear the tables. -/
lemma served_leave {i : ℕ} {r : Listener} (h : s.readers[i]? = some r) : (s.leave i).Served := by
  refine .inl ⟨i, ⟨.leaving, false⟩, ?_, nofun, rfl⟩
  change (s.readers.modify i fun _ => ⟨.leaving, false⟩)[i]? = _
  rw [List.getElem?_modify_eq, h]
  rfl

lemma not_owing_reject : ¬ s.reject.Owing := by
  rintro (⟨id, holder, hid⟩ | ⟨key, k, hkey⟩)
  · cases hid
  · cases hkey

lemma Books.same (h : s.Books) {t : Gateway} (hcalls : t.calls = s.calls)
    (hpending : t.pending = s.pending) (hchats : t.chats = s.chats) (hlog : t.log = s.log)
    (hcuts : t.cuts = s.cuts) : t.Books := by
  obtain ⟨h₁, h₂, h₃, h₄, h₅⟩ := h
  refine ⟨?_, ?_, ?_, ?_, ?_⟩
  · rw [hcalls, hlog, hcuts]
    exact h₁
  · rw [hcalls, hpending]
    exact h₂
  · rw [hcalls, hpending]
    exact h₃
  · rw [hcalls, hchats]
    exact h₄
  · rw [hcalls, hchats]
    exact h₅

lemma Inv.leave (h : s.Inv) {i : ℕ} {r : Listener} (hr : s.readers[i]? = some r) :
    (s.leave i).Inv :=
  ⟨h.books.same rfl rfl rfl rfl rfl, fun _ => served_leave hr⟩

lemma Inv.left (h : s.Inv) (i : ℕ) : (s.left i).Inv := by
  unfold Gateway.left
  split
  next hr => exact h.leave hr
  next hr => exact h.leave hr
  next => exact h

lemma Inv.chat (h : s.Inv) (hreg : s.Regular .chat) : s.chat.Inv := by
  unfold Gateway.chat
  split
  next hopen =>
    obtain ⟨hfree, hserved⟩ := hreg hopen
    exact ⟨h.books.chat hfree, fun _ => hserved⟩
  next => exact h

lemma Inv.challenge (h : s.Inv) {i : ℕ} (hi : s.readers[i]? = some ⟨.listening, false⟩)
    (hfree : s.Free) : (s.challenge i).Inv := by
  refine ⟨h.books.challenge hfree i, fun _ => .inl ⟨i, ⟨.replying s.handshakes.length, false⟩, ?_,
    nofun, rfl⟩⟩
  change (s.readers.modify i fun r => { r with phase := .replying s.handshakes.length })[i]? = _
  rw [List.getElem?_modify_eq, hi]
  rfl

lemma Inv.respond (h : s.Inv) {id : ℕ} {reply : Reply}
    (hfresh : ∀ key k, reply = .run key → s.pending.get? id = some (.chat k) →
      (∀ e ∈ s.log, key ≠ .text e.1) ∧ ∀ c ∈ s.calls, c.reply ≠ some (.run key)) :
    (s.respond id reply).Inv := by
  have hserved : ∀ holder, s.pending.get? id = some holder → s.Served :=
    fun holder hid => h.served (.inl ⟨id, holder, hid⟩)
  cases hid : s.pending.get? id with
  | none =>
    have hstep : s.respond id reply = s := by
      simp only [Gateway.respond, hid]
    rw [hstep]
    exact h
  | some holder =>
    cases holder with
    | connect n =>
      have hstep : s.respond id reply = { s with
          pending := s.pending.erase id, handshakes := s.handshakes.modify n (accept reply) } := by
        simp only [Gateway.respond, hid]
      rw [hstep]
      exact ⟨(h.books.connect hid).same rfl rfl rfl rfl rfl, fun _ => hserved _ hid⟩
    | chat k =>
      refine ⟨h.books.respond hid fun key hreply => hfresh key k hreply hid, fun _ => ?_⟩
      simp only [Gateway.respond, hid]
      exact hserved _ hid

lemma Inv.hear (h : s.Inv) {i : ℕ} {r : Listener} (hi : s.readers[i]? = some r) (run : String)
    (event : Event) : (s.hear i run event).Inv := by
  unfold Gateway.hear
  dsimp only
  split
  next hnone => exact ⟨h.books.missed hnone event, h.served⟩
  next k hk =>
    have hserved : s.Served := h.served (.inr ⟨_, k, hk⟩)
    have hbooks := h.books.heard hk event
    have hinv : Inv { s with
        log := s.log ++ [(run, event)]
        calls := s.calls.modify k (Call.hear event)
        chats := if Ends event then s.chats.erase (.text run) else s.chats } :=
      ⟨hbooks, fun _ => hserved⟩
    split
    · exact hinv.leave hi
    · exact hinv

lemma Inv.received (h : s.Inv) {i : ℕ} {frame : Json} (hord : s.Orderly (.received i frame))
    (hreg : s.Regular (.received i frame)) : (s.step (.received i frame)).Inv := by
  simp only [Gateway.step]
  split
  next hi =>
    cases hread : Message.read frame with
    | challenge nonce => exact h.challenge hi (hreg hi nonce hread)
    | response id reply =>
      refine h.respond fun key k hreply hid => hord id key k ?_ hid
      rw [hread, hreply]
    | chat run event => exact h.hear hi run event
    | ignored => exact h
  next => exact h

lemma Inv.replied (h : s.Inv) (i : ℕ) (ok : Bool) : (s.replied i ok).Inv := by
  unfold Gateway.replied
  split
  next n cancelled hi =>
    split
    next hok =>
      have hcancelled : cancelled = false := by
        cases cancelled with
        | true => simp at hok
        | false => rfl
      subst hcancelled
      exact ⟨h.books.same rfl rfl rfl rfl rfl,
        fun howing => (h.served howing).set hi _ fun _ _ => ⟨nofun, rfl⟩⟩
    next => exact h.leave hi
  next => exact h

lemma Inv.awaitConnect (h : s.Inv) (n : ℕ) : (s.awaitConnect n).Inv := by
  unfold Gateway.awaitConnect
  split
  next => exact h
  next =>
    have hmoved : ∀ (connected : Bool) (handshakes : List Handshake),
        Inv { s with connected, handshakes } :=
      fun _ _ => ⟨h.books.same rfl rfl rfl rfl rfl, h.served⟩
    dsimp only
    split
    · split
      · exact hmoved _ _
      · exact hmoved _ _
    · split
      · exact hmoved _ _
      · exact hmoved _ _
      · exact h
    · exact h

/-- A regular step keeps the invariant. -/
lemma Inv.step (h : s.Inv) {a : Step} (hord : s.Orderly a) (hreg : s.Regular a) :
    (s.step a).Inv := by
  cases a with
  | chat => exact h.chat hreg
  | sent k ok =>
    refine ⟨h.books.own k (fun c => ?_) fun c hc => hc.sent ok, h.served⟩
    unfold Call.sent
    split <;> exact ⟨rfl, rfl, rfl, rfl⟩
  | wake k =>
    refine ⟨h.books.own k (fun c => ?_) fun c hc => hc.wake, h.served⟩
    unfold Call.wake
    split <;> [split; split; skip] <;> exact ⟨rfl, rfl, rfl, rfl⟩
  | opened =>
    refine ⟨h.books.same rfl rfl rfl rfl rfl, fun _ => .inl ⟨s.readers.length, ⟨.made, false⟩, ?_,
      nofun, rfl⟩⟩
    exact List.getElem?_concat_length
  | begin i =>
    simp only [Gateway.step]
    split
    next cancelled hi =>
      refine ⟨h.books.same rfl rfl rfl rfl rfl, fun howing => (h.served howing).set hi _ ?_⟩
      intro _ hcancelled
      have hc : cancelled = false := hcancelled
      subst hc
      exact ⟨nofun, rfl⟩
    next => exact h
  | received i frame => exact h.received hord hreg
  | replied i ok => exact h.replied i ok
  | awaitConnect n => exact h.awaitConnect n
  | leave i => exact h.left i
  | exit i =>
    simp only [Gateway.step]
    split
    next =>
      exact ⟨h.books.reject.same rfl rfl rfl rfl rfl,
        fun howing => absurd howing (not_owing_reject (s := s))⟩
    next => exact h
  | broken i =>
    simp only [Gateway.step]
    split
    next cancelled hi =>
      refine ⟨h.books.same rfl rfl rfl rfl rfl, fun howing => (h.served howing).set hi _ ?_⟩
      intro _ hcancelled
      have hc : cancelled = false := hcancelled
      subst hc
      exact absurd hi hreg
    next => exact h
  | teardown =>
    exact ⟨h.books.same rfl rfl rfl rfl rfl, fun _ => .inr (Nat.succ_pos _)⟩
  | tornDown =>
    simp only [Gateway.step]
    split
    next =>
      exact ⟨h.books.reject.same rfl rfl rfl rfl rfl,
        fun howing => absurd howing (not_owing_reject (s := s))⟩
    next => exact h

/-! ### A call goes on -/

/-- How many resumptions a call is from its end, at most. -/
def rank : Phase → ℕ
  | .sending => 3
  | .requesting => 2
  | .listening => 1
  | .ended _ => 0

lemma rank_sent_le (ok : Bool) (c : Call) : rank (c.sent ok).phase ≤ rank c.phase := by
  unfold Call.sent
  split
  next hphase =>
    rw [hphase]
    cases ok <;> simp [rank]
  next => exact le_rfl

lemma rank_wake_le (c : Call) : rank c.wake.phase ≤ rank c.phase := by
  unfold Call.wake
  split
  next hphase => split <;> simp [hphase, rank]
  next hphase => split <;> simp [hphase, rank]
  next => exact le_rfl

/-- A call whose futures are done gets on when its task is resumed. -/
lemma rank_wake_lt {log : List (String × Event)} {cuts : ℕ} {c : Call} (h : c.Inv log cuts)
    (hdone : c.outcome ≠ none) (hphase : rank c.phase = 2 ∨ rank c.phase = 1) :
    rank c.wake.phase < rank c.phase := by
  cases hp : c.phase with
  | sending =>
    rw [hp] at hphase
    rcases hphase with h | h <;> cases h
  | ended o =>
    rw [hp] at hphase
    rcases hphase with h | h <;> cases h
  | requesting =>
    simp only [Call.wake, hp]
    split
    next hw => simp [Call.outcome, hw] at hdone
    all_goals simp [rank]
  | listening =>
    have hresponse := h.listens hp
    simp only [Call.wake, hp]
    split
    next hw => simp [Call.outcome, hresponse, hw] at hdone
    all_goals simp [rank]

lemma calls_left (i : ℕ) : (s.left i).calls = s.calls := by
  unfold Gateway.left
  split <;> rfl

lemma calls_replied (i : ℕ) (ok : Bool) : (s.replied i ok).calls = s.calls := by
  unfold Gateway.replied
  split
  · split <;> rfl
  · rfl

lemma calls_awaitConnect (n : ℕ) : (s.awaitConnect n).calls = s.calls := by
  unfold Gateway.awaitConnect
  split
  · rfl
  · dsimp only
    split
    · split <;> rfl
    · split <;> rfl
    · rfl

/-- What is done stays done when the tables are cleared. -/
lemma outcome_cut {c : Call} (h : c.outcome ≠ none) (pending chat : Bool) :
    (c.cut pending chat).outcome ≠ none := by
  cases hresponse : c.response with
  | waiting => simp [Call.outcome, hresponse] at h
  | failed e =>
    have hkept : (c.cut pending chat).response = .failed e := by
      simp [Call.cut, hresponse, Future.settle]
    simp [Call.outcome, hkept]
  | done =>
    cases hrun : c.run with
    | waiting => simp [Call.outcome, hresponse, hrun] at h
    | done =>
      rw [Call.cut_of_ne (fun _ => by simp [hresponse]) (fun _ => by simp [hrun])]
      exact h
    | failed e =>
      rw [Call.cut_of_ne (fun _ => by simp [hresponse]) (fun _ => by simp [hrun])]
      exact h

/-- How a step may change a call: its futures stay done, and its task moves when it is its turn. -/
structure Goes (a : Step) (k : ℕ) (c c' : Call) : Prop where
  done : c.outcome ≠ none → c'.outcome ≠ none
  phase : c'.phase = c.phase ∨ a = .wake k ∧ c'.phase = c.wake.phase ∨
    ∃ ok, a = .sent k ok ∧ c'.phase = (c.sent ok).phase

lemma Goes.same (a : Step) (k : ℕ) (c : Call) : Goes a k c c := ⟨id, .inl rfl⟩

/-- One of the calls is changed, while it waits. -/
lemma goes_modify {f : Call → Call} {a : Step} {j k : ℕ} {c : Call} (hc : s.calls[k]? = some c)
    (hf : j = k → Goes a k c (f c)) :
    ∃ c', (s.calls.modify j f)[k]? = some c' ∧ Goes a k c c' := by
  refine ⟨_, modify_get hc j, ?_⟩
  split
  next hjk => exact hf hjk
  next => exact .same a k c

lemma goes_reject (a : Step) {k : ℕ} {c : Call} (hc : s.calls[k]? = some c) :
    ∃ c', s.reject.calls[k]? = some c' ∧ Goes a k c c' := by
  refine ⟨c.cut (.chat k ∈ s.pending.values) (k ∈ s.chats.values), ?_,
    fun hdone => outcome_cut hdone _ _, .inl rfl⟩
  change (s.calls.mapIdx fun k c =>
    c.cut (.chat k ∈ s.pending.values) (k ∈ s.chats.values))[k]? = _
  rw [List.getElem?_mapIdx, hc]
  rfl

lemma Books.goes_handle (h : s.Books) (a : Step) {i k : ℕ} {c : Call} (hc : s.calls[k]? = some c)
    (msg : Message) : ∃ c', (s.handle i msg).calls[k]? = some c' ∧ Goes a k c c' := by
  cases msg with
  | challenge nonce => exact ⟨c, hc, .same a k c⟩
  | ignored => exact ⟨c, hc, .same a k c⟩
  | response id reply =>
    simp only [Gateway.handle, Gateway.respond]
    split
    next => exact ⟨c, hc, .same a k c⟩
    next => exact ⟨c, hc, .same a k c⟩
    next j hid =>
      refine goes_modify hc fun hjk => ?_
      subst hjk
      obtain ⟨own, hown, -, hwaiting⟩ := h.held id j hid
      rw [hc] at hown
      cases hown
      refine ⟨fun hdone => ?_, .inl ?_⟩
      · simp [Call.outcome, hwaiting] at hdone
      · cases reply <;> rfl
  | chat run event =>
    simp only [Gateway.handle, Gateway.hear]
    split
    next => exact ⟨c, hc, .same a k c⟩
    next j hj =>
      have hmodify : ∃ c', (s.calls.modify j (Call.hear event))[k]? = some c' ∧ Goes a k c c' := by
        refine goes_modify hc fun hjk => ?_
        subst hjk
        obtain ⟨own, hown, -, hdone, hrun⟩ := h.listed _ j hj
        rw [hc] at hown
        cases hown
        refine ⟨fun hdone' => ?_, .inl ?_⟩
        · simp [Call.outcome, hdone, hrun] at hdone'
        · cases event with
          | delta text =>
            simp only [Call.hear]
            split <;> rfl
          | _ => rfl
      split
      · exact hmodify
      · exact hmodify

/-- What a step makes of a call. -/
lemma Books.goes (h : s.Books) (a : Step) {k : ℕ} {c : Call} (hc : s.calls[k]? = some c) :
    ∃ c', (s.step a).calls[k]? = some c' ∧ Goes a k c c' := by
  have hstay : ∀ t : Gateway, t.calls = s.calls → ∃ c', t.calls[k]? = some c' ∧ Goes a k c c' :=
    fun t ht => ⟨c, ht ▸ hc, .same a k c⟩
  cases a with
  | chat =>
    simp only [Gateway.step, Gateway.chat]
    split
    next =>
      refine ⟨c, ?_, .same _ k c⟩
      change (s.calls ++ [Call.start s.nextReqId s.cuts])[k]? = some c
      rw [List.getElem?_append_left (List.getElem?_eq_some_iff.mp hc).1]
      exact hc
    next => exact hstay _ rfl
  | sent j ok =>
    refine goes_modify hc fun hjk => ?_
    subst hjk
    refine ⟨fun hdone => ?_, .inr (.inr ⟨ok, rfl, rfl⟩)⟩
    unfold Call.sent
    split <;> exact hdone
  | wake j =>
    refine goes_modify hc fun hjk => ?_
    subst hjk
    refine ⟨fun hdone => ?_, .inr (.inl ⟨rfl, rfl⟩)⟩
    unfold Call.wake
    split <;> [split; split; skip] <;> exact hdone
  | opened => exact hstay _ rfl
  | begin i =>
    refine hstay _ ?_
    simp only [Gateway.step]
    split <;> rfl
  | received i frame =>
    simp only [Gateway.step]
    split
    · exact h.goes_handle _ hc _
    · exact hstay _ rfl
  | replied i ok => exact hstay _ (calls_replied i ok)
  | awaitConnect n => exact hstay _ (calls_awaitConnect n)
  | leave i => exact hstay _ (calls_left i)
  | exit i =>
    simp only [Gateway.step]
    split
    · exact goes_reject _ hc
    · exact hstay _ rfl
  | broken i =>
    refine hstay _ ?_
    simp only [Gateway.step]
    split <;> rfl
  | teardown => exact hstay _ rfl
  | tornDown =>
    simp only [Gateway.step]
    split
    · exact goes_reject _ hc
    · exact hstay _ rfl

/-! ### Runs -/

/-- The client after the first `n` steps. -/
abbrev gateway (acts : ℕ → Step) (n : ℕ) : Gateway := run Gateway.step Gateway.start acts n

/-- The gateway keeps the order of its messages, and nothing irregular happens. -/
def Proper (acts : ℕ → Step) (n : ℕ) : Prop :=
  (gateway acts n).Orderly (acts n) ∧ (gateway acts n).Regular (acts n)

/-- Every task is resumed again and again, and every `send_str` comes to an end. -/
def Fair (acts : ℕ → Step) : Prop :=
  ∀ n k, (∃ m, n ≤ m ∧ acts m = .wake k) ∧ ∃ m, n ≤ m ∧ ∃ ok, acts m = .sent k ok

variable {acts : ℕ → Step}

lemma inv_start : start.Inv where
  books := ⟨fun _ _ => nofun, fun _ _ => nofun, fun _ _ => nofun, fun _ _ => nofun,
    fun _ _ => nofun⟩
  served := by
    rintro (⟨id, holder, hid⟩ | ⟨key, k, hkey⟩)
    · cases hid
    · cases hkey

lemma inv_gateway {n : ℕ} (h : ∀ i < n, Proper acts i) : (gateway acts n).Inv := by
  induction n with
  | zero => exact inv_start
  | succ n ih =>
    obtain ⟨hord, hreg⟩ := h n (Nat.lt_succ_self n)
    exact (ih fun i hi => h i (Nat.lt_succ_of_lt hi)).step hord hreg

/-- A call whose futures are done is over at last. -/
lemma over_of_done (hfair : Fair acts) (h : ∀ i, Proper acts i) {n k : ℕ} {c : Call}
    (hc : (gateway acts n).calls[k]? = some c) (hdone : c.outcome ≠ none) :
    ∃ m, n ≤ m ∧ (gateway acts m).Over k := by
  have hinv : ∀ m, (gateway acts m).Inv := fun m => inv_gateway fun i _ => h i
  have hkeep : ∀ m, n ≤ m → ∃ c', (gateway acts m).calls[k]? = some c' ∧ c'.outcome ≠ none := by
    intro m hm
    induction hm with
    | refl => exact ⟨c, hc, hdone⟩
    | @step m _ ih =>
      obtain ⟨c₁, hc₁, hdone₁⟩ := ih
      obtain ⟨c₂, hc₂, hgoes⟩ := (hinv m).books.goes (acts m) hc₁
      exact ⟨c₂, hc₂, hgoes.done hdone₁⟩
  let height : Gateway → ℕ := fun s => ((s.calls[k]?).map fun c => rank c.phase).getD 0
  have hheight : ∀ {m : ℕ} {c' : Call}, (gateway acts m).calls[k]? = some c' →
      height (gateway acts m) = rank c'.phase := by
    intro m c' hc'
    change (((gateway acts m).calls[k]?).map fun c => rank c.phase).getD 0 = _
    rw [hc']
    rfl
  have hle : ∀ m, n ≤ m → height (gateway acts (m + 1)) ≤ height (gateway acts m) := by
    intro m hm
    obtain ⟨c₁, hc₁, -⟩ := hkeep m hm
    obtain ⟨c₂, hc₂, hgoes⟩ := (hinv m).books.goes (acts m) hc₁
    rw [hheight hc₁, hheight (m := m + 1) hc₂]
    rcases hgoes.phase with heq | ⟨-, heq⟩ | ⟨ok, -, heq⟩
    · rw [heq]
    · rw [heq]
      exact rank_wake_le c₁
    · rw [heq]
      exact rank_sent_le ok c₁
  have hlt : ∀ m, n ≤ m → ¬ height (gateway acts m) = 0 →
      ∃ l, m ≤ l ∧ height (gateway acts (l + 1)) < height (gateway acts l) := by
    intro m hm hpos
    by_contra hnever
    -- the rank would stay what it is until the turn of the call comes
    have hsame : ∀ l, m ≤ l → height (gateway acts l) = height (gateway acts m) := by
      intro l hl
      induction hl with
      | refl => rfl
      | @step l hl ih =>
        have h₁ := hle l (hm.trans hl)
        have h₂ : ¬ height (gateway acts (l + 1)) < height (gateway acts l) :=
          fun hless => hnever ⟨l, hl, hless⟩
        change height (gateway acts (l + 1)) = _
        omega
    obtain ⟨⟨w, hw, hwake⟩, l, hl, ok, hsent⟩ := hfair m k
    have hthree : height (gateway acts m) = 3 ∨ height (gateway acts m) = 2 ∨
        height (gateway acts m) = 1 := by
      obtain ⟨c₁, hc₁, -⟩ := hkeep m hm
      rw [hheight hc₁] at hpos ⊢
      cases hp : c₁.phase <;> rw [hp] at hpos <;> simp [rank] at hpos ⊢
    rcases hthree with hrank | hrank
    · obtain ⟨c₁, hc₁, -⟩ := hkeep l (hm.trans hl)
      have hphase : c₁.phase = .sending := by
        have hr := (hheight hc₁).symm.trans ((hsame l hl).trans hrank)
        cases hp : c₁.phase <;> rw [hp] at hr <;> first | rfl | cases hr
      have hnext : (gateway acts (l + 1)).calls[k]? = some (c₁.sent ok) := by
        change ((gateway acts l).step (acts l)).calls[k]? = _
        rw [hsent]
        exact (modify_get hc₁ k).trans (by rw [if_pos rfl])
      have hstill := (hheight (m := l + 1) hnext).symm.trans
        ((hsame (l + 1) (Nat.le_succ_of_le hl)).trans hrank)
      simp only [Call.sent, hphase] at hstill
      cases ok <;> simp [rank] at hstill
    · obtain ⟨c₁, hc₁, hdone₁⟩ := hkeep w (hm.trans hw)
      have hphase : rank c₁.phase = 2 ∨ rank c₁.phase = 1 := by
        rw [← hheight hc₁, hsame w hw]
        exact hrank
      have hless := rank_wake_lt ((hinv w).books.call k c₁ hc₁) hdone₁ hphase
      have hnext : (gateway acts (w + 1)).calls[k]? = some c₁.wake := by
        change ((gateway acts w).step (acts w)).calls[k]? = _
        rw [hwake]
        exact (modify_get hc₁ k).trans (by rw [if_pos rfl])
      refine hnever ⟨w, hw, ?_⟩
      rw [hheight (m := w + 1) hnext, hheight hc₁]
      exact hless
  obtain ⟨m, hm, hzero⟩ := eventually_of_rank height (fun s => height s = 0) hle hlt
  obtain ⟨c', hc', -⟩ := hkeep m hm
  have hz : rank c'.phase = 0 := (hheight hc').symm.trans hzero
  refine ⟨m, hm, c', ?_⟩
  cases hp : c'.phase with
  | ended o => exact ⟨o, hc', rfl⟩
  | _ =>
    rw [hp] at hz
    cases hz

/-! ### A call that is lost -/

/-- A call that waits for its response is not among the pending. -/
def Orphaned (s : Gateway) (k : ℕ) : Prop :=
  (∃ c, s.calls[k]? = some c ∧ c.response = .waiting) ∧ ∀ id, s.pending.get? id ≠ some (.chat k)

/-- A chat takes a number and makes an entry, or a challenge does. -/
def Requests (s : Gateway) : Step → Prop
  | .chat => s.connected = true ∧ s.ws = true
  | .received i frame => s.readers[i]? = some ⟨.listening, false⟩ ∧
      ∃ nonce, Message.read frame = .challenge nonce
  | _ => False

lemma Orphaned.suspended {k : ℕ} (h : s.Orphaned k) : s.Suspended k := by
  obtain ⟨⟨c, hc, hwaiting⟩, -⟩ := h
  exact ⟨c, hc, by simp [Call.outcome, hwaiting]⟩

lemma Orphaned.same {k : ℕ} (h : s.Orphaned k) {t : Gateway} (hcalls : t.calls = s.calls)
    (hpending : t.pending = s.pending) : t.Orphaned k := by
  unfold Orphaned
  rw [hcalls, hpending]
  exact h

/-- What changes no response of a call, and adds no entry for it. -/
lemma Orphaned.modify {k : ℕ} (h : s.Orphaned k) {f : Call → Call} {j : ℕ}
    (hf : j = k → ∀ c, (f c).response = c.response) {t : Gateway}
    (hcalls : t.calls = s.calls.modify j f)
    (hpending : ∀ id, t.pending.get? id = some (.chat k) → s.pending.get? id = some (.chat k)) :
    t.Orphaned k := by
  obtain ⟨⟨c, hc, hwaiting⟩, hnone⟩ := h
  refine ⟨⟨_, hcalls ▸ modify_get hc j, ?_⟩, fun id hid => hnone id (hpending id hid)⟩
  split
  next hjk => exact (hf hjk c).trans hwaiting
  next => exact hwaiting

lemma Orphaned.reject {k : ℕ} (h : s.Orphaned k) : s.reject.Orphaned k := by
  obtain ⟨⟨c, hc, hwaiting⟩, hnone⟩ := h
  refine ⟨⟨c.cut (.chat k ∈ s.pending.values) (k ∈ s.chats.values), ?_, ?_⟩, fun _ => nofun⟩
  · change (s.calls.mapIdx fun k c =>
      c.cut (.chat k ∈ s.pending.values) (k ∈ s.chats.values))[k]? = _
    rw [List.getElem?_mapIdx, hc]
    rfl
  · have hout : Holder.chat k ∉ s.pending.values := by
      intro hin
      obtain ⟨id, hid⟩ := Dict.mem_values.mp hin
      exact hnone id hid
    simp only [Call.cut, hout, decide_false, Bool.false_eq_true, if_false]
    exact hwaiting

lemma Orphaned.handle {k : ℕ} (h : s.Orphaned k) (i : ℕ) (msg : Message) :
    (s.handle i msg).Orphaned k := by
  cases msg with
  | ignored => exact h
  | challenge nonce =>
    obtain ⟨hwaits, hnone⟩ := h
    refine ⟨hwaits, fun id hid => ?_⟩
    have hset : (s.pending.set s.nextReqId (.connect s.handshakes.length)).get? id =
        some (.chat k) := hid
    rw [Dict.get?_set] at hset
    split at hset
    · cases hset
    · exact hnone id hset
  | response id reply =>
    have herase : ∀ id', (s.pending.erase id).get? id' = some (.chat k) →
        s.pending.get? id' = some (.chat k) := by
      intro id' hid'
      rw [Dict.get?_erase] at hid'
      split at hid'
      · cases hid'
      · exact hid'
    simp only [Gateway.handle, Gateway.respond]
    split
    next => exact h
    next => exact ⟨h.1, fun id' hid' => h.2 id' (herase id' hid')⟩
    next j hid =>
      refine h.modify (fun hjk => ?_) rfl herase
      rw [hjk] at hid
      exact absurd hid (h.2 id)
  | chat run event =>
    simp only [Gateway.handle, Gateway.hear]
    split
    next => exact h.same rfl rfl
    next j _ =>
      have hresponse : ∀ c : Call, (c.hear event).response = c.response :=
        fun c => (hear_kept event c).2.1
      split
      · exact h.modify (fun _ => hresponse) rfl fun _ => id
      · exact h.modify (fun _ => hresponse) rfl fun _ => id

/-- No step brings a lost call back. -/
lemma Orphaned.step {k : ℕ} (h : s.Orphaned k) (a : Step) : (s.step a).Orphaned k := by
  cases a with
  | chat =>
    simp only [Gateway.step, Gateway.chat]
    split
    next =>
      obtain ⟨⟨c, hc, hwaiting⟩, hnone⟩ := h
      have hlt : k < s.calls.length := (List.getElem?_eq_some_iff.mp hc).1
      refine ⟨⟨c, ?_, hwaiting⟩, fun id hid => ?_⟩
      · change (s.calls ++ [Call.start s.nextReqId s.cuts])[k]? = some c
        rw [List.getElem?_append_left hlt]
        exact hc
      · have hset : (s.pending.set s.nextReqId (.chat s.calls.length)).get? id =
            some (.chat k) := hid
        rw [Dict.get?_set] at hset
        split at hset
        · cases hset
          omega
        · exact hnone id hset
    next => exact h
  | sent j ok =>
    refine h.modify (fun _ c => ?_) rfl fun _ => id
    unfold Call.sent
    split <;> rfl
  | wake j =>
    refine h.modify (fun _ c => ?_) rfl fun _ => id
    unfold Call.wake
    split <;> [split; split; skip] <;> rfl
  | opened => exact h.same rfl rfl
  | begin i =>
    simp only [Gateway.step]
    split
    · exact h.same rfl rfl
    · exact h
  | received i frame =>
    simp only [Gateway.step]
    split
    · exact h.handle i _
    · exact h
  | replied i ok =>
    refine h.same (calls_replied i ok) ?_
    simp only [Gateway.step, Gateway.replied]
    split
    · split <;> rfl
    · rfl
  | awaitConnect n =>
    refine h.same (calls_awaitConnect n) ?_
    simp only [Gateway.step, Gateway.awaitConnect]
    split
    · rfl
    · split
      · split <;> rfl
      · split <;> rfl
      · rfl
  | leave i =>
    refine h.same (calls_left i) ?_
    simp only [Gateway.step, Gateway.left]
    split <;> rfl
  | exit i =>
    simp only [Gateway.step]
    split
    · exact h.reject.same rfl rfl
    · exact h
  | broken i =>
    simp only [Gateway.step]
    split
    · exact h.same rfl rfl
    · exact h
  | teardown => exact h.same rfl rfl
  | tornDown =>
    simp only [Gateway.step]
    split
    · exact h.reject.same rfl rfl
    · exact h

lemma step_chat (h : s.Requests .chat) : s.step .chat = { s with
    reqId := s.nextReqId
    pending := s.pending.set s.nextReqId (.chat s.calls.length)
    calls := s.calls ++ [Call.start s.nextReqId s.cuts] } := if_pos h

/-- A request under the number of a call that waits takes its entry away from the call. -/
lemma Books.orphans (h : s.Books) {a : Step} (hrequests : s.Requests a) (hfree : ¬ s.Free) :
    ∃ k, (s.step a).Orphaned k := by
  obtain ⟨k, hk⟩ : ∃ k, s.pending.get? s.nextReqId = some (.chat k) := by
    simpa [Free] using hfree
  obtain ⟨c, hc, hid, hwaiting⟩ := h.held _ k hk
  have hlt : k < s.calls.length := (List.getElem?_eq_some_iff.mp hc).1
  -- the number is the only one under which the call is entered
  have honly : ∀ id, s.pending.get? id = some (.chat k) → id = s.nextReqId := by
    intro id hin
    obtain ⟨c', hc', hid', -⟩ := h.held id k hin
    rw [hc] at hc'
    cases hc'
    exact hid'.symm.trans hid
  have hgone : ∀ {holder : Holder}, holder ≠ .chat k → ∀ id,
      (s.pending.set s.nextReqId holder).get? id ≠ some (.chat k) := by
    intro holder hne id hin
    rw [Dict.get?_set] at hin
    split at hin
    · exact hne (Option.some.inj hin)
    next hid' => exact hid' (honly id hin).symm
  refine ⟨k, ?_⟩
  cases a with
  | chat =>
    rw [step_chat hrequests]
    refine ⟨⟨c, ?_, hwaiting⟩, hgone ?_⟩
    · change (s.calls ++ [Call.start s.nextReqId s.cuts])[k]? = some c
      rw [List.getElem?_append_left hlt]
      exact hc
    · intro heq
      cases heq
      omega
  | received i frame =>
    obtain ⟨hi, nonce, hread⟩ := hrequests
    simp only [Gateway.step, if_pos hi, hread, Gateway.handle]
    refine ⟨⟨c, hc, hwaiting⟩, hgone ?_⟩
    intro heq
    cases heq
  | _ => exact False.elim hrequests

/-- A call that is let in while nothing is left to clear the tables stays in them. -/
lemma not_settled_chat (hrequests : s.Requests .chat) (hserved : ¬ s.Served) :
    ¬ (s.step .chat).Settled := by
  intro h
  rw [step_chat hrequests] at h
  have hempty := (h.cleared hserved).pending s.nextReqId
  have hset : (s.pending.set s.nextReqId (.chat s.calls.length)).get? s.nextReqId =
      some (.chat s.calls.length) := Dict.get?_set_self _ _ _
  rw [hset] at hempty
  cases hempty

/-- A step that clears the tables leaves nothing and nobody waiting. -/
lemma Inv.clears (h : s.Inv) {a : Step} (hclears : s.Clears a) : (s.step a).Cleared := by
  have hcleared : s.reject.Cleared := h.books.reject.cleared (fun _ => rfl) fun _ => rfl
  cases a with
  | exit i =>
    obtain ⟨cancelled, hi⟩ := hclears
    simp only [Gateway.step, hi]
    exact ⟨hcleared.pending, hcleared.chats, hcleared.calls⟩
  | tornDown =>
    have hpos : 0 < s.teardowns := hclears
    simp only [Gateway.step, if_pos hpos]
    exact ⟨hcleared.pending, hcleared.chats, hcleared.calls⟩
  | _ => exact False.elim hclears

/-- **When a chat completes.** In a run of regular steps whose gateway keeps the order of its
messages, every call receives the deltas of its own run and comes to what the gateway has made of
it, or to a disconnect; whatever clears the tables leaves nothing in them and no call suspended, and
so does every state in which nothing is left to clear them; and a call that is not suspended is over
at last. A request under the number of a call that waits leaves that call suspended for ever, and a
call that is let in when nothing is left to clear the tables stays in them. -/
theorem completes (acts : ℕ → Step) :
    (∀ n, (∀ i < n, Proper acts i) → (gateway acts n).Settled ∧
      ((gateway acts n).Clears (acts n) → (gateway acts (n + 1)).Cleared)) ∧
    (Fair acts → (∀ i, Proper acts i) → ∀ n, ∀ k < (gateway acts n).calls.length,
      ¬ (gateway acts n).Suspended k → ∃ m, n ≤ m ∧ (gateway acts m).Over k) ∧
    (∀ n, (∀ i < n, Proper acts i) → (gateway acts n).Requests (acts n) →
      ¬ (gateway acts n).Free → ∃ k, ∀ m, n < m → (gateway acts m).Suspended k) ∧
    ∀ n, (gateway acts n).Requests .chat → ¬ (gateway acts n).Served → acts n = .chat →
      ¬ (gateway acts (n + 1)).Settled := by
  refine ⟨fun n h => ?_, fun hfair h n k hk hdone => ?_, fun n h hrequests hfree => ?_,
    fun n hrequests hserved hchat => ?_⟩
  · have hinv := inv_gateway h
    exact ⟨hinv.settled, hinv.clears⟩
  · have hc := List.getElem?_eq_getElem hk
    exact over_of_done hfair h hc fun hopen => hdone ⟨_, hc, hopen⟩
  · obtain ⟨k, hk⟩ := (inv_gateway h).books.orphans hrequests hfree
    refine ⟨k, fun m hm => ?_⟩
    have hnext : (gateway acts (n + 1)).Orphaned k := hk
    have horphan : (gateway acts m).Orphaned k :=
      run_invariant_from (I := fun _ => (Orphaned · k)) hnext (fun _ _ _ h => h.step _) hm
    exact horphan.suspended
  · change ¬ ((gateway acts n).step (acts n)).Settled
    rw [hchat]
    exact not_settled_chat hrequests hserved

def challengeFrame : Json := .obj [("type", .str "event"), ("event", .str "connect.challenge"),
  ("payload", .obj [("nonce", .str "n")])]

def acceptFrame : Json := .obj [("type", .str "res"), ("id", .str "1"), ("ok", .bool true),
  ("payload", .obj [])]

def runFrame : Json := .obj [("type", .str "res"), ("id", .str "2"), ("ok", .bool true),
  ("payload", .obj [("runId", .str "r")])]

def chatFrame (payload : List (String × Json)) : Json := .obj [("type", .str "event"),
  ("event", .str "chat"), ("payload", .obj (("runId", .str "r") :: payload))]

def deltaFrame : Json := chatFrame [("state", .str "delta"),
  ("message", .obj [("content", .arr [.obj [("text", .str "hello")]])])]

def finalFrame : Json := chatFrame [("state", .str "final")]

/-- A call is answered, and a second one is cut off by the end of the reader. -/
def answered (n : ℕ) : Step :=
  [.opened, .begin 0, .received 0 challengeFrame, .replied 0 true, .awaitConnect 0,
    .received 0 acceptFrame, .awaitConnect 0, .chat, .sent 0 true, .received 0 runFrame, .wake 0,
    .received 0 deltaFrame, .received 0 finalFrame, .wake 0, .chat, .sent 1 true, .leave 0,
    .exit 0].getD n (.wake 1)

lemma free_of_none (h : s.pending.get? s.nextReqId = none) : s.Free := by
  intro k hk
  rw [h] at hk
  cases hk

lemma proper_answered {i : ℕ} (hi : i < 18) : Proper answered i := by
  have hlistening : ∀ {n}, (gateway answered n).readers[0]? = some ⟨.listening, false⟩ →
      (gateway answered n).Served := fun h => .inl ⟨0, _, h, nofun, rfl⟩
  interval_cases i
  case «2» =>
    exact ⟨fun id key k hread => (nomatch hread), fun _ _ _ => free_of_none (by decide +kernel)⟩
  case «5» => exact ⟨fun id key k hread => (nomatch hread), fun _ nonce hread => (nomatch hread)⟩
  case «7» =>
    exact ⟨trivial, fun _ => ⟨free_of_none (by decide +kernel), hlistening (by decide +kernel)⟩⟩
  case «9» =>
    have hlog : (gateway answered 9).log.isEmpty = true := by decide +kernel
    have hcalls : (gateway answered 9).calls.all (fun c => c.reply.isNone) = true := by
      decide +kernel
    refine ⟨fun id key k _ _ => ⟨fun e he => ?_, fun c hc he => ?_⟩,
      fun _ nonce hread => (nomatch hread)⟩
    · rw [List.isEmpty_iff.mp hlog] at he
      cases he
    · have hnone := List.all_eq_true.mp hcalls c hc
      rw [he] at hnone
      cases hnone
  case «11» => exact ⟨fun id key k hread => (nomatch hread), fun _ nonce hread => (nomatch hread)⟩
  case «12» => exact ⟨fun id key k hread => (nomatch hread), fun _ nonce hread => (nomatch hread)⟩
  case «14» =>
    exact ⟨trivial, fun _ => ⟨free_of_none (by decide +kernel), hlistening (by decide +kernel)⟩⟩
  all_goals exact ⟨trivial, trivial⟩

theorem completes_sample : (gateway answered 18).Settled ∧ (gateway answered 18).Cleared ∧
    (gateway answered 19).calls.map Call.deltas = [["hello"], []] := by
  obtain ⟨hsettled, -⟩ := (completes answered).1 18 fun i hi => proper_answered hi
  obtain ⟨-, hcleared⟩ := (completes answered).1 17 fun i hi => proper_answered (by omega)
  exact ⟨hsettled, hcleared ⟨false, by decide +kernel⟩, by decide +kernel⟩
/-- The gateway accepts the connect request and closes the socket at once; the task that waits for
the handshake is resumed behind the end of the reader, and a call is let in. -/
def stale : List Step :=
  [.opened, .begin 0, .received 0 challengeFrame, .replied 0 true, .awaitConnect 0,
    .received 0 acceptFrame, .leave 0, .exit 0, .awaitConnect 0, .chat]

theorem not_completes : ¬ ∀ (acts : ℕ → Step) (n : ℕ),
    (∀ i < n, (gateway acts i).Orderly (acts i)) → (gateway acts n).Settled := by
  intro h
  let acts : ℕ → Step := fun n => stale.getD n .opened
  have horderly : ∀ i < 10, (gateway acts i).Orderly (acts i) := by
    intro i hi
    have hcases : i = 0 ∨ i = 1 ∨ i = 2 ∨ i = 3 ∨ i = 4 ∨ i = 5 ∨ i = 6 ∨ i = 7 ∨ i = 8 ∨
        i = 9 := by omega
    rcases hcases with rfl | rfl | rfl | rfl | rfl | rfl | rfl | rfl | rfl | rfl
    case inr.inr.inl => exact fun id key k hread => nomatch hread
    case inr.inr.inr.inr.inr.inl => exact fun id key k hread => nomatch hread
    all_goals exact trivial
  have hreaders : (gateway acts 10).readers = [⟨.ended, false⟩] := by decide +kernel
  have hteardowns : (gateway acts 10).teardowns = 0 := by decide +kernel
  have hpending : (gateway acts 10).pending.get? 2 = some (.chat 0) := by decide +kernel
  have hunserved : ¬ (gateway acts 10).Served := by
    rintro (⟨i, r, hr, hphase, -⟩ | hpos)
    · rw [hreaders] at hr
      cases i with
      | zero =>
        cases hr
        exact hphase rfl
      | succ i => cases hr
    · omega
  have hempty := ((h acts 10 horderly).cleared hunserved).pending 2
  rw [hpending] at hempty
  cases hempty

end Gateway

end Vauxr.OpenClaw
