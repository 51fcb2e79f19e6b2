import Mathlib
import Vauxr.Lib.Json

/-!
A call of `OpenClawClient.chat` (`agents/openclaw.py`): what the gateway sends, and what one call
makes of it.

A frame is read as `_handle_message` reads it. A call has two futures, one for the response to its
request and one for the end of its run; what they come to is compared with what the gateway has
said.
-/

namespace Vauxr.OpenClaw

open Lib

/-! ### What the gateway sends -/

/-- What a run goes by in the table of listeners. -/
inductive Key
  | text (s : String) | number (q : ℚ)
  deriving DecidableEq

/-- A response, as the listener of a request takes it. -/
inductive Reply
  | refused (shown : Json)
  | noRunId
  | unhashable
  | run (key : Key)

inductive Event
  | delta (text : String)
  | final
  | error (message : Json)
  | aborted
  | other
  | malformed

inductive Message
  | challenge (nonce : String)
  | response (id : ℕ) (reply : Reply)
  | chat (run : String) (event : Event)
  | ignored

/-- `get` of a dictionary: the last value of a key, and `None` where there is none. -/
def get (fields : List (String × Json)) (key : String) : Json :=
  ((fields.reverse.find? fun f => f.1 == key).map Prod.snd).getD .null

/-- `value or {}`, where it is a dictionary. -/
def dict? (value : Json) : Option (List (String × Json)) :=
  if value.truthy then
    match value with
    | .obj fields => some fields
    | _ => none
  else some []

/-- The request that `str(msg["id"])` names, a request going by its decimal digits. -/
def requestId? : Json → Option ℕ
  | .int n => if 0 ≤ n then some n.toNat else none
  | .str s =>
    let id := s.toList.foldl (fun id c => 10 * id + (c.toNat - '0'.toNat)) 0
    if toString id = s then some id else none
  | _ => none

def Key.of? : Json → Option Key
  | .str s => some (.text s)
  | .bool b => some (.number (if b then 1 else 0))
  | .int n => some (.number n)
  | .float q => some (.number q)
  | _ => none

def Reply.read (msg : List (String × Json)) : Reply :=
  if (get msg "ok").bool? = some false then
    let errMsg := match dict? (get msg "error") with
      | some error => get error "message"
      | none => .null
    .refused (if errMsg.truthy then errMsg else .obj msg)
  else
    let runId := get ((dict? (get msg "payload")).getD []) "runId"
    if runId.truthy then
      match Key.of? runId with
      | some key => .run key
      | none => .unhashable
    else .noRunId

/-- The text of a delta; a message that is neither false nor a dictionary has no `get`. -/
def deltaText? (payload : List (String × Json)) : Option String :=
  match dict? (get payload "message") with
  | none => none
  | some message =>
    match get message "content" with
    | .arr (.obj first :: _) => some ((get first "text").str?.getD "")
    | _ => some ""

def Event.read (payload : List (String × Json)) : Event :=
  match (get payload "state").str? with
  | some "delta" =>
    match deltaText? payload with
    | some text => .delta text
    | none => .malformed
  | some "final" => .final
  | some "error" =>
    let err := get payload "errorMessage"
    .error (if err.truthy then err else .str "Chat error")
  | some "aborted" => .aborted
  | _ => .other

/-- What `_handle_message` takes a frame for. -/
def Message.read : Json → Message
  | .obj msg =>
    let kind := (get msg "type").str?
    let event := (get msg "event").str?
    if kind = some "event" ∧ event = some "connect.challenge" then
      match (dict? (get msg "payload")).map fun payload => (get payload "nonce").str? with
      | some (some nonce) => .challenge nonce
      | _ => .ignored
    else if kind = some "res" then
      match requestId? (get msg "id") with
      | some id => .response id (Reply.read msg)
      | none => .ignored
    else if kind = some "event" ∧ event = some "chat" then
      match dict? (get msg "payload") with
      | some payload =>
        match (get payload "runId").str? with
        | some run => .chat run (Event.read payload)
        | none => .ignored
      | none => .ignored
    else .ignored
  | _ => .ignored

/-! ### The story of a run -/

/-- The texts that the events up to the end of a run bring. -/
def spoken : List Event → List String
  | [] => []
  | .delta text :: events => if text = "" then spoken events else text :: spoken events
  | .other :: events => spoken events
  | .malformed :: events => spoken events
  | _ :: _ => []

/-- An exception that `chat` raises. -/
inductive Failure
  | disconnected
  | refused (shown : Json)
  | noRunId
  | unhashable
  | chat (message : Json)
  | unsent

inductive Outcome
  | returned
  | raised (e : Failure)

/-- What the first event that ends a run makes of it. -/
def ending : List Event → Option Outcome
  | [] => none
  | .final :: _ => some .returned
  | .aborted :: _ => some .returned
  | .error message :: _ => some (.raised (.chat message))
  | _ :: events => ending events

lemma spoken_append {events : List Event} (h : ending events = none) (event : Event) :
    spoken (events ++ [event]) = spoken events ++ spoken [event] := by
  induction events with
  | nil => rfl
  | cons e events ih =>
    cases e with
    | delta text =>
      simp only [List.cons_append, spoken]
      split
      · exact ih h
      · rw [ih h, List.cons_append]
    | other => exact ih h
    | malformed => exact ih h
    | final => cases h
    | aborted => cases h
    | error message => cases h

lemma ending_append {events : List Event} (h : ending events = none) (event : Event) :
    ending (events ++ [event]) = ending [event] := by
  induction events with
  | nil => rfl
  | cons e events ih =>
    cases e with
    | delta text => exact ih h
    | other => exact ih h
    | malformed => exact ih h
    | final => cases h
    | aborted => cases h
    | error message => cases h

/-- Behind its end a run tells nothing more. -/
lemma story_ended {events : List Event} {o : Outcome} (h : ending events = some o)
    (event : Event) :
    spoken (events ++ [event]) = spoken events ∧ ending (events ++ [event]) = some o := by
  induction events with
  | nil => cases h
  | cons e events ih =>
    cases e with
    | delta text =>
      obtain ⟨hspoken, hending⟩ := ih h
      refine ⟨?_, hending⟩
      simp only [List.cons_append, spoken, hspoken]
    | other => exact ih h
    | malformed => exact ih h
    | final => exact ⟨rfl, h⟩
    | aborted => exact ⟨rfl, h⟩
    | error message => exact ⟨rfl, h⟩

lemma spoken_grows (events : List Event) (event : Event) :
    spoken events <+: spoken (events ++ [event]) := by
  cases h : ending events with
  | none =>
    rw [spoken_append h]
    exact List.prefix_append _ _
  | some o => rw [(story_ended h event).1]

/-! ### A call -/

inductive Future
  | waiting
  | done
  | failed (e : Failure)

/-- `if not future.done()`. -/
def Future.settle : Future → Future → Future
  | .waiting, f => f
  | f, _ => f

/-- The call sends its request, waits for the response, waits for the end of the run, or is over. -/
inductive Phase
  | sending | requesting | listening
  | ended (o : Outcome)

/-- `reply` is what the gateway has said to the request, and `since` counts the disconnects before
the call. -/
structure Call where
  id : ℕ
  phase : Phase
  response : Future
  run : Future
  reply : Option Reply
  deltas : List String
  since : ℕ

namespace Call

def start (id since : ℕ) : Call := ⟨id, .sending, .waiting, .waiting, none, [], since⟩

/-- Behind `send_str`. -/
def sent (ok : Bool) (c : Call) : Call :=
  match c.phase with
  | .sending => { c with phase := if ok then .requesting else .ended (.raised .unsent) }
  | _ => c

/-- The task of the call is resumed; a `TypeError` is not caught. -/
def wake (c : Call) : Call :=
  match c.phase with
  | .requesting =>
    match c.response, c.run with
    | .waiting, _ => c
    | .done, _ => { c with phase := .listening }
    | .failed .unhashable, _ => { c with phase := .ended (.raised .unhashable) }
    | .failed e, .waiting => { c with phase := .ended (.raised e) }
    | .failed _, _ => { c with phase := .listening }
  | .listening =>
    match c.run with
    | .waiting => c
    | .done => { c with phase := .ended .returned }
    | .failed e => { c with phase := .ended (.raised e) }
  | _ => c

/-- The reader takes a response to the request of the call; `on_payload` runs first. -/
def respond (reply : Reply) (c : Call) : Call :=
  match reply with
  | .refused shown => { c with reply := some reply, response := .failed (.refused shown) }
  | .noRunId => { c with reply := some reply, response := .done, run := .failed .noRunId }
  | .unhashable => { c with reply := some reply, response := .failed .unhashable }
  | .run _ => { c with reply := some reply, response := .done }

/-- The reader takes an event of the run of the call. -/
def hear (event : Event) (c : Call) : Call :=
  match event with
  | .delta text => if text = "" then c else { c with deltas := c.deltas ++ [text] }
  | .final => { c with run := c.run.settle .done }
  | .error message => { c with run := c.run.settle (.failed (.chat message)) }
  | .aborted => { c with run := c.run.settle .done }
  | .other => c
  | .malformed => c

/-- "Reject pending & chats", for a call that is among the pending or among the chats. -/
def cut (pending chat : Bool) (c : Call) : Call :=
  { c with
    response := if pending then c.response.settle (.failed .disconnected) else c.response
    run := if chat then c.run.settle (.failed .disconnected) else c.run }

/-- What the futures of the call have come to. -/
def outcome (c : Call) : Option Outcome :=
  match c.response with
  | .waiting => none
  | .failed e => some (.raised e)
  | .done =>
    match c.run with
    | .waiting => none
    | .done => some .returned
    | .failed e => some (.raised e)

/-- The events of the run that the response has named. -/
def story (log : List (String × Event)) (c : Call) : List Event :=
  match c.reply with
  | some (.run (.text run)) => (log.filter fun e => e.1 = run).map Prod.snd
  | _ => []

/-- What the gateway has made of the call. -/
def verdict (log : List (String × Event)) (c : Call) : Option Outcome :=
  match c.reply with
  | none => none
  | some (.refused shown) => some (.raised (.refused shown))
  | some .noRunId => some (.raised .noRunId)
  | some .unhashable => some (.raised .unhashable)
  | some (.run _) => ending (c.story log)

/-- The call has received the deltas of its own run, and comes to what the gateway has made of it;
or a disconnect since has ended it. -/
structure Right (log : List (String × Event)) (cuts : ℕ) (c : Call) : Prop where
  outcome : c.outcome = c.verdict log ∨
    c.outcome = some (.raised .disconnected) ∧ c.since < cuts
  heard : c.deltas <+: spoken (c.story log)
  deltas : c.outcome ≠ some (.raised .disconnected) → c.deltas = spoken (c.story log)
  ends : ∀ o, c.phase = .ended o → c.outcome = some o ∨ o = .raised .unsent

/-- `Right`, and how the futures stand to each other. -/
structure Inv (log : List (String × Event)) (cuts : ℕ) (c : Call) : Prop where
  right : c.Right log cuts
  waits : c.response = .waiting → c.reply = none ∧ c.run = .waiting
  failed : ∀ e, c.response = .failed e → c.run = .waiting
  listens : c.phase = .listening → c.response = .done
  since : c.since ≤ cuts

variable {log : List (String × Event)} {cuts : ℕ} {c : Call}

lemma story_own {run : String} (h : c.reply = some (.run (.text run))) (event : Event) :
    c.story (log ++ [(run, event)]) = c.story log ++ [event] := by
  simp [story, h]

lemma story_other {run : String} (h : c.reply ≠ some (.run (.text run))) (event : Event) :
    c.story (log ++ [(run, event)]) = c.story log := by
  unfold story
  split
  next own hreply =>
    have hne : run ≠ own := by
      rintro rfl
      exact h hreply
    simp [hne]
  next => rfl

lemma Inv.start (log : List (String × Event)) (id cuts : ℕ) :
    (Call.start id cuts).Inv log cuts where
  right :=
    { outcome := .inl rfl
      heard := List.nil_prefix
      deltas := fun _ => rfl
      ends := nofun }
  waits _ := ⟨rfl, rfl⟩
  failed := nofun
  listens := nofun
  since := le_rfl

lemma Inv.sent (h : c.Inv log cuts) (ok : Bool) : (c.sent ok).Inv log cuts := by
  unfold Call.sent
  split
  next hphase =>
    refine ⟨⟨h.right.outcome, h.right.heard, h.right.deltas, fun o ho => ?_⟩, h.waits, h.failed, ?_,
      h.since⟩
    · cases ok with
      | true => cases ho
      | false =>
        cases ho
        exact .inr rfl
    · cases ok <;> nofun
  next => exact h

/-- A call whose future is done comes to what its futures say. -/
lemma Inv.wake (h : c.Inv log cuts) : c.wake.Inv log cuts := by
  have hmoved : ∀ phase, (phase = .listening → c.response = .done) →
      (∀ o, phase = .ended o → c.outcome = some o) → Inv log cuts { c with phase } := by
    intro phase hlistens hover
    exact ⟨⟨h.right.outcome, h.right.heard, h.right.deltas, fun o ho => .inl (hover o ho)⟩,
      h.waits, h.failed, hlistens, h.since⟩
  unfold Call.wake
  split
  next hphase =>
    split
    next => exact h
    next hdone => exact hmoved _ (fun _ => hdone) nofun
    next hfailed =>
      refine hmoved _ nofun fun o ho => ?_
      cases ho
      simp only [outcome, hfailed]
    next e _ hfailed _ =>
      refine hmoved _ nofun fun o ho => ?_
      cases ho
      simp only [outcome, hfailed]
    next hfailed hrun => exact absurd (h.failed _ hfailed) hrun
  next hphase =>
    have hdone : c.response = .done := h.listens hphase
    split
    next => exact h
    next hrun =>
      refine hmoved _ nofun fun o ho => ?_
      cases ho
      simp only [outcome, hdone, hrun]
    next e hrun =>
      refine hmoved _ nofun fun o ho => ?_
      cases ho
      simp only [outcome, hdone, hrun]
  next => exact h

/-- A response to the request of a call that waits for it; the run it names has told nothing. -/
lemma Inv.respond (h : c.Inv log cuts) (hwaiting : c.response = .waiting) {reply : Reply}
    (hfresh : ∀ run, reply = .run (.text run) → ∀ e ∈ log, e.1 ≠ run) :
    (c.respond reply).Inv log cuts := by
  obtain ⟨hreply, hrun⟩ := h.waits hwaiting
  have hdeltas : c.deltas = [] := by
    have hquiet : c.outcome ≠ some (.raised .disconnected) := by
      simp [outcome, hwaiting]
    have hstory := h.right.deltas hquiet
    simpa [story, hreply, spoken] using hstory
  have hphase : c.phase ≠ .listening := by
    intro hlistening
    have hdone := h.listens hlistening
    rw [hwaiting] at hdone
    cases hdone
  have hends : ∀ o, c.phase = .ended o → o = .raised .unsent := by
    intro o ho
    rcases h.right.ends o ho with hsome | hunsent
    · simp [outcome, hwaiting] at hsome
    · exact hunsent
  cases reply with
  | refused shown =>
    exact ⟨⟨.inl rfl, by simp [Call.respond, hdeltas],
      fun _ => by simp [Call.respond, hdeltas, story, spoken], fun o ho => .inr (hends o ho)⟩,
      nofun, fun _ _ => hrun, fun hl => absurd hl hphase, h.since⟩
  | noRunId =>
    exact ⟨⟨.inl rfl, by simp [Call.respond, hdeltas],
      fun _ => by simp [Call.respond, hdeltas, story, spoken], fun o ho => .inr (hends o ho)⟩,
      nofun, nofun, fun hl => absurd hl hphase, h.since⟩
  | unhashable =>
    exact ⟨⟨.inl rfl, by simp [Call.respond, hdeltas],
      fun _ => by simp [Call.respond, hdeltas, story, spoken], fun o ho => .inr (hends o ho)⟩,
      nofun, fun _ _ => hrun, fun hl => absurd hl hphase, h.since⟩
  | run key =>
    have hstory : (c.respond (.run key)).story log = [] := by
      cases key with
      | text run =>
        have hnone : (log.filter fun e => e.1 = run) = [] := by
          rw [List.filter_eq_nil_iff]
          intro e he
          simpa using hfresh run rfl e he
        simp [story, Call.respond, hnone]
      | number q => rfl
    refine ⟨⟨.inl ?_, ?_, fun _ => ?_, fun o ho => .inr (hends o ho)⟩, nofun, nofun, fun _ => rfl,
      h.since⟩
    · have hverdict : (c.respond (.run key)).verdict log =
          ending ((c.respond (.run key)).story log) := rfl
      rw [hverdict, hstory]
      simp [outcome, Call.respond, hrun, ending]
    · simp [Call.respond, hdeltas]
    · rw [hstory]
      exact hdeltas

/-- An event of a run reaches the call that listens to it. -/
lemma Inv.hear (h : c.Inv log cuts) {run : String} (hreply : c.reply = some (.run (.text run)))
    (hdone : c.response = .done) (hrun : c.run = .waiting) (event : Event) :
    (c.hear event).Inv (log ++ [(run, event)]) cuts := by
  have hopen : c.outcome = none := by
    simp only [outcome, hdone, hrun]
  have hending : ending (c.story log) = none := by
    rcases h.right.outcome with hverdict | ⟨hcut, -⟩
    · simp only [verdict, hreply] at hverdict
      rw [← hverdict, hopen]
    · rw [hopen] at hcut
      cases hcut
  have hdeltas : c.deltas = spoken (c.story log) := by
    refine h.right.deltas ?_
    rw [hopen]
    nofun
  have hends : ∀ o, c.phase = .ended o → o = .raised .unsent := by
    intro o ho
    rcases h.right.ends o ho with hsome | hunsent
    · rw [hopen] at hsome
      cases hsome
    · exact hunsent
  have hkeep : (c.hear event).reply = c.reply ∧ (c.hear event).response = c.response ∧
      (c.hear event).phase = c.phase ∧ (c.hear event).since = c.since := by
    cases event with
    | delta text =>
      simp only [Call.hear]
      split <;> exact ⟨rfl, rfl, rfl, rfl⟩
    | _ => exact ⟨rfl, rfl, rfl, rfl⟩
  obtain ⟨hreply', hresponse', hphase', hsince'⟩ := hkeep
  have hstory : (c.hear event).story (log ++ [(run, event)]) = c.story log ++ [event] := by
    rw [← story_own hreply]
    simp only [story, hreply']
  have hsaid : (c.hear event).deltas = spoken (c.story log ++ [event]) := by
    rw [spoken_append hending, ← hdeltas]
    cases event with
    | delta text =>
      simp only [Call.hear, spoken]
      split
      · exact (List.append_nil _).symm
      · rfl
    | _ => exact (List.append_nil _).symm
  have houtcome : (c.hear event).outcome = ending [event] := by
    cases event with
    | delta text =>
      simp only [Call.hear]
      split
      · exact hopen
      · exact hopen
    | other => exact hopen
    | malformed => exact hopen
    | final => simp only [outcome, Call.hear, hdone, hrun, Future.settle, ending]
    | aborted => simp only [outcome, Call.hear, hdone, hrun, Future.settle, ending]
    | error message => simp only [outcome, Call.hear, hdone, hrun, Future.settle, ending]
  refine ⟨⟨.inl ?_, ?_, fun _ => ?_, fun o ho => .inr (hends o (hphase' ▸ ho))⟩, fun hw => ?_,
    fun e he => ?_, fun _ => ?_, ?_⟩
  · rw [houtcome, verdict, hreply', hreply, hstory, ending_append hending]
  · rw [hsaid, hstory]
  · rw [hsaid, hstory]
  · rw [hresponse', hdone] at hw
    cases hw
  · rw [hresponse', hdone] at he
    cases he
  · rw [hresponse', hdone]
  · rw [hsince']
    exact h.since

/-- An event that a call does not listen to: of another run, or behind the end of its own. -/
lemma Inv.unheard (h : c.Inv log cuts) {run : String}
    (hnot : c.reply = some (.run (.text run)) → c.outcome ≠ none) (event : Event) :
    c.Inv (log ++ [(run, event)]) cuts := by
  by_cases hreply : c.reply = some (.run (.text run))
  · have hstory := @story_own log c run hreply event
    refine ⟨?_, h.waits, h.failed, h.listens, h.since⟩
    rcases h.right.outcome with hverdict | hcut
    · obtain ⟨o, ho⟩ := Option.ne_none_iff_exists'.mp (hnot hreply)
      have hending : ending (c.story log) = some o := by
        rw [hverdict] at ho
        simpa only [verdict, hreply] using ho
      obtain ⟨hspoken, hstill⟩ := story_ended hending event
      refine ⟨.inl ?_, ?_, fun hq => ?_, h.right.ends⟩
      · rw [ho]
        simp only [verdict, hreply]
        rw [hstory, hstill]
      · rw [hstory, hspoken]
        exact h.right.heard
      · rw [hstory, hspoken]
        exact h.right.deltas hq
    · refine ⟨.inr hcut, ?_, fun hq => absurd hcut.1 hq, h.right.ends⟩
      rw [hstory]
      exact h.right.heard.trans (spoken_grows _ _)
  · have hstory := @story_other log c run hreply event
    have hverdict : c.verdict (log ++ [(run, event)]) = c.verdict log := by
      unfold verdict
      rw [hstory]
    refine ⟨⟨?_, ?_, ?_, h.right.ends⟩, h.waits, h.failed, h.listens, h.since⟩
    · rw [hverdict]
      exact h.right.outcome
    · rw [hstory]
      exact h.right.heard
    · rw [hstory]
      exact h.right.deltas

lemma settle_of_ne {f : Future} (h : f ≠ .waiting) (g : Future) : f.settle g = f := by
  cases f with
  | waiting => exact absurd rfl h
  | done => rfl
  | failed e => rfl

/-- A disconnect leaves what is done. -/
lemma cut_of_ne {pending chat : Bool} (hresponse : pending = true → c.response ≠ .waiting)
    (hrun : chat = true → c.run ≠ .waiting) : c.cut pending chat = c := by
  have h₁ : (if pending then c.response.settle (.failed .disconnected) else c.response) =
      c.response := by
    split
    next hp => exact settle_of_ne (hresponse hp) _
    next => rfl
  have h₂ : (if chat then c.run.settle (.failed .disconnected) else c.run) = c.run := by
    split
    next hc => exact settle_of_ne (hrun hc) _
    next => rfl
  unfold Call.cut
  rw [h₁, h₂]

/-- A disconnect: what is not done fails. -/
lemma Inv.cut (h : c.Inv log cuts) (pending : Bool) {chat : Bool}
    (hchat : chat = true → c.response = .done) : (c.cut pending chat).Inv log (cuts + 1) := by
  have hsince : c.since < cuts + 1 := Nat.lt_succ_of_le h.since
  have hlater : c.Inv log (cuts + 1) :=
    ⟨⟨h.right.outcome.imp_right fun hcut => ⟨hcut.1, hsince⟩, h.right.heard, h.right.deltas,
      h.right.ends⟩, h.waits, h.failed, h.listens, hsince.le⟩
  have hended : ∀ c' : Call, c'.phase = c.phase → c'.reply = c.reply → c'.deltas = c.deltas →
      c'.since = c.since → c.outcome = none → c'.outcome = some (.raised .disconnected) →
      c'.Right log (cuts + 1) := by
    intro c' hphase hreply hdeltas hsince' hnone hcut
    refine ⟨.inr ⟨hcut, hsince' ▸ hsince⟩, ?_, fun hq => absurd hcut hq, fun o ho => .inr ?_⟩
    · simp only [story, hreply, hdeltas]
      exact h.right.heard
    · rcases h.right.ends o (hphase ▸ ho) with hsome | hunsent
      · rw [hnone] at hsome
        cases hsome
      · exact hunsent
  cases hresponse : c.response with
  | waiting =>
    obtain ⟨hreply, hrun⟩ := h.waits hresponse
    have hnochat : chat = false := by
      cases chat with
      | true => exact absurd (hresponse.symm.trans (hchat rfl)) nofun
      | false => rfl
    subst hnochat
    cases pending with
    | false => exact hlater
    | true =>
      refine ⟨hended _ rfl rfl rfl rfl ?_ ?_, ?_, fun _ _ => hrun, fun hl => ?_, hsince.le⟩
      · simp only [outcome, hresponse]
      · simp only [outcome, Call.cut, hresponse, Future.settle, if_true]
      · simp only [Call.cut, hresponse, Future.settle, if_true]
        nofun
      · exact absurd (hresponse.symm.trans (h.listens hl)) nofun
  | failed e =>
    have hnochat : chat = false := by
      cases chat with
      | true => exact absurd (hresponse.symm.trans (hchat rfl)) nofun
      | false => rfl
    subst hnochat
    rw [cut_of_ne (fun _ => by simp [hresponse]) (fun hf => by cases hf)]
    exact hlater
  | done =>
    have hkept : (c.cut pending chat).response = .done := by
      cases pending <;> simp [Call.cut, hresponse, Future.settle]
    cases hrun : c.run with
    | waiting =>
      cases chat with
      | false =>
        rw [cut_of_ne (fun _ => by simp [hresponse]) (fun hf => by cases hf)]
        exact hlater
      | true =>
        refine ⟨hended _ rfl rfl rfl rfl ?_ ?_, fun hw => ?_, fun e he => ?_, fun _ => hkept,
          hsince.le⟩
        · simp only [outcome, hresponse, hrun]
        · simp only [outcome, hkept]
          simp only [Call.cut, hrun, Future.settle, if_true]
        · exact absurd (hkept.symm.trans hw) nofun
        · exact absurd (hkept.symm.trans he) nofun
    | done =>
      rw [cut_of_ne (fun _ => by simp [hresponse]) (fun _ => by simp [hrun])]
      exact hlater
    | failed e =>
      rw [cut_of_ne (fun _ => by simp [hresponse]) (fun _ => by simp [hrun])]
      exact hlater

end Call

end Vauxr.OpenClaw
